import Raster.Error
/-!
# Option maps

An option map gives some keys a value each.  It is kept as a list of entries without repeated
keys; the order of the list has no meaning, `get?` and `Mem` are what counts.  The typed
getters say which option is missing or has a value of the wrong kind.
-/

namespace Raster

/-- A map from keys to option values. -/
structure Options where
  entries : List (String × OptionValue)
  nodup : (entries.map (·.1)).Nodup

namespace Options

/-- The map without entries. -/
def empty : Options := ⟨[], List.nodup_nil⟩

instance : Inhabited Options := ⟨empty⟩

/-- The value of a key in a list of entries. -/
def find? (key : String) : List (String × OptionValue) → Option OptionValue
  | [] => none
  | (k, v) :: rest => if k = key then some v else find? key rest

/-- Give a key a value in a list of entries: in place of its old value, or at the end. -/
def put (key : String) (value : OptionValue) :
    List (String × OptionValue) → List (String × OptionValue)
  | [] => [(key, value)]
  | (k, v) :: rest => if k = key then (key, value) :: rest else (k, v) :: put key value rest

theorem mem_keys_put {key k : String} {value : OptionValue} {l : List (String × OptionValue)} :
    k ∈ (put key value l).map (·.1) ↔ k = key ∨ k ∈ l.map (·.1) := by
  induction l with
  | nil => simp [put]
  | cons e l ih =>
    obtain ⟨k', v'⟩ := e
    by_cases h : k' = key
    · simp [put, h]
    · simp only [put, if_neg h, List.map_cons, List.mem_cons, ih]
      constructor
      · rintro (h | h | h)
        · exact Or.inr (Or.inl h)
        · exact Or.inl h
        · exact Or.inr (Or.inr h)
      · rintro (h | h | h)
        · exact Or.inr (Or.inl h)
        · exact Or.inl h
        · exact Or.inr (Or.inr h)

theorem nodup_put {key : String} {value : OptionValue} {l : List (String × OptionValue)}
    (h : (l.map (·.1)).Nodup) : ((put key value l).map (·.1)).Nodup := by
  induction l with
  | nil => simp [put]
  | cons e l ih =>
    obtain ⟨k', v'⟩ := e
    rw [List.map_cons, List.nodup_cons] at h
    by_cases hk : k' = key
    · subst hk
      simpa [put] using h
    · rw [put, if_neg hk, List.map_cons, List.nodup_cons]
      refine ⟨?_, ih h.2⟩
      rw [mem_keys_put]
      rintro (hk' | hk')
      · exact hk hk'
      · exact h.1 hk'

/-- The value of a key. -/
def get? (o : Options) (key : String) : Option OptionValue := find? key o.entries

/-- Give a key a value. -/
def insert (o : Options) (key : String) (value : OptionValue) : Options :=
  ⟨put key value o.entries, nodup_put o.nodup⟩

/-- Whether a key has a value. -/
def contains (o : Options) (key : String) : Bool := (o.get? key).isSome

/-- The number of keys that have a value. -/
def size (o : Options) : Nat := o.entries.length

/-- The map of some entries; the last value of a key counts. -/
def ofList (l : List (String × OptionValue)) : Options :=
  l.foldl (fun o (k, v) => o.insert k v) empty

/-- The entries of both maps; those of the second count where both have one. -/
def merge (o p : Options) : Options := p.entries.foldl (fun o (k, v) => o.insert k v) o

/-! ## Typed getters -/

/-- The value of a key that has to have one. -/
def require (o : Options) (key : String) : Except Refusal OptionValue :=
  match o.get? key with
  | some v => .ok v
  | none => .error (.missingOption key)

/-- A truth value. -/
def bool (o : Options) (key : String) : Except Refusal Bool := do
  match ← o.require key with
  | .bool v => return v
  | v => throw (.optionKind key .bool v.kind)

/-- An integer. -/
def int (o : Options) (key : String) : Except Refusal Int := do
  match ← o.require key with
  | .int v => return v.toInt
  | v => throw (.optionKind key .int v.kind)

/-- A double; an integer will do. -/
def double (o : Options) (key : String) : Except Refusal Float := do
  let v ← o.require key
  match v.toDouble? with
  | some x => return x
  | none => throw (.optionKind key .double v.kind)

/-- A text. -/
def text (o : Options) (key : String) : Except Refusal String := do
  match ← o.require key with
  | .text v => return v
  | v => throw (.optionKind key .text v.kind)

/-- An integer from 0 to 255. -/
def byte (o : Options) (key : String) : Except Refusal (BitVec 8) := do
  let v ← o.int key
  if 0 ≤ v ∧ v ≤ 255 then return BitVec.ofNat 8 v.toNat
  else throw (.notAByte key)

end Options

end Raster
