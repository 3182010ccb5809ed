import Raster.Json.Token
/-!
# JSON documents

A document is built up from its tokens with a stack of the lists and objects that are still
open.  They nest less than 128 deep.
-/

namespace Raster.Json

/-- A list or an object that is still open, its complete items last first. -/
inductive Frame where
  | list (items : List Json)
  | object (members : List (String × Json)) (key : String)

/-- What may come next. -/
inductive Expectation where
  /-- A value. -/
  | value
  /-- The first item of a list, or its end. -/
  | firstItem
  /-- The first key of an object, or its end. -/
  | firstKey
  /-- A key. -/
  | key
  /-- The colon after a key. -/
  | colon (key : String)
  /-- A comma, or the end of what is open. -/
  | afterItem
  /-- Nothing: the document is complete. -/
  | done (value : Json)

/-- The part of a document that has been read. -/
structure Progress where
  /-- What is open, the innermost first; an object waits here for the value of a key. -/
  stack : List Frame
  next : Expectation

/-- The depth at which lists and objects may no longer be opened. -/
def depthLimit : Nat := 127

/-- A value is complete. -/
def Progress.close (stack : List Frame) (v : Json) : Progress :=
  match stack with
  | [] => ⟨[], .done v⟩
  | .list items :: rest => ⟨.list (v :: items) :: rest, .afterItem⟩
  | .object members key :: rest => ⟨.object ((key, v) :: members) "" :: rest, .afterItem⟩

/-- Read the beginning of a value. -/
def Progress.value (stack : List Frame) (t : Token) : Option Progress :=
  match t with
  | .leaf v => some (close stack v)
  | .openList =>
    if stack.length < depthLimit then some ⟨.list [] :: stack, .firstItem⟩ else none
  | .openObject =>
    if stack.length < depthLimit then some ⟨.object [] "" :: stack, .firstKey⟩ else none
  | _ => none

/-- Read one token. -/
def Progress.step (p : Progress) (t : Token) : Option Progress :=
  match p.next, t, p.stack with
  | .firstItem, .closeList, .list items :: rest => some (close rest (.list items.reverse))
  | .firstKey, .closeObject, .object members _ :: rest =>
    some (close rest (.object members.reverse))
  | .firstKey, .leaf (.text key), stack => some ⟨stack, .colon key⟩
  | .key, .leaf (.text key), stack => some ⟨stack, .colon key⟩
  | .colon key, .colon, .object members _ :: rest => some ⟨.object members key :: rest, .value⟩
  | .afterItem, .comma, .list items :: rest => some ⟨.list items :: rest, .value⟩
  | .afterItem, .comma, .object members k :: rest => some ⟨.object members k :: rest, .key⟩
  | .afterItem, .closeList, .list items :: rest => some (close rest (.list items.reverse))
  | .afterItem, .closeObject, .object members _ :: rest =>
    some (close rest (.object members.reverse))
  | .value, t, stack => value stack t
  | .firstItem, t, stack => value stack t
  | _, _, _ => none

/-- The document that some tokens make up. -/
def ofTokens? (ts : List Token) : Option Json :=
  match ts.foldlM Progress.step ⟨[], .value⟩ with
  | some ⟨_, .done v⟩ => some v
  | _ => none

/-- Read a document. -/
def parse? (s : String) : Option Json := (tokens s.toList).bind ofTokens?

end Raster.Json
