import Raster.Number.Binary64
/-!
# JSON values

A JSON document as a tree.  A number is an integer if it was written as one and fits into 64
bits, and a double otherwise.  An object keeps its members as they were written, repeated
keys included; which of them counts is for the reader of the tree to say.
-/

namespace Raster

/-- A JSON document. -/
inductive Json where
  | null
  | bool (value : Bool)
  | int (value : Int)
  | double (value : Float)
  | text (value : String)
  | list (items : List Json)
  | object (members : List (String × Json))

namespace Json

instance : Inhabited Json := ⟨null⟩

/-- The value of the last member with a key. -/
def lookup? (key : String) (members : List (String × Json)) : Option Json :=
  (members.reverse.find? fun m => m.1 = key).map (·.2)

/-- A member of an object. -/
def field? (j : Json) (key : String) : Option Json :=
  match j with
  | object members => lookup? key members
  | _ => none

end Json

end Raster
