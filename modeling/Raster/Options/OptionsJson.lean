import Raster.Json.Library
import Raster.Options.Options
/-!
# Option maps as JSON

An option map is an object whose members are truth values, numbers and texts.  A number that
is written as an integer and fits into 32 bits is an integer; any other number is a double.
-/

namespace Raster

/-- A 32-bit integer. -/
def int32? (n : Int) : Option Int32 :=
  if Int32.minValue.toInt ≤ n ∧ n ≤ Int32.maxValue.toInt then some (Int32.ofInt n) else none

namespace OptionValue

/-- The option value that a JSON value stands for. -/
def ofJson? : Json → Option OptionValue
  | .bool b => some (.bool b)
  | .int n =>
    match int32? n with
    | some v => some (.int v)
    | none => some (.double (intDouble n))
  | .double x => some (.double x)
  | .text s => some (.text s)
  | _ => none

/-- The JSON value of an option value. -/
def toJson : OptionValue → Json
  | bool b => .bool b
  | int n => .int n.toInt
  | double x => .double x
  | text s => .text s

end OptionValue

namespace Options

/-- The entries that the members of an object stand for, the last value of a key counting. -/
def ofMembers? : Options → List (String × Json) → Option Options
  | o, [] => some o
  | o, (k, j) :: rest => do
    let v ← OptionValue.ofJson? j
    ofMembers? (o.insert k v) rest

/-- The option map that a JSON value stands for. -/
def ofJson? : Json → Option Options
  | .object members => ofMembers? empty members
  | _ => none

/-- The JSON value of an option map. -/
def toJson (o : Options) : Json := .object (o.entries.map fun (k, v) => (k, v.toJson))

/-- Read an option map from the text of an object. -/
def parse [JsonLibrary] (s : String) : Except Failure Options :=
  match (JsonLibrary.read? s).bind ofJson? with
  | some o => .ok o
  | none => .error (.config .options)

end Options

end Raster
