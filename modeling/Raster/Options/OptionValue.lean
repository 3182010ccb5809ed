import Raster.Number.Decimal
/-!
# Option values

An option is a truth value, a 32-bit integer, a double or a text.
-/

namespace Raster

/-- A value of an option. -/
inductive OptionValue where
  | bool (value : Bool)
  | int (value : Int32)
  | double (value : Float)
  | text (value : String)
deriving BEq

/-- The kind of an option value. -/
inductive ValueKind where
  | bool | int | double | text
deriving DecidableEq, Repr

namespace ValueKind

/-- The name of a kind in messages. -/
def name : ValueKind → String
  | bool => "bool"
  | int => "int"
  | double => "double"
  | text => "text"

end ValueKind

namespace OptionValue

/-- The kind of a value. -/
def kind : OptionValue → ValueKind
  | bool _ => .bool
  | int _ => .int
  | double _ => .double
  | text _ => .text

/-- The text of a value in messages and listings.  A text stands between quotes as it is. -/
def display : OptionValue → String
  | bool v => if v then "true" else "false"
  | int v => toString v.toInt
  | double v => doubleText v
  | text v => "\"" ++ v ++ "\""

/-- The number that a value stands for: an integer counts as the double of the same value. -/
def toDouble? : OptionValue → Option Float
  | int v => some (intDouble v.toInt)
  | double v => some v
  | _ => none

end OptionValue

end Raster
