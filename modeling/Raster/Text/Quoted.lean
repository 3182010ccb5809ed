import Raster.Text.Unprintable
/-!
# Quoted texts

A text inside a list of texts is shown between quotes, with a backslash before a quote or a
backslash, with `\n`, `\r`, `\t` and `\0` for those four characters, and with the code point
of every other character that is not shown as itself.
-/

namespace Raster.Text

/-- The characters that stand for one character between quotes. -/
def escape (c : Char) : List Char :=
  match c with
  | '"' => ['\\', '"']
  | '\\' => ['\\', '\\']
  | '\n' => ['\\', 'n']
  | '\r' => ['\\', 'r']
  | '\t' => ['\\', 't']
  | '\x00' => ['\\', '0']
  | c =>
    if isPrintable c then [c]
    else ['\\', 'u', '\x7b'] ++ Nat.toDigits 16 c.toNat ++ ['\x7d']

/-- A text between quotes. -/
def quoted (s : String) : String :=
  String.ofList ('"' :: s.toList.flatMap escape ++ ['"'])

/-- The items between brackets, separated by a comma and a blank. -/
def bracketed (items : List String) : String :=
  "[" ++ ", ".intercalate items ++ "]"

/-- A list of natural numbers between brackets. -/
def natList (ns : List Nat) : String := bracketed (ns.map toString)

end Raster.Text
