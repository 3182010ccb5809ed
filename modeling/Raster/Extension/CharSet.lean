import Raster.Text.Blank
/-!
# Sets of characters in patterns

File name extensions are ASCII, so a pattern only ever looks at ASCII characters.  A set is
given by its membership test.  Two characters beyond ASCII count all the same, because they
are case variants of ASCII letters: the long s and the Kelvin sign.
-/

namespace Raster

/-- A set of characters. -/
abbrev CharSet := Char → Bool

namespace CharSet

/-- The set without members. -/
def none : CharSet := fun _ => false

/-- The set with one member. -/
def single (c : Char) : CharSet := fun x => x == c

/-- The characters from one to another. -/
def range (lo hi : Char) : CharSet := fun x => lo ≤ x && x ≤ hi

/-- The characters of a list. -/
def ofList (cs : List Char) : CharSet := fun x => cs.contains x

/-- The members of either set. -/
def union (s t : CharSet) : CharSet := fun x => s x || t x

/-- The members of both sets. -/
def inter (s t : CharSet) : CharSet := fun x => s x && t x

/-- The members of the first set that are not in the second. -/
def diff (s t : CharSet) : CharSet := fun x => s x && !t x

/-- The members of exactly one of the sets. -/
def symmDiff (s t : CharSet) : CharSet := fun x => s x != t x

/-- The characters that are not members. -/
def compl (s : CharSet) : CharSet := fun x => !s x

/-- The set, or its complement. -/
def complIf (negated : Bool) (s : CharSet) : CharSet := if negated then s.compl else s

/-! ## Letter case -/

/-- The other characters that differ from an ASCII letter in case alone. -/
def caseVariants (c : Char) : List Char :=
  let variants :=
    if 'a' ≤ c ∧ c ≤ 'z' then [c.toUpper]
    else if 'A' ≤ c ∧ c ≤ 'Z' then [c.toLower]
    else []
  if c = 'k' ∨ c = 'K' then '\u212a' :: variants
  else if c = 's' ∨ c = 'S' then '\u017f' :: variants
  else if c = '\u212a' then ['k', 'K']
  else if c = '\u017f' then ['s', 'S']
  else variants

/-- The members and their case variants. -/
def fold (s : CharSet) : CharSet := fun x => s x || (caseVariants x).any s

/-- The set, closed under letter case if asked for. -/
def foldIf (folding : Bool) (s : CharSet) : CharSet := if folding then s.fold else s

/-! ## Classes -/

/-- Lower-case ASCII letters. -/
def lower : CharSet := range 'a' 'z'

/-- Upper-case ASCII letters. -/
def upper : CharSet := range 'A' 'Z'

/-- ASCII letters. -/
def alpha : CharSet := lower.union upper

/-- Decimal digits. -/
def digit : CharSet := range '0' '9'

/-- ASCII letters and digits. -/
def alnum : CharSet := alpha.union digit

/-- Visible ASCII characters. -/
def graph : CharSet := range '!' '~'

/-- Visible ASCII characters that are neither letters nor digits. -/
def punct : CharSet := graph.diff alnum

/-- Control characters. -/
def control : CharSet := (range '\x00' '\x1f').union (single '\x7f')

/-- Blanks and line breaks. -/
def space : CharSet := Text.isBlank

/-- Letters of any script, as far as patterns look at them. -/
def letter : CharSet := alpha.union (ofList ['\u017f', '\u212a'])

/-- Letters, digits and the low line. -/
def word : CharSet := (letter.union digit).union (single '_')

/-- The ASCII part of a set. -/
def ascii (s : CharSet) : CharSet := fun x => x.toNat < 128 && s x

/-- A bracketed class of a given name. -/
def posix? (name : List Char) : Option CharSet :=
  match String.ofList name with
  | "alnum" => some alnum
  | "alpha" => some alpha
  | "ascii" => some (range '\x00' '\x7f')
  | "blank" => some (ofList [' ', '\t'])
  | "cntrl" => some control
  | "digit" => some digit
  | "graph" => some graph
  | "lower" => some lower
  | "print" => some (range ' ' '~')
  | "punct" => some punct
  | "space" => some space.ascii
  | "upper" => some upper
  | "word" => some word.ascii
  | "xdigit" => some (digit.union ((range 'a' 'f').union (range 'A' 'F')))
  | _ => Option.none

/-- The class of a letter after a backslash, if it is one. -/
def escapeClass? (c : Char) : Option CharSet :=
  match c with
  | 'd' => some digit
  | 's' => some space
  | 'w' => some word
  | 'D' => some digit.compl
  | 'S' => some space.compl
  | 'W' => some word.compl
  | _ => Option.none

/-! ## Properties -/

/-- The general categories that ASCII characters and the two case variants belong to, each
with the names it goes by. -/
def categories : List (List String × CharSet) :=
  [(["l", "letter"], letter), (["lc", "casedletter"], letter),
    (["lu", "uppercaseletter"], upper.union (single '\u212a')),
    (["ll", "lowercaseletter"], lower.union (single '\u017f')),
    (["n", "number"], digit), (["nd", "decimalnumber", "digit"], digit),
    (["p", "punctuation", "punct"],
      punct.diff (ofList ['$', '+', '<', '=', '>', '^', '`', '|', '~'])),
    (["pc", "connectorpunctuation"], single '_'), (["pd", "dashpunctuation"], single '-'),
    (["ps", "openpunctuation"], ofList ['(', '[', '\x7b']),
    (["pe", "closepunctuation"], ofList [')', ']', '\x7d']),
    (["po", "otherpunctuation"],
      ofList ['!', '"', '#', '%', '&', '\'', '*', ',', '.', '/', ':', ';', '?', '@', '\\']),
    (["s", "symbol"], ofList ['$', '+', '<', '=', '>', '^', '`', '|', '~']),
    (["sm", "mathsymbol"], ofList ['+', '<', '=', '>', '|', '~']),
    (["sc", "currencysymbol"], single '$'), (["sk", "modifiersymbol"], ofList ['^', '`']),
    (["z", "separator"], single ' '), (["zs", "spaceseparator"], single ' '),
    (["c", "other"], control), (["cc", "control", "cntrl"], control),
    (["lt", "titlecaseletter", "lm", "modifierletter", "lo", "otherletter", "m", "mark",
      "combiningmark", "mn", "nonspacingmark", "mc", "spacingmark", "me", "enclosingmark", "nl",
      "letternumber", "no", "othernumber", "pi", "initialpunctuation", "pf", "finalpunctuation",
      "so", "othersymbol", "zl", "lineseparator", "zp", "paragraphseparator", "cf", "format",
      "co", "privateuse", "cn", "unassigned"], none)]

/-- Scripts, each with the names it goes by. -/
def scripts : List (List String × CharSet) :=
  [(["latin", "latn"], letter), (["common", "zyyy"], (range '\x00' '\x7f').diff alpha),
    (["greek", "grek", "cyrillic", "cyrl", "han", "hani", "hebrew", "hebr", "arabic", "arab",
      "hiragana", "hira", "katakana", "kana", "hangul", "hang", "thai", "armenian", "armn",
      "devanagari", "deva", "georgian", "geor", "inherited", "zinh", "qaai"], none)]

/-- Properties that are neither categories nor scripts, each with the names it goes by. -/
def binaryProperties : List (List String × CharSet) :=
  [(["any"], fun _ => true), (["assigned"], fun _ => true), (["ascii"], range '\x00' '\x7f'),
    (["alphabetic", "alpha"], letter), (["lowercase", "lower"], lower.union (single '\u017f')),
    (["uppercase", "upper"], upper.union (single '\u212a')), (["cased"], letter),
    (["whitespace", "wspace", "space"], space),
    (["hexdigit", "hex", "asciihexdigit", "ahex"],
      digit.union ((range 'a' 'f').union (range 'A' 'F'))),
    (["dash"], single '-'), (["math"], ofList ['+', '<', '=', '>', '^', '|', '~']),
    (["idstart", "ids", "xidstart", "xids"], letter),
    (["idcontinue", "idc", "xidcontinue", "xidc"], word),
    (["emoji"], (ofList ['#', '*']).union digit)]

/-- The entry of a table that goes by a name. -/
def lookup? (name : String) (table : List (List String × CharSet)) : Option CharSet :=
  (table.find? fun entry => entry.1.contains name).map (·.2)

/-- A name of a property without what does not count in it: case, blanks, hyphens and low
lines. -/
def looseName (name : List Char) : String :=
  String.ofList ((name.filter fun c => !(c == ' ' || c == '-' || c == '_')).map Char.toLower)

/-- The characters with a property of a given name. -/
def property? (name : List Char) : Option CharSet :=
  lookup? (looseName name) (categories ++ scripts ++ binaryProperties)

/-- The characters for which a property has a given value. -/
def propertyValue? (name value : List Char) : Option CharSet :=
  match looseName name with
  | "gc" | "generalcategory" => lookup? (looseName value) categories
  | "sc" | "script" | "scx" | "scriptextensions" => lookup? (looseName value) scripts
  | _ => Option.none

end CharSet

end Raster
