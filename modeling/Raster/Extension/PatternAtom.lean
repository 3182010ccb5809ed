import Raster.Extension.Pattern
import Raster.Number.Numeral
/-!
# Escapes and classes in written patterns

What stands for a single character of the text: a literal, a class after a backslash, or a
bracketed class, in which classes nest and can be intersected and subtracted.  Under the
verbose flag, blanks and comments between the characters of a pattern do not count.
-/

namespace Raster

/-- What can be switched on and off inside a written pattern. -/
structure PatternFlags where
  /-- Letters match in either case. -/
  folding : Bool := false
  /-- The ends of the text are the ends of its lines. -/
  multiline : Bool := false
  /-- A dot matches line breaks too. -/
  dotAll : Bool := false
  /-- Characters are those of all scripts. -/
  unicode : Bool := true
  /-- A carriage return ends a line as well. -/
  anyLine : Bool := false
  /-- Blanks and comments do not count. -/
  verbose : Bool := false

/-- What one element of a pattern stands for. -/
inductive PatternAtom where
  | literal (c : Char)
  | set (set : CharSet)
  | check (assertion : Assertion)

namespace PatternFlags

variable (f : PatternFlags)

/-- Read characters with a property, at most `limit` of them, leaving out in verbose patterns
what does not count. -/
def collect (p : Char → Bool) : (limit : Nat) → (comment : Bool) → List Char →
    List Char × List Char
  | _, _, [] => ([], [])
  | limit, true, c :: cs => collect p limit (c != '\n') cs
  | limit, false, c :: cs =>
    if f.verbose && Text.isBlank c then collect p limit false cs
    else if f.verbose && c == '#' then collect p limit true cs
    else
      match limit with
      | 0 => ([], c :: cs)
      | limit + 1 =>
        if p c then
          let (ds, rest) := collect p limit false cs
          (c :: ds, rest)
        else ([], c :: cs)

/-- Leave out what does not count. -/
def skip (cs : List Char) : List Char := (f.collect (fun _ => false) 0 false cs).2

/-- Read all characters with a property. -/
def span (p : Char → Bool) (cs : List Char) : List Char × List Char :=
  f.collect p cs.length false cs

end PatternFlags

/-! ## Escapes -/

/-- Whether a character is a hexadecimal digit. -/
def isHexDigit (c : Char) : Bool :=
  ('0' ≤ c && c ≤ '9') || ('a' ≤ c && c ≤ 'f') || ('A' ≤ c && c ≤ 'F')

/-- The value of a hexadecimal digit. -/
def hexDigitValue (c : Char) : Nat :=
  if c ≤ '9' then c.toNat - '0'.toNat else c.toLower.toNat - 'a'.toNat + 10

/-- The character with a hexadecimal code. -/
def ofHexDigits? (ds : List Char) : Option Char :=
  let n := ds.foldl (fun n d => 16 * n + hexDigitValue d) 0
  if ds.isEmpty then none
  else if n.isValidChar then some (Char.ofNat n) else none

/-- The number of digits of a code without braces. -/
def codeLength : Char → Nat
  | 'x' => 2
  | 'u' => 4
  | _ => 8

/-- Read the code of a character: some number of digits, or any number in braces. -/
def readCode (f : PatternFlags) (length : Nat) (cs : List Char) : Option (Char × List Char) :=
  match f.skip cs with
  | '\x7b' :: cs =>
    match f.span isHexDigit cs with
    | (ds, '\x7d' :: rest) => (ofHexDigits? ds).map fun c => (c, rest)
    | _ => none
  | cs =>
    let (ds, rest) := f.collect isHexDigit length false cs
    if ds.length = length then (ofHexDigits? ds).map fun c => (c, rest) else none

/-- Cut a text at the first character with a property. -/
def cutAt? (p : Char → Bool) (cs : List Char) : Option (List Char × List Char) :=
  match cs.dropWhile fun c => !p c with
  | [] => none
  | _ :: after => some (cs.takeWhile fun c => !p c, after)

/-- The characters that have what is written between the braces of a property. -/
def namedProperty? (name : List Char) : Option CharSet :=
  match cutAt? (fun c => c == ':' || c == '=') name with
  | none => CharSet.property? name
  | some (key, value) =>
    match key.reverse with
    | '!' :: key => (CharSet.propertyValue? key.reverse value).map CharSet.compl
    | _ => CharSet.propertyValue? key value

/-- Read the name of a property: one letter, or a name in braces. -/
def readProperty (f : PatternFlags) (cs : List Char) : Option (CharSet × List Char) :=
  match f.skip cs with
  | '\x7b' :: cs =>
    match f.span (· != '\x7d') cs with
    | (name, '\x7d' :: rest) => (namedProperty? name).map fun s => (s, rest)
    | _ => none
  | c :: cs =>
    if c = '\\' then none
    else (CharSet.lookup? (CharSet.looseName [c]) CharSet.categories).map fun s => (s, f.skip cs)
  | [] => none

/-- The special character that a letter stands for after a backslash. -/
def specialEscape? : Char → Option Char
  | 'a' => some '\x07'
  | 'f' => some '\x0c'
  | 't' => some '\t'
  | 'n' => some '\n'
  | 'r' => some '\r'
  | 'v' => some '\x0b'
  | _ => none

/-- The condition of a letter after a backslash. -/
def assertionEscape? : Char → Option Assertion
  | 'A' => some .textStart
  | 'z' => some .textEnd
  | 'b' => some .wordBoundary
  | 'B' => some .noWordBoundary
  | '<' => some .wordStart
  | '>' => some .wordEnd
  | _ => none

/-- The word boundary of a given name. -/
def namedBoundary? (name : List Char) : Option Assertion :=
  match String.ofList name with
  | "start" => some .wordStart
  | "end" => some .wordEnd
  | "start-half" => some .wordStartHalf
  | "end-half" => some .wordEndHalf
  | _ => none

/-- Whether a character can stand in the name of a word boundary. -/
def isBoundaryChar (c : Char) : Bool := CharSet.alpha c || c == '-'

/-- Read what may follow a word boundary: its kind in braces.  Braces that begin otherwise
are the count of a repetition. -/
def readBoundary (f : PatternFlags) (cs : List Char) : Option (PatternAtom × List Char) :=
  match cs with
  | '\x7b' :: inner =>
    match f.skip inner with
    | [] => none
    | c :: _ =>
      if isBoundaryChar c then
        match f.span isBoundaryChar inner with
        | (name, '\x7d' :: rest) => (namedBoundary? name).map fun a => (.check a, rest)
        | _ => none
      else some (.check .wordBoundary, cs)
  | cs => some (.check .wordBoundary, cs)

/-- Whether a character stands for itself after a backslash: any ASCII character but letters,
digits and angle brackets. -/
def isEscapable (c : Char) : Bool :=
  c.toNat < 128 && !CharSet.alnum c && c != '<' && c != '>'

/-- Whether a set may be used: without the scripts, no set may reach beyond ASCII. -/
def PatternFlags.admits (f : PatternFlags) (s : CharSet) : Bool := f.unicode || !s '\x80'

/-- Read what follows a backslash. -/
def readEscape (f : PatternFlags) : List Char → Option (PatternAtom × List Char)
  | [] => none
  | c :: cs =>
    if CharSet.digit c then none
    else if c = 'x' ∨ c = 'u' ∨ c = 'U' then
      (readCode f (codeLength c) cs).map fun (v, rest) => (.literal v, rest)
    else if c = 'p' ∨ c = 'P' then do
      let (s, rest) ← readProperty f cs
      if f.unicode then some (.set (s.complIf (c == 'P')), rest) else none
    else
      match CharSet.escapeClass? c with
      | some s => if f.admits s then some (.set s, cs) else none
      | none =>
        if isEscapable c then some (.literal c, cs)
        else if c = 'b' then readBoundary f cs
        else
          match specialEscape? c, assertionEscape? c with
          | some v, _ => some (.literal v, cs)
          | none, some a => some (.check a, cs)
          | none, none => none

/-! ## Bracketed classes -/

/-- How two parts of a class are put together. -/
inductive ClassOperation where
  | inter | diff | symmDiff

/-- The members that both parts of a class give. -/
def ClassOperation.apply : ClassOperation → CharSet → CharSet → CharSet
  | inter => CharSet.inter
  | diff => CharSet.diff
  | symmDiff => CharSet.symmDiff

/-- A class that is still open, or the left part of an operation. -/
inductive ClassFrame where
  | opened (negated : Bool) (outer : CharSet)
  | operation (op : ClassOperation) (left : CharSet)

/-- Read one member of a class, or the end of a range. -/
def readMember (f : PatternFlags) : List Char → Option (PatternAtom × List Char)
  | [] => none
  | '\\' :: cs => readEscape f cs
  | c :: cs => some (.literal c, cs)

/-- The set of an element that stands by itself in a class. -/
def PatternAtom.members? : PatternAtom → Option CharSet
  | literal c => some (CharSet.single c)
  | set s => some s
  | check _ => none

/-- Read a member of a class or a range. -/
def readRange (f : PatternFlags) (cs : List Char) : Option (CharSet × List Char) := do
  let (first, rest) ← readMember f cs
  match f.skip rest with
  | '-' :: after =>
    match f.skip after with
    | ']' :: _ | '-' :: _ => return (← first.members?, f.skip rest)
    | after =>
      let (second, rest) ← readMember f after
      match first, second with
      | .literal lo, .literal hi => if lo ≤ hi then return (CharSet.range lo hi, rest) else none
      | _, _ => none
  | [] => none
  | rest => return (← first.members?, rest)

/-- Read the beginning of a class, after its bracket: a negation, and hyphens or a closing
bracket that stand for themselves. -/
def openClass (f : PatternFlags) (cs : List Char) : Option (Bool × CharSet × List Char) :=
  let (negated, cs) := match f.skip cs with
    | '^' :: cs => (true, f.skip cs)
    | cs => (false, cs)
  match f.span (· == '-') cs with
  | (_, []) => none
  | ([], ']' :: rest) =>
    if (f.skip rest).isEmpty then none else some (negated, CharSet.single ']', rest)
  | ([], rest) => some (negated, CharSet.none, rest)
  | (_, rest) => some (negated, CharSet.single '-', rest)

/-- Read a named class after its first bracket. -/
def readNamedClass (cs : List Char) : Option (CharSet × List Char) :=
  match cs with
  | ':' :: cs =>
    let (negated, cs) := match cs with
      | '^' :: cs => (true, cs)
      | cs => (false, cs)
    let name := cs.takeWhile (· ≠ ':')
    match cs.dropWhile (· ≠ ':') with
    | ':' :: ']' :: rest => (CharSet.posix? name).map fun s => (s.complIf negated, rest)
    | _ => none
  | _ => none

/-- Complete an operation whose right part has been read. -/
def closeOperation (f : PatternFlags) (right : CharSet) :
    List ClassFrame → CharSet × List ClassFrame
  | .operation op left :: stack =>
    (op.apply (left.foldIf f.folding) (right.foldIf f.folding), stack)
  | stack => (right, stack)

/-- Read a class up to its end; every round takes at least one character. -/
def readClass (f : PatternFlags) : (fuel : Nat) → List ClassFrame → (members : CharSet) →
    List Char → Option (CharSet × List Char)
  | 0, _, _, _ => none
  | fuel + 1, stack, members, cs =>
    let operation (op : ClassOperation) (rest : List Char) :=
      let (left, stack) := closeOperation f members stack
      readClass f fuel (.operation op left :: stack) CharSet.none rest
    match f.skip cs with
    | [] => none
    | '[' :: rest =>
      let named := if stack.isEmpty then none else readNamedClass rest
      match named with
      | some (s, rest) => readClass f fuel stack (members.union s) rest
      | none => do
        let (negated, first, rest) ← openClass f rest
        readClass f fuel (.opened negated members :: stack) first rest
    | ']' :: rest =>
      match closeOperation f members stack with
      | (all, .opened negated outer :: stack) =>
        let closed := (all.foldIf f.folding).complIf negated
        if stack.isEmpty then some (closed, rest)
        else readClass f fuel stack (outer.union closed) rest
      | _ => none
    | '&' :: '&' :: rest => operation .inter rest
    | '-' :: '-' :: rest => operation .diff rest
    | '~' :: '~' :: rest => operation .symmDiff rest
    | cs => do
      let (s, rest) ← readRange f cs
      readClass f fuel stack (members.union s) rest

end Raster
