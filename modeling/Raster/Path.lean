/-!
# Paths

A path is a text in which slashes separate components.  Empty components and, except at the
beginning, components of a single dot do not count, and neither does a slash at the end; two
dots are a component that is no name.

The name of a file is the last component.  Its extension is what follows the last dot, and its
stem what precedes it; a name whose only dot comes first has no extension.
-/

namespace Raster

/-- A path, as it is written. -/
structure Path where
  chars : List Char
deriving DecidableEq, Repr

namespace Path

/-- The path that a text writes. -/
def ofString (s : String) : Path := ⟨s.toList⟩

/-- The text of a path. -/
def text (p : Path) : String := String.ofList p.chars

/-- The path without any characters. -/
def empty : Path := ⟨[]⟩

/-! ## Beginning and body -/

/-- The part before the first name: a slash, or a dot that is a component. -/
def lead : List Char → List Char
  | '/' :: _ => ['/']
  | ['.'] => ['.']
  | '.' :: '/' :: _ => ['.']
  | _ => []

/-- Whether a path begins at the root. -/
def isAbsolute (p : Path) : Bool := p.chars.head? = some '/'

/-- What follows the beginning. -/
def body (cs : List Char) : List Char := cs.drop (lead cs).length

/-- Skip slashes and single dots at the front of a body. -/
def skipFront : List Char → List Char
  | '/' :: cs => skipFront cs
  | ['.'] => []
  | '.' :: '/' :: cs => skipFront cs
  | cs => cs

/-- Skip slashes and single dots at the end of a body, which is given in reverse. -/
def skipBack : List Char → List Char
  | '/' :: cs => skipBack cs
  | ['.'] => []
  | '.' :: '/' :: cs => skipBack cs
  | cs => cs

/-- Whether a character does not separate components. -/
def isNameChar (c : Char) : Bool := c ≠ '/'

/-! ## The last component -/

/-- A path cut before its last component: what comes before, as it is written, and the
component. -/
structure Split where
  before : List Char
  last : List Char

/-- Cut a path before the last component of its body, if there is one. -/
def split? (p : Path) : Option Split :=
  let back := skipBack (body p.chars).reverse
  if back.isEmpty then none
  else
    some ⟨lead p.chars ++ (back.dropWhile isNameChar).reverse,
      (back.takeWhile isNameChar).reverse⟩

/-- The name of the file, if the last component is a name. -/
def fileName? (p : Path) : Option (List Char) :=
  match p.split? with
  | some s => if s.last = ['.', '.'] then none else some s.last
  | none => none

/-- Leave out slashes and single dots at the end. -/
def trimmed (cs : List Char) : Path := ⟨lead cs ++ (skipBack (body cs).reverse).reverse⟩

/-- The path without its last component. -/
def parent? (p : Path) : Option Path :=
  match p.split? with
  | some s => some (trimmed s.before)
  | none => if lead p.chars = ['.'] then some empty else none

/-! ## Stem and extension -/

/-- A name cut at its last dot, unless that comes first. -/
def splitName (name : List Char) : List Char × Option (List Char) :=
  let after := (name.reverse.takeWhile (· ≠ '.')).reverse
  let before := name.take (name.length - after.length - 1)
  if after.length = name.length ∨ before.isEmpty then (name, none) else (before, some after)

/-- The name without its extension. -/
def stem? (p : Path) : Option (List Char) := p.fileName?.map fun n => (splitName n).1

/-- What follows the last dot of the name. -/
def extension? (p : Path) : Option (List Char) := p.fileName?.bind fun n => (splitName n).2

/-- Put an extension behind the stem of the name.  A path without a name stays as it is. -/
def setExtension (p : Path) (extension : List Char) : Path :=
  match p.split? with
  | some s =>
    if s.last = ['.', '.'] then p
    else
      ⟨s.before ++ (splitName s.last).1 ++ (if extension.isEmpty then [] else '.' :: extension)⟩
  | none => p

/-- Take as many characters off the end as the extension has; its dot stays. -/
def dropExtension (p : Path) : Path :=
  ⟨p.chars.take (p.chars.length - (p.extension?.getD []).length)⟩

/-- The path with another extension in place of its own, which is taken off first.  Where that
leaves two dots alone there is no name any more, and it ends there. -/
def withExtension (p : Path) (extension : List Char) : Path :=
  p.dropExtension.setExtension extension

/-! ## Joining -/

/-- One path below another. -/
def join (p q : Path) : Path :=
  if q.isAbsolute then q
  else if p.chars.isEmpty ∨ p.chars.getLast? = some '/' then ⟨p.chars ++ q.chars⟩
  else ⟨p.chars ++ '/' :: q.chars⟩

/-- The path with another name in place of its own. -/
def withFileName (p : Path) (name : List Char) : Path :=
  match p.fileName? with
  | some _ => (p.parent?.getD empty).join ⟨name⟩
  | none => p.join ⟨name⟩

/-! ## Components -/

/-- The components of a body, at most as many as it has characters. -/
def bodyComponents : (fuel : Nat) → List Char → List (List Char)
  | 0, _ => []
  | fuel + 1, cs =>
    match skipFront cs with
    | [] => []
    | rest => rest.takeWhile isNameChar :: bodyComponents fuel (rest.dropWhile isNameChar)

/-- The components of a path; the beginning counts as one. -/
def components (p : Path) : List (List Char) :=
  let names := bodyComponents p.chars.length (body p.chars)
  if (lead p.chars).isEmpty then names else lead p.chars :: names

/-- What is left of a body after some components. -/
def stripBody : List (List Char) → List Char → Option (List Char)
  | [], cs => some (skipFront cs)
  | name :: names, cs =>
    let rest := skipFront cs
    if !rest.isEmpty && rest.takeWhile isNameChar = name then
      stripBody names (rest.dropWhile isNameChar)
    else none

/-- The path as seen from a path above it. -/
def stripPrefix? (p base : Path) : Option Path :=
  match base.components with
  | [] => some (trimmed p.chars)
  | first :: names =>
    let rest :=
      if (lead base.chars).isEmpty then
        if (lead p.chars).isEmpty then stripBody (first :: names) p.chars else none
      else if lead p.chars = first then stripBody names (body p.chars)
      else none
    rest.map fun cs => ⟨(skipBack cs.reverse).reverse⟩

/-- Whether two paths have the same components. -/
def same (p q : Path) : Bool := p.components = q.components

end Path

end Raster
