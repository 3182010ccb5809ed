import Raster.Error
import Raster.Extension.PatternEngine
import Raster.Extension.Table
import Raster.Path
/-!
# Which format a file name stands for

Every format has suffixes, compared without regard to letter case, and suffix patterns, which
have to describe the whole extension.  `Matcher.find` lists the formats that an extension
matches, those with a matching suffix first; `Matcher.sorted` goes on with all the others.  In
both lists formats of one kind stand in the order of their names.
-/

namespace Raster

/-- A pattern for extensions: its text, and the extensions that match. -/
structure SuffixPattern where
  source : String
  isMatch : List Char → Bool

/-- The text of a suffix pattern between anchors, as it is written.  It has to describe an extension
from beginning to end. -/
def anchored (source : String) : List Char := "^(?:".toList ++ source.toList ++ ")$".toList

/-- Read a suffix pattern. -/
def SuffixPattern.ofText [PatternEngine] (source : String) : Except Refusal SuffixPattern :=
  match PatternEngine.compile? (anchored source) with
  | some isMatch => .ok ⟨source, isMatch⟩
  | none => .error (.suffixPattern source)

/-- Whether a suffix equals an extension; ASCII letters match in either case. -/
def suffixMatches (suffix : String) (ext : List Char) : Bool :=
  suffix.toList.map Char.toLower = ext.map Char.toLower

/-- The suffixes and suffix patterns of formats, and the extension that each is written
under. -/
structure Matcher where
  suffixes : Table (List String)
  patterns : Table (List SuffixPattern)
  outputs : Table String

/-- A suffix in the description of a format. -/
structure SuffixConfig where
  text : String
  isPattern : Bool

namespace Matcher

/-- The matcher without formats. -/
def empty : Matcher := ⟨[], [], []⟩

/-- The suffixes of a format. -/
def suffixesOf (m : Matcher) (format : String) : List String :=
  Table.listOf format m.suffixes

/-- The suffix patterns of a format. -/
def patternsOf (m : Matcher) (format : String) : List SuffixPattern :=
  Table.listOf format m.patterns

/-- The extension that a format is written under. -/
def output? (m : Matcher) (format : String) : Option String := Table.get? format m.outputs

/-! ## Edits -/

/-- Register a suffix or a suffix pattern for a format, and say why it is refused, if it is. -/
def register [PatternEngine] (m : Matcher) (format : String) (suffix : SuffixConfig) :
    Matcher × Option Refusal :=
  if suffix.isPattern then
    match SuffixPattern.ofText suffix.text with
    | .ok p =>
      ({ m with patterns := Table.addTo SuffixPattern.source format p m.patterns }, none)
    | .error cause => (m, some cause)
  else ({ m with suffixes := Table.addTo id format suffix.text m.suffixes }, none)

/-- Take a suffix or a suffix pattern of a format out. -/
def remove (m : Matcher) (format : String) (suffix : SuffixConfig) : Matcher :=
  if suffix.isPattern then
    { m with patterns := Table.takeFrom SuffixPattern.source format suffix.text m.patterns }
  else { m with suffixes := Table.takeFrom id format suffix.text m.suffixes }

/-- Forget a format. -/
def removeFormat (m : Matcher) (format : String) : Matcher :=
  ⟨Table.remove format m.suffixes, Table.remove format m.patterns, Table.remove format m.outputs⟩

/-- Choose the extension that a format is written under. -/
def setOutput (m : Matcher) (format extension : String) : Matcher :=
  { m with outputs := Table.put format extension m.outputs }

/-- Register all suffixes of a format and choose the extension that it is written under.  A
suffix that is refused ends this; the ones before it stay registered. -/
def load [PatternEngine] (m : Matcher) (format : String) (output : String) :
    List SuffixConfig → Matcher × Option Refusal
  | [] => (m.setOutput format output, none)
  | suffix :: rest =>
    match m.register format suffix with
    | (m, none) => load m format output rest
    | (m, some cause) => (m, some cause)

/-! ## Queries -/

/-- The formats that have a suffix or a suffix pattern. -/
def formats (m : Matcher) : List String :=
  (m.suffixes.foldl (fun t (k, _) => Table.put k () t)
    (m.patterns.map fun (k, _) => (k, ()))).map (·.1)

/-- Whether a format has a suffix that equals an extension. -/
def hasSuffix (ext : List Char) (entry : String × List String) : Bool :=
  entry.2.any fun s => suffixMatches s ext

/-- Whether a format has a suffix pattern that an extension matches. -/
def hasPattern (ext : List Char) (entry : String × List SuffixPattern) : Bool :=
  entry.2.any fun p => p.isMatch ext

/-- The formats that an extension matches, by suffix and then by pattern. -/
def matching (m : Matcher) (ext : List Char) : List String :=
  Table.keys (m.suffixes.filter (hasSuffix ext)) ++ Table.keys (m.patterns.filter (hasPattern ext))

/-- The formats with suffixes and with patterns that an extension does not match. -/
def others (m : Matcher) (ext : List Char) : List String :=
  Table.keys (m.suffixes.filter fun e => !hasSuffix ext e) ++
    Table.keys (m.patterns.filter fun e => !hasPattern ext e)

/-- The extension of a path, which must be ASCII; without one, no characters. -/
def extensionOf (path : Path) : Except Refusal (List Char) :=
  let ext := path.extension?.getD []
  if ext.all fun c => c.toNat < 128 then .ok ext else .error (.extensionNotAscii path.text)

/-- The formats that the extension of a path matches, each once. -/
def find (m : Matcher) (path : Path) : Except Refusal (List String) := do
  let ext ← extensionOf path
  return (m.matching ext).eraseDups

/-- All formats, those that the extension of a path matches first. -/
def sorted (m : Matcher) (path : Path) : Except Refusal (List String) := do
  let ext ← extensionOf path
  return (m.matching ext ++ m.others ext).eraseDups

/-- The first format that the extension of a path matches. -/
def predict (m : Matcher) (path : Path) : Except Refusal String := do
  match ← m.find path with
  | format :: _ => return format
  | [] => throw (.noFormatForPath path.text)

/-- A path with the extension that a format is written under. -/
def withOutput (m : Matcher) (format : String) (path : Path) : Path :=
  match m.output? format with
  | some extension => path.withExtension extension.toList
  | none => path

/-- A path with the extension that a format is written under, which must not contain a slash. -/
def withOutput? (m : Matcher) (format : String) (path : Path) : Except Fault Path :=
  if (m.output? format).any fun extension => '/' ∈ extension.toList then .error .extensionSlash
  else .ok (m.withOutput format path)

end Matcher

end Raster
