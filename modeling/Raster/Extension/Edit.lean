import Raster.Extension.Matcher
/-!
# Edits of a matcher

What can be done to a matcher, one edit at a time.  An edit may be refused; of a list of
suffixes those before the refused one stay registered then.
-/

namespace Raster

/-- An edit of a matcher. -/
inductive MatcherEdit where
  | register (format : String) (suffix : SuffixConfig)
  | remove (format : String) (suffix : SuffixConfig)
  | removeFormat (format : String)
  | setOutput (format extension : String)
  /-- Register all suffixes of a format and choose the extension that it is written under. -/
  | load (format output : String) (suffixes : List SuffixConfig)

namespace Matcher

/-- The matcher after an edit, and why the edit is refused, if it is. -/
def edit [PatternEngine] (m : Matcher) : MatcherEdit → Matcher × Option Refusal
  | .register format suffix => m.register format suffix
  | .remove format suffix => (m.remove format suffix, none)
  | .removeFormat format => (m.removeFormat format, none)
  | .setOutput format extension => (m.setOutput format extension, none)
  | .load format output suffixes => m.load format output suffixes

/-- Make edits one after the other; one that is refused does not stop the next. -/
def run [PatternEngine] (m : Matcher) (edits : List MatcherEdit) : Matcher :=
  edits.foldl (fun m e => (m.edit e).1) m

end Matcher

end Raster
