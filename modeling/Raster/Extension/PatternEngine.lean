import Raster.Extension.PatternSyntax
/-!
# Engines for patterns

What a pattern means is up to a library for patterns.  Nothing else here depends on more of it
than that a text either is a pattern, and then some texts have a part that matches it, or is none.
-/

namespace Raster

/-- A library for patterns. -/
class PatternEngine where
  /-- Read a pattern, and say of a text whether some part of it matches. -/
  compile? : (pattern : List Char) → Option ((text : List Char) → Bool)

/-- The engine that formats are told apart with.  It knows properties and scripts as far as ASCII
characters can have them, and puts no limit on the size of a pattern. -/
instance PatternEngine.own : PatternEngine :=
  ⟨fun pattern => (Pattern.parse? pattern).map Pattern.occursIn⟩

end Raster
