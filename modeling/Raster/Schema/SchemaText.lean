import Raster.Schema.Schema
/-!
# Schemas as text

A listing of a schema for people: one line for each node, what is behind a gate indented, help
texts below.
-/

namespace Raster

/-- A range after a comma, if there is one. -/
def rangeText : Option (OptionValue × OptionValue) → String
  | some (lo, hi) => ", " ++ lo.display ++ "..=" ++ hi.display
  | none => ""

/-- The kind of a setting, its default and its range. -/
def SettingKind.describe : SettingKind → String
  | int d range =>
    "int, default " ++ (OptionValue.int d).display ++
      rangeText (range.map fun (lo, hi) => (.int lo, .int hi))
  | double d range =>
    "double, default " ++ (OptionValue.double d).display ++
      rangeText (range.map fun (lo, hi) => (.double lo, .double hi))
  | text d _ => "text, default " ++ (OptionValue.text d).display
  | choice d values =>
    "one of " ++ "|".intercalate values ++ ", default " ++ (OptionValue.text d).display
  | checkbox d => "bool, default " ++ (OptionValue.bool d).display

/-- The line of a help text, if there is one. -/
def helpText (pad : String) : Option String → String
  | some help => pad ++ "    " ++ help ++ "\n"
  | none => ""

/-- The listing of a schema, indented. -/
def Schema.listing (pad : String) : Schema → String
  | nil => ""
  | header name rest => pad ++ "== " ++ name ++ " ==\n" ++ rest.listing pad
  | setting s rest =>
    pad ++ s.id ++ " (" ++ s.kind.describe ++ "): " ++ s.name ++ "\n" ++ helpText pad s.help ++
      rest.listing pad
  | gated g inner rest =>
    pad ++ g.id ++ " (" ++ (SettingKind.checkbox g.default).describe ++ "): " ++ g.name ++ "\n" ++
      inner.listing (pad ++ "  ") ++ helpText pad g.help ++ rest.listing pad

/-- The listing of a schema. -/
def Schema.text (schema : Schema) : String := schema.listing ""

end Raster
