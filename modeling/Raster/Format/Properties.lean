import Raster.Extension.Table
/-!
# What the beginning of a file says about its image
-/

namespace Raster

/-- What is known of an image before its pixels are read. -/
structure ImageProperties where
  format : String
  extents : List Nat
  /-- Further facts, each with its name. -/
  details : Table String

/-- A listing with one fact a line. -/
def ImageProperties.text (p : ImageProperties) : String :=
  "format: " ++ p.format ++ "\ndimensions: " ++ "x".intercalate (p.extents.map toString) ++ "\n" ++
    String.join (p.details.map fun (k, v) => s!"{k}: {v}\n")

end Raster
