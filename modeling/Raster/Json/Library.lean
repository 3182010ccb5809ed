import Raster.Json.Document
import Raster.Json.Printer
/-!
# Libraries for JSON

Documents are written and read by a library for JSON.  What depends on one says so, and does not
look into it.
-/

namespace Raster

/-- A library that writes documents and reads them. -/
class JsonLibrary where
  /-- The text of a document. -/
  write : Json → String
  /-- The document that a text stands for, if it stands for one. -/
  read? : String → Option Json

/-- The library that options, schemas and presets are read with. -/
instance JsonLibrary.own : JsonLibrary := ⟨Json.render, Json.parse?⟩

end Raster
