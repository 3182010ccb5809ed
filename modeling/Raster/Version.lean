/-!
# The version of the program
-/

namespace Raster

/-- The version. -/
def version : String := "0.1.0"

end Raster
