import Raster.Convert.Sample
import Raster.Options.Options
/-!
# Conversion settings as options
-/

namespace Raster

/-- Read the settings of a conversion from their options. -/
def Conversion.ofOptions (o : Options) : Except Refusal Conversion := do
  let rescale ← o.bool "rescale"
  let grayBackground ← o.byte "gray_bg"
  let red ← o.byte "red_bg"
  let green ← o.byte "green_bg"
  let blue ← o.byte "blue_bg"
  let redWeight ← o.double "red_mult"
  let greenWeight ← o.double "green_mult"
  let blueWeight ← o.double "blue_mult"
  return ⟨rescale, grayBackground, ⟨red, green, blue⟩, redWeight, greenWeight, blueWeight⟩

end Raster
