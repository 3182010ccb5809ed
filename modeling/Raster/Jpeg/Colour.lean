import Raster.Pixel.Pixel
/-!
# Brightness and colour

A colour is a brightness and two differences from it.  The weights are integers with sixteen
binary places.  Gray has no difference, and its brightness is its level.
-/

namespace Raster.Jpeg

/-- A number with sixteen binary places, rounded to an integer. -/
def roundedPlaces (n : Int) : Int := (n + 32768).fdiv 65536

/-- The brightness of a colour, and the differences of blue and of red from it, in the middle of
their range if there is none. -/
def ofColour (r g b : Int) : List Int :=
  [roundedPlaces (19595 * r + 38470 * g + 7471 * b),
   128 + roundedPlaces (-11059 * r - 21709 * g + 32768 * b),
   128 + roundedPlaces (32768 * r - 27439 * g - 5329 * b)]

/-- An integer in the range of a byte. -/
def clampByte (n : Int) : Nat := min 255 n.toNat

/-- The colour of a brightness and two differences. -/
def toColour (y cb cr : Int) : List Nat :=
  let cb := cb - 128
  let cr := cr - 128
  [clampByte (y + roundedPlaces (91881 * cr)),
   clampByte (y - roundedPlaces (22554 * cb + 46802 * cr)),
   clampByte (y + roundedPlaces (116130 * cb))]

/-- Gray has no difference in colour. -/
theorem ofColour_gray (v : Int) : ofColour v v v = [v, 128, 128] := by
  have h (n : Int) : roundedPlaces (65536 * n) = n := by
    rw [roundedPlaces, Int.fdiv_eq_ediv_of_nonneg _ (by decide)]
    omega
  have h0 : roundedPlaces 0 = 0 := by decide
  have e1 : 19595 * v + 38470 * v + 7471 * v = 65536 * v := by omega
  have e2 : -11059 * v - 21709 * v + 32768 * v = 0 := by omega
  have e3 : 32768 * v - 27439 * v - 5329 * v = 0 := by omega
  simp only [ofColour, e1, e2, e3, h, h0]
  rfl

end Raster.Jpeg
