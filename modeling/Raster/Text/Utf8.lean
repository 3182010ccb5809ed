import Raster.Pixel.Pixel
/-!
# Bytes as text
-/

namespace Raster.Text

/-- The text that some bytes encode in UTF-8. -/
def ofUtf8? (bytes : List Byte) : Option String :=
  String.fromUTF8? ⟨(bytes.map fun b => UInt8.ofNat b.toNat).toArray⟩

/-- The bytes that encode a text in UTF-8. -/
def utf8 (s : String) : List Byte := s.toUTF8.data.toList.map fun b => BitVec.ofNat 8 b.toNat

end Raster.Text
