import Raster.Jpeg.Cosine
import Raster.Jpeg.Tables
import Raster.Pixel.Pixel
/-!
# Coded blocks

A coefficient is written as the number of its bits and the bits themselves.  The first
coefficient of a block is written as the difference from that of the block before; in front of
any other stands how many zeros come before it.  All of these numbers are code words, and what
they are made of are bits, the most significant bit of a byte first.
-/

namespace Raster.Jpeg

/-! ## Bits -/

/-- The last bits of a number, the most significant first. -/
def bitsOf : (count : Nat) → Nat → List Bool
  | 0, _ => []
  | count + 1, n => n.testBit count :: bitsOf count n

/-- The number with the given bits. -/
def numberOf (bits : List Bool) : Nat := bits.foldl (fun n b => 2 * n + b.toNat) 0

/-- The bits of some bytes. -/
def bitsOfBytes (bs : List Byte) : List Bool := bs.flatMap fun b => bitsOf 8 b.toNat

/-- Some bits as bytes; ones fill the last byte. -/
def bytesOfBits : List Bool → List Byte
  | b7 :: b6 :: b5 :: b4 :: b3 :: b2 :: b1 :: b0 :: bits =>
    BitVec.ofNat 8 (numberOf [b7, b6, b5, b4, b3, b2, b1, b0]) :: bytesOfBits bits
  | [] => []
  | bits => [BitVec.ofNat 8 (numberOf ((bits ++ List.replicate 8 true).take 8))]

/-- Take one bit. -/
def takeBit : List Bool → Except Unit (Nat × List Bool)
  | [] => .error ()
  | b :: bits => .ok (b.toNat, bits)

/-- Take some bits as a number. -/
def takeNumber (count : Nat) (bits : List Bool) : Except Unit (Nat × List Bool) :=
  let front := bits.take count
  if front.length = count then .ok (numberOf front, bits.drop count) else .error ()

/-- Take a code word and return its symbol. -/
def takeSymbol (code : CanonicalCode) (bits : List Bool) : Except Unit (Nat × List Bool) :=
  code.read takeBit () bits

/-- The word of a symbol; a symbol without a word has no bits. -/
def symbolBits (code : CanonicalCode) (symbol : Nat) : List Bool :=
  match code.words.lookup symbol with
  | some w => bitsOf w.length w.value
  | none => []

/-! ## Coefficients -/

/-- The number of bits of the magnitude of an integer. -/
def magnitudeBits (n : Int) : Nat := if n = 0 then 0 else n.natAbs.log2 + 1

/-- The bits of an integer; those of a negative one are complemented. -/
def coefficientBits (n : Int) : List Bool :=
  let size := magnitudeBits n
  bitsOf size (if 0 ≤ n then n.toNat else (n + (1 <<< size : Nat) - 1).toNat)

/-- The integer with the given number of bits. -/
def coefficientOf (size n : Nat) : Int :=
  if 2 * n < 1 <<< size then (n : Int) - (1 <<< size : Nat) + 1 else n

/-- Take an integer with the given number of bits. -/
def takeCoefficient (size : Nat) (bits : List Bool) : Except Unit (Int × List Bool) := do
  let (n, bits) ← takeNumber size bits
  return (coefficientOf size n, bits)

/-- The codes of a block: one for the first coefficient, one for the others. -/
structure BlockCode where
  first : CanonicalCode
  rest : CanonicalCode

/-- The bits of the coefficients after the first, `zeros` of which have been passed over.  The
symbol zero says that only zeros follow, the symbol `f0` stands for sixteen zeros. -/
def restBits (code : CanonicalCode) : (zeros : Nat) → List Int → List Bool
  | 0, [] => []
  | _, [] => symbolBits code 0
  | zeros, n :: ns =>
    if n = 0 then restBits code (zeros + 1) ns
    else (List.replicate (zeros / 16) (symbolBits code 0xf0)).flatten ++
      symbolBits code (16 * (zeros % 16) + magnitudeBits n) ++ coefficientBits n ++
      restBits code 0 ns

/-- The bits of the coefficients of a block, in the order in which they are written. -/
def blockBits (code : BlockCode) (predicted : Int) : List Int → List Bool
  | [] => []
  | n :: ns =>
    let difference := n - predicted
    symbolBits code.first (magnitudeBits difference) ++ coefficientBits difference ++
      restBits code.rest 0 ns

/-- Take the coefficients after the first, `left` of which are still to come; every symbol
stands for one at least. -/
def takeRest (code : CanonicalCode) :
    (fuel left : Nat) → List Bool → Except Unit (List Int × List Bool)
  | _, 0, bits => .ok ([], bits)
  | 0, _, _ => .error ()
  | fuel + 1, left, bits => do
    let (symbol, bits) ← takeSymbol code bits
    if symbol = 0 then return (List.replicate left 0, bits)
    let zeros := symbol / 16
    let (n, bits) ← takeCoefficient (symbol % 16) bits
    if left < zeros + 1 then throw ()
    let n := if symbol % 16 = 0 then 0 else n
    let (ns, bits) ← takeRest code fuel (left - (zeros + 1)) bits
    return (List.replicate zeros 0 ++ n :: ns, bits)

/-- Take the coefficients of a block. -/
def takeBlock (code : BlockCode) (predicted : Int) (bits : List Bool) :
    Except Unit (List Int × List Bool) := do
  let (size, bits) ← takeSymbol code.first bits
  let (difference, bits) ← takeCoefficient size bits
  let (ns, bits) ← takeRest code.rest 63 63 bits
  return ((predicted + difference) :: ns, bits)

/-! ## Blocks -/

/-- Coefficients in the order in which they are written, as a block. -/
def unorder (ns : List Int) : Block :=
  (zigzag.zip ns).foldl (fun b (place, n) => b.setIfInBounds place n) (Vector.replicate 64 0)

/-- The numbers of a block in the order in which they are written. -/
def ordered (b : Block) : List Int := zigzag.map fun place => b.getD place 0

/-- The coefficients of a block of levels around zero, for the given steps. -/
def coefficientsOf (steps : List Nat) (b : Block) : List Int :=
  (ordered b.spectrum).zipWith
    (fun n (step : Nat) => roundedQuotient n (step * transformScale)) steps

/-- The levels around zero with the given coefficients. -/
def levelsOf (steps : List Nat) (ns : List Int) : Block :=
  (unorder (ns.zipWith (fun (n : Int) (step : Nat) => n * step) steps)).ofSpectrum.map
    fun n => roundedUpQuotient n transformScale

end Raster.Jpeg
