/-!
# The cosine transform of a block

A block of eight by eight numbers is a sum of products of cosines.  The cosines are integers,
with twelve binary places; that of frequency zero is exactly one, so that a block of equal
numbers is restored exactly.
-/

namespace Raster.Jpeg

/-- Eight rows of eight numbers. -/
abbrev Block := Vector Int 64

namespace Block

/-- The block with the given numbers. -/
def ofFn (f : (row column : Nat) → Int) : Block := Vector.ofFn fun i => f (i / 8) (i % 8)

/-- A number of a block. -/
def entry (b : Block) (row column : Nat) : Int := b.getD (8 * row + column) 0

end Block

/-- The cosine of `n` sixteenths of a half turn, times the square root of two, with twelve
binary places; `n` is at most sixteen. -/
def cosineUpTo16 (n : Nat) : Int :=
  let quarter : List Int := [5793, 5681, 5352, 4816, 4096, 3218, 2217, 1130, 0]
  if n ≤ 8 then quarter.getD n 0 else -quarter.getD (16 - n) 0

/-- The same for every `n`. -/
def cosine (n : Nat) : Int :=
  let n := n % 32
  if n ≤ 16 then cosineUpTo16 n else cosineUpTo16 (32 - n)

/-- The wave of a frequency at a place. -/
def wave (frequency place : Nat) : Int :=
  if frequency = 0 then 4096 else cosine ((2 * place + 1) * frequency)

/-- The numbers of `wave`, frequency by frequency. -/
def waves : Block := Block.ofFn wave

/-- The sum of the first eight values of a function. -/
def sumOfEight (f : Nat → Int) : Int :=
  f 0 + f 1 + f 2 + f 3 + f 4 + f 5 + f 6 + f 7

/-- Apply the same linear map to the rows and to the columns of a block. -/
def separable (m : Nat → Nat → Int) (b : Block) : Block :=
  let rows := Block.ofFn fun y u => sumOfEight fun x => m u x * b.entry y x
  Block.ofFn fun v u => sumOfEight fun y => m v y * rows.entry y u

/-- By how much both transforms are too large. -/
def transformScale : Nat := 8 * 4096 * 4096

/-- The shares of the frequencies in a block, times `transformScale`. -/
def Block.spectrum (b : Block) : Block := separable waves.entry b

/-- The block with the given shares of the frequencies, times `transformScale`. -/
def Block.ofSpectrum (b : Block) : Block := separable (fun place f => waves.entry f place) b

/-- A quotient rounded to the nearest integer; a half goes away from zero. -/
def roundedQuotient (n : Int) (d : Nat) : Int := ((2 * n.natAbs + d) / (2 * d) : Nat) * n.sign

/-- A quotient rounded to the nearest integer; a half goes up. -/
def roundedUpQuotient (n : Int) (d : Nat) : Int := (2 * n + d).fdiv (2 * d)

end Raster.Jpeg
