import Raster.Bytes.CanonicalCode
import Raster.Bytes.Endian
/-!
# Reading bits

Bits are read from the bytes of a list, the least significant bit of each byte first.  No more
bytes are opened than are needed, so what is left over after a whole number of bytes can be
read as bytes again.
-/

namespace Raster.Deflate

/-- Bytes, and the bits that are left of a byte that has been opened. -/
structure BitSource where
  /-- The bits that are left, as a number. -/
  held : Nat
  /-- How many they are. -/
  count : Nat
  rest : List Byte

namespace BitSource

/-- A source that no bit has been taken from. -/
def ofBytes (bs : List Byte) : BitSource := ⟨0, 0, bs⟩

/-- Open bytes until `n` bits are held. -/
def fill (n : Nat) : (held count : Nat) → List Byte → Option BitSource
  | held, count, [] => if n ≤ count then some ⟨held, count, []⟩ else none
  | held, count, b :: bs =>
    if n ≤ count then some ⟨held, count, b :: bs⟩
    else fill n (held + b.toNat <<< count) (count + 8) bs

/-- Take the next `n` bits as a number, the first bit the least significant. -/
def take (n : Nat) (s : BitSource) : Option (Nat × BitSource) :=
  (fill n s.held s.count s.rest).map fun s =>
    (s.held % 1 <<< n, ⟨s.held >>> n, s.count - n, s.rest⟩)

/-- Drop what is left of the byte that has been opened. -/
def align (s : BitSource) : BitSource := ⟨0, 0, s.rest⟩

end BitSource

/-- Why reading stops before the end. -/
inductive Interruption where
  /-- There are no more bytes. -/
  | starved
  /-- The bits mean nothing. -/
  | corrupt
deriving DecidableEq, Repr

/-- Read bits, or stop for lack of bytes. -/
def takeBits (n : Nat) (s : BitSource) : Except Interruption (Nat × BitSource) :=
  match s.take n with
  | some r => .ok r
  | none => .error .starved

/-- Read a code word and return its symbol. -/
def takeSymbol (code : CanonicalCode) (s : BitSource) : Except Interruption (Nat × BitSource) :=
  code.read (takeBits 1) .corrupt s

/-- The length of the longest code word. -/
def longestWord : Nat := 15

end Raster.Deflate
