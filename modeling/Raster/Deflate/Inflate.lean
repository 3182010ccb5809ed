import Raster.Deflate.BitSource
/-!
# Inflating

Compressed data are blocks: bytes as they are, or literals and copies of what came before,
written in a canonical code that is fixed or described in front of the block.  What comes
before an interruption is kept, since a picture may be told from it.
-/

namespace Raster.Deflate

/-- Data that have been inflated in part. -/
structure Inflation where
  source : BitSource
  output : Array Byte

/-- What inflating comes to. -/
structure Inflated where
  output : Array Byte
  /-- What is left after the last block, if it was reached. -/
  ending : Except Interruption BitSource

/-- What a block comes to: more data, or an interruption with the data until then. -/
abbrev BlockResult := Except (Interruption × Array Byte) Inflation

/-- Interrupt a block. -/
def interrupt {α : Type} (out : Array Byte) (r : Except Interruption α) :
    Except (Interruption × Array Byte) α := r.mapError fun i => (i, out)

/-! ## Copies -/

/-- The shortest copy of each length symbol from 257 on, and how many more bits say how much
longer it is. -/
def lengthTable : Array (Nat × Nat) :=
  #[(3, 0), (4, 0), (5, 0), (6, 0), (7, 0), (8, 0), (9, 0), (10, 0), (11, 1), (13, 1), (15, 1),
    (17, 1), (19, 2), (23, 2), (27, 2), (31, 2), (35, 3), (43, 3), (51, 3), (59, 3), (67, 4),
    (83, 4), (99, 4), (115, 4), (131, 5), (163, 5), (195, 5), (227, 5), (258, 0)]

/-- The shortest distance of each distance symbol, and how many more bits say how much
greater it is. -/
def distanceTable : Array (Nat × Nat) :=
  #[(1, 0), (2, 0), (3, 0), (4, 0), (5, 1), (7, 1), (9, 2), (13, 2), (17, 3), (25, 3), (33, 4),
    (49, 4), (65, 5), (97, 5), (129, 6), (193, 6), (257, 7), (385, 7), (513, 8), (769, 8),
    (1025, 9), (1537, 9), (2049, 10), (3073, 10), (4097, 11), (6145, 11), (8193, 12), (12289, 12),
    (16385, 13), (24577, 13)]

/-- Read a number that a table gives for a symbol. -/
def readTable (table : Array (Nat × Nat)) (symbol : Nat) (s : BitSource) :
    Except Interruption (Nat × BitSource) :=
  match table[symbol]? with
  | some (base, bits) => do
    let (more, s) ← takeBits bits s
    return (base + more, s)
  | none => .error .corrupt

/-- Append bytes that stand some distance back, one by one; what has just been appended may be
copied too. -/
def copy (distance : Nat) : (count : Nat) → Array Byte → Array Byte
  | 0, out => out
  | count + 1, out => copy distance count (out.push (out.getD (out.size - distance) 0))

/-- Read the length and the distance of a copy. -/
def readCopy (distances : CanonicalCode) (symbol : Nat) (s : BitSource) :
    Except Interruption (Nat × Nat × BitSource) := do
  let (length, s) ← readTable lengthTable (symbol - 257) s
  let (symbol, s) ← takeSymbol distances s
  let (distance, s) ← readTable distanceTable symbol s
  return (length, distance, s)

/-- Read symbols up to the end of the block; every one takes at least one bit. -/
def inflateSymbols (literals distances : CanonicalCode) :
    (fuel : Nat) → Inflation → BlockResult
  | 0, p => .error (.corrupt, p.output)
  | fuel + 1, p => do
    let (symbol, source) ← interrupt p.output (takeSymbol literals p.source)
    if symbol < 256 then
      inflateSymbols literals distances fuel ⟨source, p.output.push (BitVec.ofNat 8 symbol)⟩
    else if symbol = 256 then return ⟨source, p.output⟩
    else
      let (length, distance, source) ← interrupt p.output (readCopy distances symbol source)
      if distance ≤ p.output.size then
        inflateSymbols literals distances fuel ⟨source, copy distance length p.output⟩
      else throw (.corrupt, p.output)

/-! ## Codes -/

/-- The fixed code of literals and lengths. -/
def fixedLiterals : CanonicalCode :=
  .ofLengths longestWord (List.replicate 144 8 ++ List.replicate 112 9 ++ List.replicate 24 7 ++
    List.replicate 8 8)

/-- The fixed code of distances. -/
def fixedDistances : CanonicalCode := .ofLengths longestWord (List.replicate 32 5)

/-- The order in which the lengths of the code of lengths are written. -/
def lengthOrder : List Nat := [16, 17, 18, 0, 8, 7, 9, 6, 10, 5, 11, 4, 12, 3, 13, 2, 14, 1, 15]

/-- Read some numbers of three bits. -/
def readTriples : (count : Nat) → BitSource → Except Interruption (List Nat × BitSource)
  | 0, s => .ok ([], s)
  | count + 1, s => do
    let (n, s) ← takeBits 3 s
    let (ns, s) ← readTriples count s
    return (n :: ns, s)

/-- Read lengths of words until there are enough; a symbol from 16 on repeats a length.  They
are kept in reverse. -/
def readLengths (code : CanonicalCode) (total : Nat) :
    (fuel : Nat) → (read : List Nat) → BitSource → Except Interruption (List Nat × BitSource)
  | 0, _, _ => .error .corrupt
  | fuel + 1, read, s =>
    if total ≤ read.length then
      if read.length = total then .ok (read.reverse, s) else .error .corrupt
    else do
      let (symbol, s) ← takeSymbol code s
      if symbol < 16 then readLengths code total fuel (symbol :: read) s
      else if symbol = 16 then
        match read with
        | [] => throw .corrupt
        | last :: _ =>
          let (more, s) ← takeBits 2 s
          readLengths code total fuel (List.replicate (3 + more) last ++ read) s
      else if symbol = 17 then
        let (more, s) ← takeBits 3 s
        readLengths code total fuel (List.replicate (3 + more) 0 ++ read) s
      else
        let (more, s) ← takeBits 7 s
        readLengths code total fuel (List.replicate (11 + more) 0 ++ read) s

/-- Read the description of the two codes of a block. -/
def readCodes (s : BitSource) :
    Except Interruption (CanonicalCode × CanonicalCode × BitSource) := do
  let (literalCount, s) ← takeBits 5 s
  let (distanceCount, s) ← takeBits 5 s
  let (lengthCount, s) ← takeBits 4 s
  if 29 < literalCount ∨ 29 < distanceCount then throw .corrupt
  let (given, s) ← readTriples (lengthCount + 4) s
  let lengthOf (symbol : Nat) : Nat :=
    ((lengthOrder.zip given).find? fun (o, _) => o = symbol).elim 0 (·.2)
  let code := CanonicalCode.ofLengths longestWord ((List.range 19).map lengthOf)
  if !code.isUsable then throw .corrupt
  let total := literalCount + 257 + (distanceCount + 1)
  let (lengths, s) ← readLengths code total (total + 1) [] s
  let literals := CanonicalCode.ofLengths longestWord (lengths.take (literalCount + 257))
  let distances := CanonicalCode.ofLengths longestWord (lengths.drop (literalCount + 257))
  if !literals.isUsable ∨ !distances.isUsable then throw .corrupt
  return (literals, distances, s)

/-! ## Blocks -/

/-- Read a block of bytes as they are: their number, its complement, and the bytes. -/
def inflateStored (p : Inflation) : BlockResult :=
  match Bytes.cut? 4 p.source.align.rest with
  | none => .error (.starved, p.output)
  | some (header, rest) =>
    let length := Bytes.littleEndian (header.take 2)
    if length + Bytes.littleEndian (header.drop 2) = 65535 then
      let data := rest.take length
      if data.length = length then .ok ⟨.ofBytes (rest.drop length), p.output ++ data⟩
      else .error (.starved, p.output ++ data)
    else .error (.corrupt, p.output)

/-- An upper bound on the number of symbols that a source holds. -/
def symbolBound (s : BitSource) : Nat := s.count + 8 * s.rest.length + 1

/-- Read a block of symbols. -/
def inflateCoded (literals distances : CanonicalCode) (p : Inflation) : BlockResult :=
  inflateSymbols literals distances (symbolBound p.source) p

/-- Read a block of a given kind. -/
def inflateBlock (kind : Nat) (p : Inflation) : BlockResult :=
  match kind with
  | 0 => inflateStored p
  | 1 => inflateCoded fixedLiterals fixedDistances p
  | 2 => do
    let (literals, distances, source) ← interrupt p.output (readCodes p.source)
    inflateCoded literals distances ⟨source, p.output⟩
  | _ => .error (.corrupt, p.output)

/-- Read blocks up to the last; every one takes at least three bits. -/
def inflateBlocks : (fuel : Nat) → Inflation → Inflated
  | 0, p => ⟨p.output, .error .corrupt⟩
  | fuel + 1, p =>
    match takeBits 3 p.source with
    | .error i => ⟨p.output, .error i⟩
    | .ok (header, source) =>
      match inflateBlock (header / 2) ⟨source, p.output⟩ with
      | .error (i, out) => ⟨out, .error i⟩
      | .ok p => if header % 2 = 1 then ⟨p.output, .ok p.source⟩ else inflateBlocks fuel p

/-- Inflate blocks. -/
def inflate (bs : List Byte) : Inflated :=
  inflateBlocks (8 * bs.length + 1) ⟨.ofBytes bs, #[]⟩

/-! ## The wrapper -/

/-- Whether two bytes announce deflated data with a window of at most 32768 bytes and no
preset dictionary. -/
def isWrapper (method flags : Byte) : Bool :=
  method.toNat % 16 = 8 && method.toNat / 16 ≤ 7 && (256 * method.toNat + flags.toNat) % 31 = 0 &&
    flags.toNat / 32 % 2 = 0

/-- Inflate data in their wrapper: two bytes in front, and a checksum of four bytes behind,
which is not looked at. -/
def unwrap (bs : List Byte) : Inflated :=
  match bs with
  | method :: flags :: rest =>
    if isWrapper method flags then
      let inflated := inflate rest
      match inflated.ending with
      | .ok s => if 4 ≤ s.rest.length then inflated else ⟨inflated.output, .error .starved⟩
      | .error _ => inflated
    else ⟨#[], .error .corrupt⟩
  | _ => ⟨#[], .error .starved⟩

end Raster.Deflate
