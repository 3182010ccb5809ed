/-!
# Canonical codes

A canonical code is given by the length of the code word of each symbol: words of one length
follow each other in the order of their symbols, and shorter words come before longer ones.
A word is read bit by bit, most significant bit first, from any source of bits.
-/

namespace Raster

/-- A canonical code. -/
structure CanonicalCode where
  /-- How many words have one bit, two bits, … . -/
  counts : List Nat
  /-- The symbols in the order of their words. -/
  symbols : Array Nat

/-- A code word: its value, and the number of its bits. -/
structure CodeWord where
  value : Nat
  length : Nat

namespace CanonicalCode

/-- The symbols with words of some length. -/
def symbolsOfLength (lengths : List Nat) (n : Nat) : List Nat :=
  (lengths.zipIdx.filter fun (l, _) => l = n).map (·.2)

/-- The code whose words have the given lengths, at most `longest`; length zero means no
word. -/
def ofLengths (longest : Nat) (lengths : List Nat) : CanonicalCode :=
  let groups := (List.range longest).map fun n => symbolsOfLength lengths (n + 1)
  ⟨groups.map List.length, groups.flatten.toArray⟩

/-- How many words of the greatest length fit into what the words leave free; nothing if there
are too many words. -/
def room : List Nat → (free : Nat) → Option Nat
  | [], free => some free
  | c :: cs, free => if c ≤ 2 * free then room cs (2 * free - c) else none

/-- Whether every sequence of bits begins with a word. -/
def isComplete (code : CanonicalCode) : Bool := room code.counts 1 = some 0

/-- Whether the code is complete, or has at most one word, of one bit. -/
def isUsable (code : CanonicalCode) : Bool :=
  code.isComplete || code.symbols.isEmpty ||
    (code.symbols.size = 1 && code.counts.head? = some 1)

/-- Read a word with `bit`; `unknown` says that there is no such word.  Of the words with as
many bits as have been read, `first` is the value of the first one and `index` the number of
its symbol. -/
def readFrom {σ ε : Type} (bit : σ → Except ε (Nat × σ)) (unknown : ε) (symbols : Array Nat) :
    (counts : List Nat) → (value first index : Nat) → σ → Except ε (Nat × σ)
  | [], _, _, _, _ => .error unknown
  | c :: counts, value, first, index, s => do
    let (b, s) ← bit s
    let value := value + b
    if value < first + c then
      match symbols[index + (value - first)]? with
      | some symbol => return (symbol, s)
      | none => throw unknown
    else readFrom bit unknown symbols counts (2 * value) (2 * (first + c)) (index + c) s

/-- Read a word and return its symbol. -/
def read {σ ε : Type} (bit : σ → Except ε (Nat × σ)) (unknown : ε) (code : CanonicalCode) (s : σ) :
    Except ε (Nat × σ) :=
  readFrom bit unknown code.symbols code.counts 0 0 0 s

/-- The words of some symbols, the first of which has `length` bits and the given value. -/
def wordsFrom : (counts : List Nat) → (length first : Nat) → List Nat → List (Nat × CodeWord)
  | [], _, _, _ => []
  | c :: counts, length, first, symbols =>
    (symbols.take c).zipIdx.map (fun (symbol, i) => (symbol, ⟨first + i, length⟩)) ++
      wordsFrom counts (length + 1) (2 * (first + c)) (symbols.drop c)

/-- The word of each symbol. -/
def words (code : CanonicalCode) : List (Nat × CodeWord) :=
  wordsFrom code.counts 1 0 code.symbols.toList

end CanonicalCode

end Raster
