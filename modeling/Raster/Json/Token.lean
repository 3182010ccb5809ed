import Raster.Json.Number
/-!
# JSON tokens

A document is first cut into brackets, separators and complete leaves.  The cutter reads one
character at a time and remembers which kind of leaf it is in the middle of.
-/

namespace Raster.Json

/-- A piece of a document. -/
inductive Token where
  | openList | closeList | openObject | closeObject | comma | colon
  /-- A literal, a number or a text. -/
  | leaf (value : Json)

/-- What the cutter is in the middle of.  Characters already read are kept in reverse. -/
inductive Lexeme where
  | between
  | word (read : List Char)
  | number (read : List Char)
  | text (read : List Char)
  /-- After a backslash. -/
  | escape (read : List Char)
  /-- Inside a four-digit code, after the first half of a pair if there is one. -/
  | code (read : List Char) (high : Option Nat) (digits : List Nat)
  /-- After the first half of a pair: a backslash has to follow, and then a `u`. -/
  | pair (read : List Char) (high : Nat) (backslash : Bool)

/-- The value of a hexadecimal digit. -/
def hexDigit? (c : Char) : Option Nat :=
  if '0' ≤ c ∧ c ≤ '9' then some (c.toNat - '0'.toNat)
  else if 'a' ≤ c ∧ c ≤ 'f' then some (c.toNat - 'a'.toNat + 10)
  else if 'A' ≤ c ∧ c ≤ 'F' then some (c.toNat - 'A'.toNat + 10)
  else none

/-- What a four-digit code means after the first half of a pair, or without one. -/
def afterCode (read : List Char) (high : Option Nat) (n : Nat) : Option Lexeme :=
  match high with
  | some h =>
    if 0xdc00 ≤ n ∧ n ≤ 0xdfff then
      some (.text (Char.ofNat (0x10000 + (h - 0xd800) * 0x400 + (n - 0xdc00)) :: read))
    else none
  | none =>
    if 0xd800 ≤ n ∧ n ≤ 0xdbff then some (.pair read n false)
    else if 0xdc00 ≤ n ∧ n ≤ 0xdfff then none
    else some (.text (Char.ofNat n :: read))

/-- The character that a single letter stands for after a backslash. -/
def escaped? : Char → Option Char
  | '"' => some '"'
  | '\\' => some '\\'
  | '/' => some '/'
  | 'b' => some '\x08'
  | 'f' => some '\x0c'
  | 'n' => some '\n'
  | 'r' => some '\r'
  | 't' => some '\t'
  | _ => none

/-- A literal by its name. -/
def literal? (name : List Char) : Option Json :=
  if name = ['n', 'u', 'l', 'l'] then some .null
  else if name = ['t', 'r', 'u', 'e'] then some (.bool true)
  else if name = ['f', 'a', 'l', 's', 'e'] then some (.bool false)
  else none

/-- Whether a character may stand in a number. -/
def isNumberChar (c : Char) : Bool :=
  (digit? c).isSome || c == '-' || c == '+' || c == '.' || c == 'e' || c == 'E'

/-- Read a character that begins something new. -/
def fresh (c : Char) : Option (Lexeme × List Token) :=
  match c with
  | ' ' | '\n' | '\t' | '\r' => some (.between, [])
  | '[' => some (.between, [.openList])
  | ']' => some (.between, [.closeList])
  | '\x7b' => some (.between, [.openObject])
  | '\x7d' => some (.between, [.closeObject])
  | ',' => some (.between, [.comma])
  | ':' => some (.between, [.colon])
  | '"' => some (.text [], [])
  | c =>
    if (digit? c).isSome ∨ c = '-' then some (.number [c], [])
    else if 'a' ≤ c ∧ c ≤ 'z' then some (.word [c], [])
    else none

/-- Read one character. -/
def Lexeme.step (l : Lexeme) (c : Char) : Option (Lexeme × List Token) :=
  match l with
  | between => fresh c
  | word read =>
    if 'a' ≤ c ∧ c ≤ 'z' then some (.word (c :: read), [])
    else do
      let value ← literal? read.reverse
      let (l, tokens) ← fresh c
      return (l, .leaf value :: tokens)
  | number read =>
    if isNumberChar c then some (.number (c :: read), [])
    else do
      let value ← ofNumber? read.reverse
      let (l, tokens) ← fresh c
      return (l, .leaf value :: tokens)
  | text read =>
    if c = '"' then some (.between, [.leaf (.text (String.ofList read.reverse))])
    else if c = '\\' then some (.escape read, [])
    else if c.toNat < 0x20 then none
    else some (.text (c :: read), [])
  | escape read =>
    if c = 'u' then some (.code read none [], [])
    else (escaped? c).map fun e => (.text (e :: read), [])
  | code read high digits => do
    let d ← hexDigit? c
    match digits with
    | [x, y, z] => return (← afterCode read high (((x * 16 + y) * 16 + z) * 16 + d), [])
    | digits => return (.code read high (digits ++ [d]), [])
  | pair read high backslash =>
    if backslash then if c = 'u' then some (.code read (some high) [], []) else none
    else if c = '\\' then some (.pair read high true, [])
    else none

/-- What the end of the document completes. -/
def Lexeme.finish : Lexeme → Option (List Token)
  | between => some []
  | word read => (literal? read.reverse).map fun v => [.leaf v]
  | number read => (ofNumber? read.reverse).map fun v => [.leaf v]
  | _ => none

/-- Cut the rest of a document. -/
def tokensFrom : Lexeme → List Char → Option (List Token)
  | l, [] => l.finish
  | l, c :: cs => do
    let (l, tokens) ← l.step c
    return tokens ++ (← tokensFrom l cs)

/-- The tokens of a document. -/
def tokens (cs : List Char) : Option (List Token) := tokensFrom .between cs

end Raster.Json
