import Raster.Extension.CharSet
/-!
# Patterns

A pattern describes texts.  `Pattern.advance` says where matches that begin at some of a set
of positions can end; working with all positions at once, it needs no search.  Repetition goes
round at most once for each position of the text: by then nothing new can be reached.
-/

namespace Raster

/-- A condition on a position in a text. -/
inductive Assertion where
  | textStart | textEnd
  | lineStart | lineEnd
  /-- Line ends that may be written as a carriage return, a line feed, or both. -/
  | anyLineStart | anyLineEnd
  | wordBoundary | noWordBoundary
  | wordStart | wordEnd
  /-- No word character before the position. -/
  | wordStartHalf
  /-- No word character after the position. -/
  | wordEndHalf
deriving DecidableEq, Repr

/-- A description of texts. -/
inductive Pattern where
  | empty
  | one (set : CharSet)
  | check (assertion : Assertion)
  | seq (first second : Pattern)
  | either (first second : Pattern)
  | repeated (pattern : Pattern) (least : Nat) (most : Option Nat)

/-- Whether a condition holds between two characters, or at an end of the text. -/
def Assertion.holds (a : Assertion) (before after : Option Char) : Bool :=
  let wordBefore := before.any CharSet.word
  let wordAfter := after.any CharSet.word
  match a with
  | textStart => before.isNone
  | textEnd => after.isNone
  | lineStart => before.isNone || before == some '\n'
  | lineEnd => after.isNone || after == some '\n'
  | anyLineStart =>
    before.isNone || before == some '\n' || (before == some '\r' && after != some '\n')
  | anyLineEnd => after.isNone || after == some '\r' || (after == some '\n' && before != some '\r')
  | wordBoundary => wordBefore != wordAfter
  | noWordBoundary => wordBefore == wordAfter
  | wordStart => !wordBefore && wordAfter
  | wordEnd => wordBefore && !wordAfter
  | wordStartHalf => !wordBefore
  | wordEndHalf => !wordAfter

namespace Pattern

/-- The positions in either list, none of them twice if none is in the second. -/
def join (ps qs : List Nat) : List Nat := ps.filter (fun p => !qs.contains p) ++ qs

/-- Apply a function some number of times. -/
def iterate (f : List Nat → List Nat) : Nat → List Nat → List Nat
  | 0, ps => ps
  | n + 1, ps => iterate f n (f ps)

/-- The character before a position. -/
def before (text : List Char) : Nat → Option Char
  | 0 => none
  | p + 1 => text[p]?

/-- The positions where matches end that begin at one of some positions. -/
def advance (text : List Char) : Pattern → List Nat → List Nat
  | empty, ps => ps
  | one set, ps =>
    (ps.filter fun p => text[p]?.any set).map (· + 1)
  | check a, ps => ps.filter fun p => a.holds (before text p) text[p]?
  | seq first second, ps => advance text second (advance text first ps)
  | either first second, ps => join (advance text first ps) (advance text second ps)
  | repeated p least most, ps =>
    let rounds := text.length + 1
    let reached := iterate (advance text p) (min least rounds) ps
    let more := match most with
      | some n => min (n - least) rounds
      | none => rounds
    iterate (fun qs => join (advance text p qs) qs) more reached

/-- Whether some part of a text matches. -/
def occursIn (p : Pattern) (text : List Char) : Bool :=
  !(p.advance text (List.range (text.length + 1))).isEmpty

end Pattern

end Raster
