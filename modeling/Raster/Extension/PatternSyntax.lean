import Raster.Extension.PatternAtom
/-!
# Reading patterns

A written pattern is read from left to right with a stack of the groups that are still open.
Flags that are set inside a group end with it.  What is written wrongly is no pattern at all:
`Pattern.parse?` does not say why.
-/

namespace Raster

/-- A group that is still open. -/
structure OpenGroup where
  /-- The flags after the group. -/
  outer : PatternFlags
  /-- The alternatives that are complete, the last first. -/
  branches : List Pattern
  /-- The parts of the current alternative, the last first; flags that are set here leave a
  part that cannot be repeated. -/
  parts : List (Option Pattern)

namespace OpenGroup

/-- A group without parts. -/
def fresh (outer : PatternFlags) : OpenGroup := ⟨outer, [], []⟩

/-- The current alternative. -/
def branch (g : OpenGroup) : Pattern :=
  g.parts.foldl (fun rest part => match part with
    | some p => .seq p rest
    | none => rest) .empty

/-- The pattern of the whole group. -/
def close (g : OpenGroup) : Pattern := g.branches.foldl (fun rest p => .either p rest) g.branch

/-- Add a part. -/
def push (g : OpenGroup) (p : Option Pattern) : OpenGroup := { g with parts := p :: g.parts }

/-- Begin another alternative. -/
def nextBranch (g : OpenGroup) : OpenGroup :=
  { g with branches := g.branch :: g.branches, parts := [] }

/-- Repeat the last part. -/
def repeatLast (g : OpenGroup) (least : Nat) (most : Option Nat) : Option OpenGroup :=
  match g.parts with
  | some p :: parts => some { g with parts := some (.repeated p least most) :: parts }
  | _ => none

end OpenGroup

/-- A pattern that has been read in part. -/
structure PatternReading where
  flags : PatternFlags
  group : OpenGroup
  /-- The groups around it, the innermost first. -/
  around : List OpenGroup
  /-- The names of groups, which must not repeat. -/
  names : List (List Char)

/-! ## Flags -/

/-- Switch the flag of a letter; greed makes no difference to whether a text matches. -/
def PatternFlags.switch (f : PatternFlags) (on : Bool) : Char → Option PatternFlags
  | 'i' => some { f with folding := on }
  | 'm' => some { f with multiline := on }
  | 's' => some { f with dotAll := on }
  | 'U' => some f
  | 'u' => some { f with unicode := on }
  | 'R' => some { f with anyLine := on }
  | 'x' => some { f with verbose := on }
  | _ => none

/-- Read flags up to a colon or a parenthesis.  No flag comes twice, only one hyphen turns to
switching off, and flags follow it. -/
def readFlags : (seen : List Char) → (off dangling : Bool) → PatternFlags → List Char →
    Option (PatternFlags × Bool × List Char)
  | _, _, _, _, [] => none
  | seen, off, dangling, f, c :: cs =>
    if c = ':' then if dangling then none else some (f, true, cs)
    else if c = ')' then if dangling ∨ seen.isEmpty then none else some (f, false, cs)
    else if c = '-' then if off then none else readFlags seen true true f cs
    else if c ∈ seen then none
    else
      match f.switch (!off) c with
      | some f => readFlags (c :: seen) off false f cs
      | none => none

/-! ## Groups -/

/-- Whether a character can stand in the name of a group. -/
def isGroupNameChar (first : Bool) (c : Char) : Bool :=
  c == '_' || CharSet.alpha c || 128 ≤ c.toNat ||
    (!first && (CharSet.digit c || c == '.' || c == '[' || c == ']'))

/-- Read the name of a group up to its bracket. -/
def readGroupName (names : List (List Char)) (cs : List Char) :
    Option (List Char × List Char) :=
  let name := cs.takeWhile (· ≠ '>')
  match name, cs.dropWhile (· ≠ '>') with
  | c :: rest, '>' :: after =>
    if isGroupNameChar true c ∧ rest.all (isGroupNameChar false) ∧ name ∉ names then
      some (name, after)
    else none
  | _, _ => none

namespace PatternReading

variable (r : PatternReading)

/-- Open a group with some flags inside it. -/
def openGroup (flags : PatternFlags) : PatternReading :=
  { r with flags := flags, group := .fresh r.flags, around := r.group :: r.around }

/-- Open a group with a name. -/
def openNamed (cs : List Char) : Option (PatternReading × List Char) :=
  (readGroupName r.names cs).map fun (name, rest) =>
    ({ r.openGroup r.flags with names := name :: r.names }, rest)

/-- Read what follows an opening parenthesis. -/
def afterParenthesis (cs : List Char) : Option (PatternReading × List Char) :=
  match cs with
  | '?' :: '=' :: _ | '?' :: '!' :: _ | '?' :: '<' :: '=' :: _ | '?' :: '<' :: '!' :: _ => none
  | '?' :: 'P' :: '<' :: cs => r.openNamed cs
  | '?' :: '<' :: cs => r.openNamed cs
  | '?' :: cs =>
    match readFlags [] false false r.flags cs with
    | some (flags, true, rest) => some (r.openGroup flags, rest)
    | some (flags, false, rest) =>
      some ({ r with flags := flags, group := r.group.push none }, rest)
    | none => none
  | cs => some (r.openGroup r.flags, cs)

/-- Close the innermost group. -/
def closeGroup : Option PatternReading :=
  match r.around with
  | outer :: around =>
    some { r with
      flags := r.group.outer
      group := outer.push (some r.group.close)
      around := around }
  | [] => none

/-- Add a part to the current group. -/
def add (p : Pattern) : PatternReading := { r with group := r.group.push (some p) }

/-! ## Elements -/

/-- The pattern of an element. -/
def element : PatternAtom → Pattern
  | .literal c => .one ((CharSet.single c).foldIf r.flags.folding)
  | .set s => .one (s.foldIf r.flags.folding)
  | .check a => .check a

/-- The characters that a dot matches. -/
def dot : CharSet :=
  if r.flags.dotAll then CharSet.none.compl
  else if r.flags.anyLine then (CharSet.ofList ['\n', '\r']).compl
  else (CharSet.single '\n').compl

/-- What a circumflex stands for. -/
def start : Assertion :=
  if r.flags.multiline then if r.flags.anyLine then .anyLineStart else .lineStart else .textStart

/-- What a dollar sign stands for. -/
def finish : Assertion :=
  if r.flags.multiline then if r.flags.anyLine then .anyLineEnd else .lineEnd else .textEnd

/-! ## Repetition -/

/-- Leave out a question mark that asks for the shortest match. -/
def dropLazy : List Char → List Char
  | '?' :: cs => cs
  | cs => cs

/-- Repeat the last part, and go on. -/
def repeatLast (least : Nat) (most : Option Nat) (rest : List Char) :
    Option (PatternReading × List Char) :=
  (r.group.repeatLast least most).map fun group => ({ r with group := group }, dropLazy rest)

/-- Read a number; blanks around it do not count. -/
def readCount (cs : List Char) : Option Nat × List Char :=
  let (digits, rest) := r.flags.span CharSet.digit (cs.dropWhile Text.isBlank)
  (numeral? (UInt32.size - 1) digits, rest.dropWhile Text.isBlank)

/-- Read a count in braces, after the opening one. -/
def readCounts (cs : List Char) : Option (PatternReading × List Char) :=
  match r.readCount (r.flags.skip cs) with
  | (some least, '\x7d' :: rest) => r.repeatLast least (some least) (r.flags.skip rest)
  | (some least, ',' :: rest) =>
    match r.flags.skip rest with
    | '\x7d' :: rest => r.repeatLast least none (r.flags.skip rest)
    | rest =>
      match r.readCount rest with
      | (some most, '\x7d' :: rest) =>
        if least ≤ most then r.repeatLast least (some most) (r.flags.skip rest) else none
      | _ => none
  | _ => none

/-! ## The whole pattern -/

/-- Read one element that begins with a given character. -/
def step (c : Char) (cs : List Char) : Option (PatternReading × List Char) :=
  match c with
  | '(' => r.afterParenthesis (r.flags.skip cs)
  | ')' => r.closeGroup.map fun r => (r, cs)
  | '|' => some ({ r with group := r.group.nextBranch }, cs)
  | '[' => do
    let (negated, first, rest) ← openClass r.flags cs
    let (s, rest) ←
      readClass r.flags cs.length [.opened negated CharSet.none] first rest
    if r.flags.admits s then some (r.add (.one s), rest) else none
  | '?' => r.repeatLast 0 (some 1) cs
  | '*' => r.repeatLast 0 none cs
  | '+' => r.repeatLast 1 none cs
  | '\x7b' => r.readCounts cs
  | '\\' => do
    let (atom, rest) ← readEscape r.flags cs
    some (r.add (r.element atom), rest)
  | '.' => if r.flags.admits r.dot then some (r.add (.one r.dot), cs) else none
  | '^' => some (r.add (.check r.start), cs)
  | '$' => some (r.add (.check r.finish), cs)
  | c => some (r.add (r.element (.literal c)), cs)

/-- Read the rest; every round takes at least one character. -/
def run : (fuel : Nat) → PatternReading → List Char → Option Pattern
  | 0, _, _ => none
  | fuel + 1, r, cs =>
    match r.flags.skip cs with
    | [] => if r.around.isEmpty then some r.group.close else none
    | c :: cs =>
      match r.step c cs with
      | some (r, cs) => run fuel r cs
      | none => none

end PatternReading

/-- Read a pattern. -/
def Pattern.parse? (cs : List Char) : Option Pattern :=
  PatternReading.run (cs.length + 1) ⟨{}, .fresh {}, [], []⟩ cs

end Raster
