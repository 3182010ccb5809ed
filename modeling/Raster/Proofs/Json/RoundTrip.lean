import Raster.Json.Document
import Raster.Proofs.Json.Number
import Raster.Proofs.Json.Text
/-!
# Documents and back

A document that is written is cut into the tokens of its value (`cuts_render`), and these make
up the value again, unless lists and objects nest too deep (`foldlM_toTokens`).  So what is read
back is what was written, if the text of every number in it is read as this number
(`parse?_render`).  The text of a number, standing alone, is read as a number or not at all
(`parse?_of_isNumberText`).
-/

namespace Raster.Json

/-! ## Values -/

mutual

/-- How deep lists and objects nest. -/
def depth : Json → Nat
  | list items => itemsDepth items + 1
  | object members => membersDepth members + 1
  | _ => 0

/-- How deep the items of a list nest. -/
def itemsDepth : List Json → Nat
  | [] => 0
  | j :: js => max j.depth (itemsDepth js)

/-- How deep the members of an object nest. -/
def membersDepth : List (String × Json) → Nat
  | [] => 0
  | (_, j) :: ms => max j.depth (membersDepth ms)

end

mutual

/-- The numbers in a document are as they should be: its integers, and its doubles. -/
def NumbersIn (Whole : Int → Prop) (Broken : Float → Prop) : Json → Prop
  | int n => Whole n
  | double x => Broken x
  | list items => ItemsIn Whole Broken items
  | object members => MembersIn Whole Broken members
  | _ => True

/-- So are the numbers in the items of a list. -/
def ItemsIn (Whole : Int → Prop) (Broken : Float → Prop) : List Json → Prop
  | [] => True
  | j :: js => j.NumbersIn Whole Broken ∧ ItemsIn Whole Broken js

/-- So are the numbers in the members of an object. -/
def MembersIn (Whole : Int → Prop) (Broken : Float → Prop) : List (String × Json) → Prop
  | [] => True
  | (_, j) :: ms => j.NumbersIn Whole Broken ∧ MembersIn Whole Broken ms

end

/-! ## Tokens -/

mutual

/-- The tokens of a document. -/
def toTokens : Json → List Token
  | list items => .openList :: [.comma].intercalate (itemTokens items) ++ [.closeList]
  | object members => .openObject :: [.comma].intercalate (memberTokens members) ++ [.closeObject]
  | j => [.leaf j]

/-- The tokens of the items of a list. -/
def itemTokens : List Json → List (List Token)
  | [] => []
  | j :: js => j.toTokens :: itemTokens js

/-- The tokens of the members of an object. -/
def memberTokens : List (String × Json) → List (List Token)
  | [] => []
  | (key, j) :: ms => (.leaf (.text key) :: .colon :: j.toTokens) :: memberTokens ms

end

/-- A text ends what stands in front of it: it is empty, or its first character stands in no number
and in no literal. -/
def Ends (rest : List Char) : Prop :=
  ∀ c ∈ rest.head?, isNumberChar c = false ∧ ¬('a' ≤ c ∧ c ≤ 'z')

/-- A text is cut into some tokens, if what follows ends it. -/
def Cuts (cs : List Char) (ts : List Token) : Prop :=
  ∀ rest, Ends rest →
    tokensFrom .between (cs ++ rest) = (tokensFrom .between rest).map (ts ++ ·)

variable {cs cs' : List Char} {ts ts' : List Token}

lemma Cuts.append (h : Cuts cs ts) (h' : Cuts cs' ts')
    (hends : ∀ rest, Ends rest → Ends (cs' ++ rest)) : Cuts (cs ++ cs') (ts ++ ts') := by
  intro rest hrest
  rw [List.append_assoc, h _ (hends rest hrest), h' rest hrest, Option.map_map]
  simp [Function.comp_def]

/-- A bracket or a separator, whatever follows. -/
lemma Cuts.cons {c : Char} {t : Token} (h : fresh c = some (.between, [t])) (h' : Cuts cs ts) :
    Cuts (c :: cs) (t :: ts) := by
  intro rest hrest
  rw [List.cons_append, tokensFrom_cons (l := .between) h, h' rest hrest, Option.map_map]
  rfl

/-- A text between quotes, whatever follows. -/
lemma Cuts.quoted_append (s : String) (h : Cuts cs ts) :
    Cuts ((quoted s).toList ++ cs) (.leaf (.text s) :: ts) := by
  intro rest hrest
  rw [List.append_assoc, tokensFrom_quoted, h rest hrest, Option.map_map]
  rfl

lemma cuts_nil : Cuts [] [] := by
  intro rest _
  rw [List.nil_append]
  cases tokensFrom .between rest <;> rfl

/-- A literal or a number is complete where something new begins. -/
lemma tokensFrom_of_complete {l : Lexeme} {v : Json} {rest : List Char}
    (hfinish : l.finish = some [.leaf v])
    (hstep : ∀ c ∈ rest.head?, l.step c = (fresh c).map fun (l, ts) => (l, .leaf v :: ts)) :
    tokensFrom l rest = (tokensFrom .between rest).map ([.leaf v] ++ ·) := by
  cases rest with
  | nil => exact hfinish
  | cons c cs =>
    have hbetween : Lexeme.between.step c = fresh c := rfl
    have hfirst := hstep c rfl
    cases hfresh : fresh c with
    | none =>
      rw [hfresh] at hfirst hbetween
      rw [tokensFrom, tokensFrom, hfirst, hbetween]
      rfl
    | some p =>
      rw [hfresh] at hfirst hbetween
      rw [tokensFrom_cons hfirst, tokensFrom_cons hbetween, Option.map_map]
      rfl

/-- Characters that only lengthen what is being read. -/
lemma tokensFrom_reading {l : List Char → Lexeme} {p : Char → Prop}
    (hstep : ∀ read c, p c → (l read).step c = some (l (c :: read), []))
    (h : ∀ c ∈ cs, p c) (read rest : List Char) :
    tokensFrom (l read) (cs ++ rest) = tokensFrom (l (cs.reverse ++ read)) rest := by
  induction cs generalizing read with
  | nil => rfl
  | cons c cs ih =>
    rw [List.forall_mem_cons] at h
    rw [List.cons_append, tokensFrom_cons_silent (hstep read c h.1), ih h.2, List.reverse_cons,
      List.append_assoc]
    rfl

/-- A literal, before something that ends it. -/
lemma cuts_word {c : Char} {v : Json} (hfirst : fresh c = some (.word [c], []))
    (hletters : ∀ c ∈ cs, 'a' ≤ c ∧ c ≤ 'z') (h : literal? (c :: cs) = some v) :
    Cuts (c :: cs) [.leaf v] := by
  intro rest hrest
  have hstart : Lexeme.between.step c = some (.word [c], []) := hfirst
  have hread : literal? (cs.reverse ++ [c]).reverse = some v := by simpa using h
  have hstep : ∀ read c, 'a' ≤ c ∧ c ≤ 'z' →
      (Lexeme.word read).step c = some (.word (c :: read), []) := fun _ _ h => if_pos h
  rw [List.cons_append, tokensFrom_cons_silent hstart, tokensFrom_reading hstep hletters]
  refine tokensFrom_of_complete ?_ fun c hc => ?_
  · rw [Lexeme.finish, hread]
    rfl
  · rw [Lexeme.step, if_neg (hrest c hc).2, hread]
    cases fresh c <;> rfl

lemma fresh_of_number {c : Char} (h : (digit? c).isSome = true ∨ c = '-') :
    fresh c = some (.number [c], []) := by
  unfold fresh
  split
  case h_12 => exact if_pos h
  all_goals exact absurd h (by decide)

/-- A number, before something that ends it. -/
lemma cuts_number {v : Json} (h : ofNumber? cs = some v) : Cuts cs [.leaf v] := by
  intro rest hrest
  obtain ⟨⟨c, cs, rfl, hfirst⟩, hall⟩ := IsNumberText.of_ofNumber? h
  have hstart : Lexeme.between.step c = some (.number [c], []) := fresh_of_number hfirst
  have hread : ofNumber? (cs.reverse ++ [c]).reverse = some v := by simpa using h
  have hstep : ∀ read c, isNumberChar c = true →
      (Lexeme.number read).step c = some (.number (c :: read), []) := fun _ _ h => if_pos h
  rw [List.forall_mem_cons] at hall
  rw [List.cons_append, tokensFrom_cons_silent hstart, tokensFrom_reading hstep hall.2]
  refine tokensFrom_of_complete ?_ fun c hc => ?_
  · rw [Lexeme.finish, hread]
    rfl
  · rw [Lexeme.step, (hrest c hc).1, if_neg Bool.false_ne_true, hread]
    cases fresh c <;> rfl

lemma ends_cons {c : Char} (h : isNumberChar c = false ∧ ¬('a' ≤ c ∧ c ≤ 'z')) (cs : List Char) :
    Ends (c :: cs) := by
  intro c' hc'
  obtain rfl := Option.some.inj hc'
  exact h

/-- Parts with commas between them. -/
lemma cuts_intercalate {css : List (List Char)} {tss : List (List Token)}
    (h : List.Forall₂ Cuts css tss) :
    Cuts ([','].intercalate css) ([.comma].intercalate tss) := by
  induction h with
  | nil => exact cuts_nil
  | cons hcs hrest ih =>
    cases hrest with
    | nil => simpa using hcs
    | cons hcs' hrest =>
      rw [List.intercalate_cons_cons, List.intercalate_cons_cons, List.append_assoc,
        List.append_assoc]
      exact hcs.append (ih.cons rfl) fun rest _ => ends_cons (by decide) _

/-- What stands between brackets. -/
lemma Cuts.bracket {c c' : Char} {t t' : Token} (h : Cuts cs ts)
    (hopen : fresh c = some (.between, [t])) (hclose : fresh c' = some (.between, [t']))
    (hends : isNumberChar c' = false ∧ ¬('a' ≤ c' ∧ c' ≤ 'z')) :
    Cuts (c :: cs ++ [c']) (t :: ts ++ [t']) :=
  (h.append (cuts_nil.cons hclose) fun rest _ => ends_cons hends rest).cons hopen

/-- Numbers that are as they should be are read from their texts. -/
structure NumbersRead (Whole : Int → Prop) (Broken : Float → Prop) : Prop where
  whole : ∀ n, Whole n → ofNumber? (toString n).toList = some (.int n)
  broken : ∀ x, Broken x → ofNumber? (doubleText x).toList = some (.double x)

section Written

variable {Whole : Int → Prop} {Broken : Float → Prop}

mutual

/-- A document that is written is cut into the tokens of its value, if its numbers are read as they
are. -/
lemma cuts_render (hr : NumbersRead Whole Broken) :
    (j : Json) → j.NumbersIn Whole Broken → Cuts j.render.toList j.toTokens
  | null, _ => show Cuts ['n', 'u', 'l', 'l'] _ from cuts_word rfl (by simp) rfl
  | bool true, _ => show Cuts ['t', 'r', 'u', 'e'] _ from cuts_word rfl (by simp) rfl
  | bool false, _ => show Cuts ['f', 'a', 'l', 's', 'e'] _ from cuts_word rfl (by simp) rfl
  | int n, h => cuts_number (hr.whole n h)
  | double x, h => cuts_number (hr.broken x h)
  | text s, _ => by
    have h := cuts_nil.quoted_append s
    rwa [List.append_nil] at h
  | list items, h => by
    have htext : (list items).render.toList =
        '[' :: [','].intercalate ((renderItems items).map String.toList) ++ [']'] := by
      rw [render]
      simp [String.toList_intercalate]
    rw [htext]
    exact (cuts_intercalate (cuts_renderItems hr items h)).bracket rfl rfl (by decide)
  | object members, h => by
    have htext : (object members).render.toList =
        '\x7b' :: [','].intercalate ((renderMembers members).map String.toList) ++ ['\x7d'] := by
      rw [render]
      simp [String.toList_intercalate]
    rw [htext]
    exact (cuts_intercalate (cuts_renderMembers hr members h)).bracket rfl rfl (by decide)

/-- So are the items of a list. -/
lemma cuts_renderItems (hr : NumbersRead Whole Broken) :
    (items : List Json) → ItemsIn Whole Broken items →
      List.Forall₂ Cuts ((renderItems items).map String.toList) (itemTokens items)
  | [], _ => .nil
  | j :: js, h => .cons (cuts_render hr j h.1) (cuts_renderItems hr js h.2)

/-- So are the members of an object. -/
lemma cuts_renderMembers (hr : NumbersRead Whole Broken) :
    (members : List (String × Json)) → MembersIn Whole Broken members →
      List.Forall₂ Cuts ((renderMembers members).map String.toList) (memberTokens members)
  | [], _ => .nil
  | (key, j) :: ms, h => by
    have htext : (quoted key ++ ":" ++ render j).toList =
        (quoted key).toList ++ ':' :: j.render.toList := by
      simp
    refine .cons ?_ (cuts_renderMembers hr ms h.2)
    rw [htext]
    exact ((cuts_render hr j h.1).cons rfl).quoted_append key

end

end Written

/-! ## Values from tokens -/

section Fold

variable {σ : List Frame} {acc : List Json} {members : List (String × Json)}

lemma exists_toTokens (j : Json) : ∃ t ts, j.toTokens = t :: ts ∧ t ≠ .closeList := by
  cases j <;> exact ⟨_, _, rfl, nofun⟩

/-- Where a first item may be missing, one that is there is read like any other. -/
lemma foldlM_firstItem (j : Json) (js : List Json) (ts : List Token) :
    List.foldlM Progress.step ⟨σ, .firstItem⟩
        ([Token.comma].intercalate (itemTokens (j :: js)) ++ ts) =
      List.foldlM Progress.step ⟨σ, .value⟩
        ([Token.comma].intercalate (itemTokens (j :: js)) ++ ts) := by
  have hstep : ∀ t, t ≠ .closeList →
      Progress.step ⟨σ, .firstItem⟩ t = Progress.step ⟨σ, .value⟩ t := by
    intro t ht
    cases t with
    | closeList => exact absurd rfl ht
    | _ => rfl
  obtain ⟨t, ts', htokens, ht⟩ := exists_toTokens j
  cases js with
  | nil =>
    rw [itemTokens, itemTokens, List.intercalate_singleton, htokens, List.cons_append,
      List.foldlM_cons, List.foldlM_cons, hstep t ht]
  | cons j' js =>
    rw [itemTokens, itemTokens, List.intercalate_cons_cons, htokens, List.append_assoc,
      List.append_assoc, List.cons_append, List.foldlM_cons, List.foldlM_cons, hstep t ht]

lemma foldlM_leaf (j : Json) (h : σ.length ≤ depthLimit) :
    List.foldlM Progress.step ⟨σ, .value⟩ [.leaf j] =
      if σ.length + 0 ≤ depthLimit then some (.close σ j) else none :=
  (if_pos h).symm

/-- An opening bracket is read, unless it nests too deep. -/
lemma foldlM_open {f : Frame} {next : Expectation} {t : Token}
    (hstep : Progress.step ⟨σ, .value⟩ t =
      if σ.length < depthLimit then some ⟨f :: σ, next⟩ else none) (ts : List Token) :
    List.foldlM Progress.step ⟨σ, .value⟩ (t :: ts) =
      if σ.length + 1 ≤ depthLimit then List.foldlM Progress.step ⟨f :: σ, next⟩ ts else none := by
  rw [List.foldlM_cons, hstep]
  by_cases hfits : σ.length < depthLimit
  · rw [if_pos hfits, if_pos (by omega)]
    rfl
  · rw [if_neg hfits, if_neg (by omega)]
    rfl

/-- The first of the values in a list or an object, and then the others. -/
lemma foldlM_append_parts {f : Frame} {j : Json} {d d' : Nat} {p q : Progress}
    {ts ts' : List Token}
    (hfirst : List.foldlM Progress.step p ts =
      if (f :: σ).length + d ≤ depthLimit then some (.close (f :: σ) j) else none)
    (hothers : List.foldlM Progress.step (.close (f :: σ) j) ts' =
      if σ.length + (d' + 1) ≤ depthLimit then some q else none) :
    List.foldlM Progress.step p (ts ++ ts') =
      if σ.length + (max d d' + 1) ≤ depthLimit then some q else none := by
  rw [List.foldlM_append, hfirst, List.length_cons]
  by_cases hfits : σ.length + 1 + d ≤ depthLimit
  · rw [if_pos hfits]
    refine hothers.trans (if_congr ?_ rfl rfl)
    omega
  · rw [if_neg hfits, if_neg (by omega)]
    rfl

/-- A key and its colon. -/
lemma foldlM_key {next : Expectation} (hnext : next = .firstKey ∨ next = .key) (key k : String)
    (ts : List Token) :
    List.foldlM Progress.step ⟨.object members k :: σ, next⟩
        (.leaf (.text key) :: .colon :: ts) =
      List.foldlM Progress.step ⟨.object members key :: σ, .value⟩ ts := by
  rcases hnext with rfl | rfl <;> rfl

mutual

/-- The tokens of a value complete it, unless it nests too deep for where it stands. -/
lemma foldlM_toTokens : (j : Json) → (σ : List Frame) → σ.length ≤ depthLimit →
    List.foldlM Progress.step ⟨σ, .value⟩ j.toTokens =
      if σ.length + j.depth ≤ depthLimit then some (.close σ j) else none
  | null, σ, h | bool b, σ, h | int n, σ, h | double x, σ, h | text s, σ, h => foldlM_leaf _ h
  | list [], σ, h => by
    show List.foldlM Progress.step ⟨σ, .value⟩ (.openList :: [.closeList]) = _
    rw [foldlM_open rfl]
    rfl
  | list (j :: js), σ, h => by
    show List.foldlM Progress.step ⟨σ, .value⟩
      (.openList :: ([Token.comma].intercalate (itemTokens (j :: js)) ++ [.closeList])) = _
    rw [foldlM_open rfl, foldlM_firstItem]
    split
    · rename_i hfits
      exact foldlM_itemTokens (j :: js) [] σ (List.cons_ne_nil j js) hfits
    · rename_i hfits
      rw [if_neg (by rw [depth]; omega)]
  | object [], σ, h => by
    show List.foldlM Progress.step ⟨σ, .value⟩ (.openObject :: [.closeObject]) = _
    rw [foldlM_open rfl]
    rfl
  | object (m :: ms), σ, h => by
    show List.foldlM Progress.step ⟨σ, .value⟩
      (.openObject :: ([Token.comma].intercalate (memberTokens (m :: ms)) ++ [.closeObject])) = _
    rw [foldlM_open rfl]
    split
    · rename_i hfits
      exact foldlM_memberTokens (m :: ms) .firstKey (Or.inl rfl) [] σ (List.cons_ne_nil m ms) hfits
    · rename_i hfits
      rw [if_neg (by rw [depth]; omega)]

/-- The tokens of the items of a list complete it, with its end. -/
lemma foldlM_itemTokens : (items : List Json) → (acc : List Json) → (σ : List Frame) →
    items ≠ [] → σ.length + 1 ≤ depthLimit →
    List.foldlM Progress.step ⟨.list acc :: σ, .value⟩
        ([Token.comma].intercalate (itemTokens items) ++ [.closeList]) =
      if σ.length + (itemsDepth items + 1) ≤ depthLimit then
        some (.close σ (.list (acc.reverse ++ items)))
      else none
  | [], acc, σ, hne, h => absurd rfl hne
  | [j], acc, σ, hne, h => by
    rw [itemTokens, itemTokens, List.intercalate_singleton]
    refine foldlM_append_parts (foldlM_toTokens j (.list acc :: σ) h) ?_
    rw [← List.reverse_cons, itemsDepth, if_pos h]
    rfl
  | j :: j' :: js, acc, σ, hne, h => by
    have hothers := foldlM_itemTokens (j' :: js) (j :: acc) σ (List.cons_ne_nil _ _) h
    rw [List.reverse_cons, List.append_assoc] at hothers
    rw [itemTokens, itemTokens, List.intercalate_cons_cons, List.append_assoc, List.append_assoc]
    exact foldlM_append_parts (foldlM_toTokens j (.list acc :: σ) h) hothers

/-- The tokens of the members of an object complete it, with its end. -/
lemma foldlM_memberTokens : (members : List (String × Json)) → (next : Expectation) →
    (next = .firstKey ∨ next = .key) → (acc : List (String × Json)) → (σ : List Frame) →
    members ≠ [] → σ.length + 1 ≤ depthLimit →
    List.foldlM Progress.step ⟨.object acc "" :: σ, next⟩
        ([Token.comma].intercalate (memberTokens members) ++ [.closeObject]) =
      if σ.length + (membersDepth members + 1) ≤ depthLimit then
        some (.close σ (.object (acc.reverse ++ members)))
      else none
  | [], next, hnext, acc, σ, hne, h => absurd rfl hne
  | [(key, j)], next, hnext, acc, σ, hne, h => by
    rw [memberTokens, memberTokens, List.intercalate_singleton, List.cons_append, List.cons_append,
      foldlM_key hnext]
    refine foldlM_append_parts (foldlM_toTokens j (.object acc key :: σ) h) ?_
    rw [← List.reverse_cons, membersDepth, if_pos h]
    rfl
  | (key, j) :: m :: ms, next, hnext, acc, σ, hne, h => by
    have hothers := foldlM_memberTokens (m :: ms) .key (Or.inr rfl) ((key, j) :: acc) σ
      (List.cons_ne_nil _ _) h
    rw [List.reverse_cons, List.append_assoc] at hothers
    rw [memberTokens, memberTokens, List.intercalate_cons_cons, List.append_assoc,
      List.append_assoc, List.cons_append, List.cons_append, foldlM_key hnext]
    exact foldlM_append_parts (foldlM_toTokens j (.object acc key :: σ) h) hothers

end

end Fold

/-! ## The round trip -/

lemma ofTokens?_toTokens (j : Json) :
    ofTokens? j.toTokens = if j.depth ≤ depthLimit then some j else none := by
  rw [ofTokens?, foldlM_toTokens j [] (Nat.zero_le _), List.length_nil, Nat.zero_add]
  split_ifs with h
  · rfl
  · rfl

/-- A document is read back from its text, if its numbers are, unless lists and objects nest too
deep. -/
theorem parse?_render {Whole : Int → Prop} {Broken : Float → Prop}
    (hr : NumbersRead Whole Broken) {j : Json} (h : j.NumbersIn Whole Broken) :
    parse? j.render = if j.depth ≤ depthLimit then some j else none := by
  have htokens := cuts_render hr j h [] nofun
  rw [List.append_nil] at htokens
  have hend : tokensFrom .between [] = some [] := rfl
  rw [hend, Option.map_some, List.append_nil] at htokens
  rw [parse?, tokens, htokens]
  exact ofTokens?_toTokens j

/-- The text of a number, standing alone, is read as a number or not at all. -/
lemma parse?_of_isNumberText {s : String} (h : IsNumberText s.toList) :
    parse? s = ofNumber? s.toList := by
  obtain ⟨⟨c, cs, hcs, hfirst⟩, hall⟩ := h
  have hstart : Lexeme.between.step c = some (.number [c], []) := fresh_of_number hfirst
  have hstep : ∀ read c, isNumberChar c = true →
      (Lexeme.number read).step c = some (.number (c :: read), []) := fun _ _ h => if_pos h
  have htokens : tokensFrom .between (c :: cs) =
      (ofNumber? (c :: cs)).map fun v => [Token.leaf v] := by
    rw [hcs, List.forall_mem_cons] at hall
    have hread := tokensFrom_reading hstep hall.2 [c] []
    rw [List.append_nil] at hread
    rw [tokensFrom_cons_silent hstart, hread, tokensFrom, Lexeme.finish, List.reverse_append,
      List.reverse_reverse, List.reverse_singleton, List.singleton_append]
  rw [parse?, tokens, hcs, htokens]
  cases ofNumber? (c :: cs) <;> rfl

end Raster.Json
