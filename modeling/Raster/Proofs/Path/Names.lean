import Mathlib.Data.List.TakeWhile
import Mathlib.Tactic.Common
import Raster.Path
import Raster.Proofs.Text.Parts
/-!
# The names in a path

The functions on paths walk over the characters from one end or the other, and skip slashes and
single dots as they meet them.  `names` says what they find: the parts between the slashes
without the empty ones and the single dots (`bodyComponents_eq`, `names_reverse_skipFront`).

A path is written as a folder, which is nothing or ends in a slash, and a name behind it.  Such
a path is cut where the name begins (`split?_append`), its components are those of the folder
and the name (`components_append`), and every path that is cut has this form
(`split?_eq_some`).
-/

namespace Raster

namespace Path

/-! ## Names -/

/-- The names between the slashes: neither empty nor a single dot. -/
def names (cs : List Char) : List (List Char) :=
  (Text.splitChars '/' cs).filter fun w => !w.isEmpty && w != ['.']

@[simp] lemma names_nil : names [] = [] := rfl

@[simp] lemma names_dot : names ['.'] = [] := rfl

lemma names_append (a b : List Char) : names (a ++ '/' :: b) = names a ++ names b := by
  rw [names, Text.splitChars_append, List.filter_append]
  rfl

@[simp] lemma names_cons_slash (cs : List Char) : names ('/' :: cs) = names cs :=
  names_append [] cs

@[simp] lemma names_cons_dot_slash (cs : List Char) : names ('.' :: '/' :: cs) = names cs :=
  names_append ['.'] cs

/-- What a component can be: it has characters, none of them a slash, and is no single dot. -/
structure IsName (name : List Char) : Prop where
  ne_nil : name ≠ []
  no_slash : '/' ∉ name
  ne_dot : name ≠ ['.']

lemma IsName.names_eq {name : List Char} (h : IsName name) : names name = [name] := by
  rw [names, Text.splitChars_of_not_mem h.no_slash, List.filter_cons_of_pos]
  · rfl
  · simp [h.ne_nil, h.ne_dot]

/-- Where a name can stand: at the beginning, or behind a slash. -/
def IsFolder (dir : List Char) : Prop := dir = [] ∨ ∃ d, dir = d ++ ['/']

lemma IsFolder.names_append {dir : List Char} (hd : IsFolder dir) (cs : List Char) :
    names (dir ++ cs) = names dir ++ names cs := by
  rcases hd with rfl | ⟨d, rfl⟩
  · simp
  · rw [List.append_assoc, List.singleton_append, Path.names_append, Path.names_append, names_nil,
      List.append_nil]

/-! ## Skipping -/

/-- A list at whose front nothing is skipped. -/
structure IsClear (cs : List Char) : Prop where
  head : ∀ t, cs ≠ '/' :: t
  dot : cs ≠ ['.']
  dot_slash : ∀ t, cs ≠ '.' :: '/' :: t

lemma skipFront_of_isClear {cs : List Char} (h : IsClear cs) : skipFront cs = cs := by
  unfold skipFront
  split
  · exact absurd rfl (h.head _)
  · exact absurd rfl h.dot
  · exact absurd rfl (h.dot_slash _)
  · rfl

lemma isClear_skipFront (cs : List Char) : IsClear (skipFront cs) := by
  fun_induction skipFront cs with
  | case1 cs ih => exact ih
  | case2 => exact ⟨nofun, nofun, nofun⟩
  | case3 cs ih => exact ih
  | case4 cs h₁ h₂ h₃ => exact ⟨fun t h => h₁ t h, fun h => h₂ h, fun t h => h₃ t h⟩

lemma skipFront_suffix (cs : List Char) : skipFront cs <:+ cs := by
  fun_induction skipFront cs with
  | case1 cs ih => exact ih.trans (List.suffix_cons _ _)
  | case2 => exact List.nil_suffix
  | case3 cs ih => exact ih.trans ⟨['.', '/'], rfl⟩
  | case4 cs => exact List.suffix_rfl

/-- The same is skipped from either end. -/
lemma skipBack_eq_skipFront (cs : List Char) : skipBack cs = skipFront cs := by
  fun_induction skipFront cs with
  | case1 cs ih => exact ih
  | case2 => rfl
  | case3 cs ih => exact ih
  | case4 cs h₁ h₂ h₃ =>
    unfold skipBack
    split
    · exact absurd rfl (h₁ _)
    · exact absurd rfl h₂
    · exact absurd rfl (h₃ _)
    · rfl

/-- What is skipped at the front has no names. -/
@[simp] lemma names_skipFront (cs : List Char) : names (skipFront cs) = names cs := by
  fun_induction skipFront cs with
  | case1 cs ih => rw [ih, names_cons_slash]
  | case2 => rfl
  | case3 cs ih => rw [ih, names_cons_dot_slash]
  | case4 cs => rfl

/-- What is skipped at the end has no names. -/
lemma names_reverse_skipFront (cs : List Char) :
    names (skipFront cs).reverse = names cs.reverse := by
  fun_induction skipFront cs with
  | case1 cs ih => rw [ih, List.reverse_cons, names_append, names_nil, List.append_nil]
  | case2 => rfl
  | case3 cs ih =>
    rw [ih, List.reverse_cons, List.reverse_cons, List.append_assoc, List.singleton_append,
      names_append, names_dot, List.append_nil]
  | case4 cs => rfl

/-! ## Cutting off a name -/

lemma IsName.reverse {name : List Char} (h : IsName name) : IsName name.reverse := by
  refine ⟨by simpa using h.ne_nil, by simpa using h.no_slash, fun hdot => h.ne_dot ?_⟩
  rw [← List.reverse_reverse name, hdot]
  rfl

lemma IsName.isClear_append {name : List Char} (h : IsName name) (rest : List Char) :
    IsClear (name ++ rest) := by
  obtain ⟨c, cs, rfl⟩ := List.exists_cons_of_ne_nil h.ne_nil
  refine ⟨?_, ?_, ?_⟩
  · rintro t heq
    obtain ⟨rfl, -⟩ := List.cons.inj heq
    exact h.no_slash List.mem_cons_self
  · intro heq
    obtain ⟨rfl, hnil⟩ := List.cons.inj heq
    exact h.ne_dot (by rw [(List.append_eq_nil_iff.1 hnil).1])
  · rintro t heq
    obtain ⟨rfl, htail⟩ := List.cons.inj heq
    cases cs with
    | nil => exact h.ne_dot rfl
    | cons c cs =>
      obtain ⟨rfl, -⟩ := List.cons.inj htail
      exact h.no_slash (by simp)

/-- What begins with no name: nothing, or something that begins with a slash. -/
def IsTail (cs : List Char) : Prop := cs = [] ∨ ∃ t, cs = '/' :: t

lemma IsFolder.reverse {dir : List Char} (h : IsFolder dir) : IsTail dir.reverse := by
  rcases h with rfl | ⟨d, rfl⟩
  · exact Or.inl rfl
  · exact Or.inr ⟨d.reverse, by simp⟩

lemma IsTail.reverse {cs : List Char} (h : IsTail cs) : IsFolder cs.reverse := by
  rcases h with rfl | ⟨t, rfl⟩
  · exact Or.inl rfl
  · exact Or.inr ⟨t.reverse, by simp⟩

lemma isTail_dropWhile (cs : List Char) : IsTail (cs.dropWhile isNameChar) := by
  cases hd : cs.dropWhile isNameChar with
  | nil => exact Or.inl rfl
  | cons c t =>
    have hc := List.head?_dropWhile_not isNameChar cs
    rw [hd] at hc
    have hslash : c = '/' := by simpa [isNameChar] using hc
    exact Or.inr ⟨t, by rw [hslash]⟩

lemma takeWhile_append_tail {w rest : List Char} (hw : '/' ∉ w) (hrest : IsTail rest) :
    (w ++ rest).takeWhile isNameChar = w := by
  rw [List.takeWhile_append_of_pos]
  · rcases hrest with rfl | ⟨t, rfl⟩
    · simp
    · simp [isNameChar]
  · intro c hc
    simpa [isNameChar] using ne_of_mem_of_not_mem hc hw

lemma dropWhile_append_tail {w rest : List Char} (hw : '/' ∉ w) (hrest : IsTail rest) :
    (w ++ rest).dropWhile isNameChar = rest := by
  rw [List.dropWhile_append_of_pos]
  · rcases hrest with rfl | ⟨t, rfl⟩
    · simp
    · simp [isNameChar]
  · intro c hc
    simpa [isNameChar] using ne_of_mem_of_not_mem hc hw

/-- Where nothing is skipped, a name begins. -/
lemma IsClear.isName_takeWhile {cs : List Char} (h : IsClear cs) (hne : cs ≠ []) :
    IsName (cs.takeWhile isNameChar) := by
  have hsplit := List.takeWhile_append_dropWhile (p := isNameChar) (l := cs)
  refine ⟨?_, ?_, ?_⟩
  · intro hnil
    rw [hnil, List.nil_append] at hsplit
    rcases isTail_dropWhile cs with hd | ⟨t, hd⟩
    · exact hne (hsplit.symm.trans hd)
    · exact h.head t (hsplit.symm.trans hd)
  · intro hmem
    have := List.mem_takeWhile_imp hmem
    simp [isNameChar] at this
  · intro hdot
    rw [hdot] at hsplit
    rcases isTail_dropWhile cs with hd | ⟨t, hd⟩
    · exact h.dot (by rw [← hsplit, hd]; rfl)
    · exact h.dot_slash t (by rw [← hsplit, hd]; rfl)

/-- The walk from the front finds the names, as long as its fuel lasts. -/
lemma bodyComponents_eq {fuel : Nat} {cs : List Char} (h : cs.length ≤ fuel) :
    bodyComponents fuel cs = names cs := by
  induction fuel generalizing cs with
  | zero =>
    rw [List.eq_nil_of_length_eq_zero (Nat.le_zero.1 h)]
    rfl
  | succ fuel ih =>
    rw [← names_skipFront, bodyComponents]
    have hclear := isClear_skipFront cs
    have hlength := (skipFront_suffix cs).length_le
    generalize skipFront cs = rest at hclear hlength
    cases rest with
    | nil => rfl
    | cons c rest =>
      -- one name is taken, so what is left is shorter and the fuel suffices for it
      have hname := hclear.isName_takeWhile (List.cons_ne_nil c rest)
      have hsplit := List.takeWhile_append_dropWhile (p := isNameChar) (l := c :: rest)
      have hpos := List.length_pos_iff.2 hname.ne_nil
      have hsum := congrArg List.length hsplit
      rw [List.length_append] at hsum
      dsimp only
      rw [ih (by omega)]
      conv_rhs => rw [← hsplit]
      rcases isTail_dropWhile (c :: rest) with hd | ⟨t, hd⟩
      · rw [hd, List.append_nil, hname.names_eq]
        rfl
      · rw [hd, names_append, hname.names_eq, names_cons_slash]
        rfl

/-! ## The beginning -/

lemma lead_cons_cons (c d : Char) (cs : List Char) :
    lead (c :: d :: cs) = if c = '/' then ['/'] else if c = '.' ∧ d = '/' then ['.'] else [] := by
  unfold lead
  split
  · rename_i h
    rw [if_pos (List.cons.inj h).1]
  · rename_i h
    cases h
  · rename_i h
    cases h
    rfl
  · rename_i hslash _ hdot
    rw [if_neg fun h => hslash _ (by rw [h]), if_neg]
    rintro ⟨rfl, rfl⟩
    exact hdot _ rfl

/-- The beginning of a path can be told from any part of it that is more than a dot. -/
lemma lead_append {a : List Char} (hne : a ≠ []) (hdot : a ≠ ['.']) (b : List Char) :
    lead (a ++ b) = lead a := by
  match a, hne, hdot with
  | c :: d :: a, _, _ =>
    rw [List.cons_append, List.cons_append, lead_cons_cons, lead_cons_cons]
  | [c], _, hdot =>
    by_cases hslash : c = '/'
    · subst hslash
      rfl
    · have hc : c ≠ '.' := by
        rintro rfl
        exact hdot rfl
      simp [lead, hslash, hc]

lemma IsName.lead_eq_nil {name : List Char} (h : IsName name) : lead name = [] := by
  match name, h with
  | [], h => exact absurd rfl h.ne_nil
  | [c], h =>
    have hslash : c ≠ '/' := by
      rintro rfl
      exact h.no_slash List.mem_cons_self
    have hdot : c ≠ '.' := by
      rintro rfl
      exact h.ne_dot rfl
    simp [lead, hslash, hdot]
  | c :: d :: name, h =>
    have hno := h.no_slash
    simp only [List.mem_cons, not_or] at hno
    rw [lead_cons_cons, if_neg (Ne.symm hno.1), if_neg fun hd => hno.2.1 hd.2.symm]

lemma IsFolder.lead_append {dir name : List Char} (hd : IsFolder dir) (hn : IsName name) :
    lead (dir ++ name) = lead dir := by
  rcases hd with rfl | ⟨d, rfl⟩
  · exact hn.lead_eq_nil
  · refine Path.lead_append (by simp) ?_ name
    intro hdot
    have hlast := congrArg List.getLast? hdot
    simp at hlast

lemma lead_begins (cs : List Char) : lead cs <+: cs := by
  unfold lead
  split
  · exact ⟨_, rfl⟩
  · exact List.prefix_rfl
  · exact ⟨_, rfl⟩
  · exact List.nil_prefix

lemma lead_append_body (cs : List Char) : lead cs ++ body cs = cs :=
  List.prefix_iff_eq_append.1 (lead_begins cs)

lemma IsFolder.body_append {dir name : List Char} (hd : IsFolder dir) (hn : IsName name) :
    body (dir ++ name) = body dir ++ name := by
  rw [body, hd.lead_append hn, List.drop_append_of_le_length (lead_begins dir).length_le, body]

lemma IsFolder.of_suffix {dir cs : List Char} (hd : IsFolder dir) (h : cs <:+ dir) :
    IsFolder cs := by
  obtain ⟨a, rfl⟩ := h
  rcases List.eq_nil_or_concat cs with rfl | ⟨t, c, rfl⟩
  · exact Or.inl rfl
  · rcases hd with hd | ⟨d, hd⟩
    · simp at hd
    · have hlast : (a ++ t) ++ [c] = d ++ ['/'] := by simpa using hd
      obtain ⟨-, hc⟩ := List.append_inj' hlast rfl
      exact Or.inr ⟨t, by rw [← hc, List.concat_eq_append]⟩

lemma IsFolder.body {dir : List Char} (hd : IsFolder dir) : IsFolder (body dir) :=
  hd.of_suffix (List.drop_suffix _ _)

/-! ## Folders with a name -/

lemma components_eq (p : Path) :
    p.components = (if (lead p.chars).isEmpty then [] else [lead p.chars]) ++
      names (body p.chars) := by
  have hbody : (body p.chars).length ≤ p.chars.length := by simp [body]
  rw [components, bodyComponents_eq hbody]
  split <;> rfl

/-- A name is one more component. -/
lemma components_append {dir name : List Char} (hd : IsFolder dir) (hn : IsName name) :
    components ⟨dir ++ name⟩ = components ⟨dir⟩ ++ [name] := by
  rw [components_eq, components_eq, hd.lead_append hn, hd.body_append hn, hd.body.names_append,
    hn.names_eq, List.append_assoc]

/-- Two folders, the second a relative one, have the components of both. -/
lemma components_append_folder {dir dir' : List Char} (hd : IsFolder dir)
    (hlead : lead dir' = []) :
    components ⟨dir ++ dir'⟩ = components ⟨dir⟩ ++ components ⟨dir'⟩ := by
  have hrelative : components ⟨dir'⟩ = names dir' := by
    rw [components_eq, body, hlead]
    rfl
  rw [hrelative]
  rcases hd with rfl | ⟨d, rfl⟩
  · exact hrelative
  · have hl : lead (d ++ ['/'] ++ dir') = lead (d ++ ['/']) := by
      refine Path.lead_append (by simp) (fun hdot => ?_) dir'
      have hlast := congrArg List.getLast? hdot
      simp at hlast
    have hb : body (d ++ ['/'] ++ dir') = body (d ++ ['/']) ++ dir' := by
      rw [body, hl, List.drop_append_of_le_length (lead_begins _).length_le, body]
    have hfolder : IsFolder (body (d ++ ['/'])) := IsFolder.body (Or.inr ⟨d, rfl⟩)
    rw [components_eq, components_eq, hl, hb, hfolder.names_append, List.append_assoc]

/-- A folder with a name is cut before the name. -/
lemma split?_append {dir name : List Char} (hd : IsFolder dir) (hn : IsName name) :
    split? ⟨dir ++ name⟩ = some ⟨dir, name⟩ := by
  have hback : skipBack (Path.body (dir ++ name)).reverse
      = name.reverse ++ (Path.body dir).reverse := by
    rw [hd.body_append hn, List.reverse_append, skipBack_eq_skipFront,
      skipFront_of_isClear (hn.reverse.isClear_append _)]
  have hne : (name.reverse ++ (Path.body dir).reverse).isEmpty = false := by
    simp [hn.ne_nil]
  rw [split?]
  dsimp only
  rw [hback, hne, dropWhile_append_tail hn.reverse.no_slash hd.body.reverse,
    takeWhile_append_tail hn.reverse.no_slash hd.body.reverse, hd.lead_append hn,
    List.reverse_reverse, List.reverse_reverse, lead_append_body]
  rfl

/-- A path as a folder for a name. -/
def asFolder (p : Path) : List Char :=
  if p.chars.isEmpty ∨ p.chars.getLast? = some '/' then p.chars else p.chars ++ ['/']

lemma isFolder_asFolder (p : Path) : IsFolder p.asFolder := by
  unfold asFolder
  split
  · rename_i h
    rcases h with h | h
    · exact Or.inl (List.isEmpty_iff.1 h)
    · obtain ⟨d, hd⟩ := List.getLast?_eq_some_iff.1 h
      exact Or.inr ⟨d, hd⟩
  · exact Or.inr ⟨p.chars, rfl⟩

/-- A name is joined to a path behind its folder. -/
lemma join_name (p : Path) {name : List Char} (hn : IsName name) :
    p.join ⟨name⟩ = ⟨p.asFolder ++ name⟩ := by
  have habsolute : isAbsolute ⟨name⟩ = false := by
    rw [isAbsolute, decide_eq_false_iff_not]
    intro h
    exact hn.no_slash (List.mem_of_head? h)
  rw [join, habsolute, if_neg (by simp), asFolder]
  split
  · rfl
  · rw [List.append_assoc]
    rfl

/-- Behind a dot that is a component there is nothing, or a slash. -/
lemma isTail_body {cs : List Char} (h : lead cs = ['.']) : IsTail (body cs) := by
  match cs, h with
  | [c], h => exact Or.inl (by rw [body, h]; rfl)
  | c :: d :: cs, h =>
    rw [lead_cons_cons] at h
    split at h
    · cases h
    · split at h
      · rename_i hc
        obtain ⟨rfl, rfl⟩ := hc
        exact Or.inr ⟨cs, rfl⟩
      · cases h

/-- The beginning of a path is no name. -/
lemma names_body (cs : List Char) : names (body cs) = names cs := by
  have hcs := lead_append_body cs
  generalize hb : body cs = rest at hcs ⊢
  have hlead : lead cs = ['/'] ∨ lead cs = ['.'] ∨ lead cs = [] := by
    unfold lead
    split <;> simp
  rcases hlead with h | h | h
  · rw [← hcs, h]
    exact (names_cons_slash rest).symm
  · have htail := isTail_body h
    rw [hb] at htail
    rw [← hcs, h]
    rcases htail with rfl | ⟨t, rfl⟩
    · rfl
    · rw [names_cons_slash]
      exact (names_cons_dot_slash t).symm
  · rw [← hcs, h]
    rfl

lemma isFolder_lead_append {cs dir : List Char} (hd : IsFolder dir)
    (hdot : lead cs = ['.'] → dir ≠ []) : IsFolder (lead cs ++ dir) := by
  rcases hd with rfl | ⟨d, rfl⟩
  · rw [List.append_nil]
    unfold lead at hdot ⊢
    split at hdot
    · exact Or.inr ⟨[], rfl⟩
    · exact absurd rfl (hdot rfl)
    · exact absurd rfl (hdot rfl)
    · exact Or.inl rfl
  · exact Or.inr ⟨lead cs ++ d, by rw [List.append_assoc]⟩

/-- Where a path is cut, it is a folder with a name and what is skipped at its end; that does
not count among its components. -/
lemma split?_eq_some {p : Path} {s : Split} (h : p.split? = some s) :
    IsFolder s.before ∧ IsName s.last ∧ components p = components ⟨s.before⟩ ++ [s.last] := by
  obtain ⟨cs⟩ := p
  rw [split?, skipBack_eq_skipFront] at h
  dsimp only at h
  have hclear := isClear_skipFront (body cs).reverse
  have hnames := names_reverse_skipFront (body cs).reverse
  have hsuffix := skipFront_suffix (body cs).reverse
  rw [List.reverse_reverse] at hnames
  generalize skipFront (body cs).reverse = back at h hclear hnames hsuffix
  split at h
  · cases h
  · rename_i hempty
    obtain rfl := Option.some.inj h
    have hne : back ≠ [] := by simpa using hempty
    have hname := (hclear.isName_takeWhile hne).reverse
    have hdir := (isTail_dropWhile back).reverse
    have hback : (back.dropWhile isNameChar).reverse ++ (back.takeWhile isNameChar).reverse
        = back.reverse := by
      rw [← List.reverse_append, List.takeWhile_append_dropWhile]
    generalize (back.takeWhile isNameChar).reverse = name at hname hback ⊢
    generalize (back.dropWhile isNameChar).reverse = dir at hdir hback ⊢
    obtain ⟨junk, hjunk⟩ : ∃ junk, dir ++ name ++ junk = body cs := by
      obtain ⟨t, ht⟩ := hsuffix
      exact ⟨t.reverse, by rw [hback, ← List.reverse_append, ht, List.reverse_reverse]⟩
    have hfolder : IsFolder (lead cs ++ dir) := by
      refine isFolder_lead_append hdir fun hdot hnil => ?_
      -- then the name would begin with the slash behind the dot
      subst hnil
      rcases isTail_body hdot with hbody | ⟨t, hbody⟩
      · rw [hbody] at hjunk
        exact hname.ne_nil (List.append_eq_nil_iff.1 (List.append_eq_nil_iff.1 hjunk).1).2
      · obtain ⟨c, rest, rfl⟩ := List.exists_cons_of_ne_nil hname.ne_nil
        rw [hbody] at hjunk
        obtain ⟨rfl, -⟩ := List.cons.inj hjunk
        exact hname.no_slash List.mem_cons_self
    have hlead : lead (lead cs ++ dir) = lead cs := by
      have hcs : (lead cs ++ dir ++ name) ++ junk = cs := by
        rw [List.append_assoc, List.append_assoc, ← List.append_assoc dir, hjunk,
          lead_append_body]
      rw [← hfolder.lead_append hname, ← Path.lead_append (b := junk), hcs]
      · simp [hname.ne_nil]
      · intro hdot
        rcases List.append_eq_singleton_iff.1 hdot with ⟨-, h⟩ | ⟨-, h⟩
        · exact hname.ne_dot h
        · exact hname.ne_nil h
    have hbody : body (lead cs ++ dir) = dir := by
      rw [body, hlead, List.drop_left]
    refine ⟨hfolder, hname, ?_⟩
    rw [components_eq, components_eq]
    dsimp only
    rw [hlead, hbody, ← hnames, ← hback, hdir.names_append, hname.names_eq, List.append_assoc]

end Path

end Raster
