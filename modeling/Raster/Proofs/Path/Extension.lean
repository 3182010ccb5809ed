import Raster.Proofs.Path.Names
/-!
# Stems and extensions

A name is cut at its last dot, unless that comes first (`splitName_append`,
`splitName_of_not_mem`; `exists_last_dot` says that there is no third case).

`Path.withExtension` forgets the extension that a path had.  What it keeps is the `trunk`: the
components of the folder and the stem of the name.  Two paths that are given the same extension
become the same path exactly if their trunks are equal (`same_withExtension_iff`).
-/

namespace Raster

namespace Path

/-! ## Cutting a name -/

lemma splitName_append {before after : List Char} (hb : before ≠ []) (ha : '.' ∉ after) :
    splitName (before ++ '.' :: after) = (before, some after) := by
  have hrev : (before ++ '.' :: after).reverse = after.reverse ++ '.' :: before.reverse := by
    simp
  have hafter : ((before ++ '.' :: after).reverse.takeWhile (· ≠ '.')).reverse = after := by
    rw [hrev, List.takeWhile_append_of_pos]
    · simp
    · intro c hc
      simpa using ne_of_mem_of_not_mem (List.mem_reverse.1 hc) ha
  have hlength : (before ++ '.' :: after).length - after.length - 1 = before.length := by
    rw [List.length_append, List.length_cons]
    omega
  rw [splitName, hafter, hlength, List.take_left, if_neg]
  rintro (h | h)
  · rw [List.length_append, List.length_cons] at h
    omega
  · exact hb (List.isEmpty_iff.1 h)

lemma splitName_of_not_mem {name : List Char} (h : '.' ∉ name.tail) :
    splitName name = (name, none) := by
  cases name with
  | nil => rfl
  | cons c t =>
    have ht : '.' ∉ t := h
    have hall : ∀ x ∈ t.reverse, (x ≠ '.') := fun x hx =>
      ne_of_mem_of_not_mem (List.mem_reverse.1 hx) ht
    have hafter : ((c :: t).reverse.takeWhile (· ≠ '.')) =
        t.reverse ++ [c].takeWhile (· ≠ '.') := by
      rw [List.reverse_cons, List.takeWhile_append_of_pos]
      simpa using hall
    rw [splitName, hafter]
    by_cases hc : c = '.'
    · rw [if_pos]
      right
      simp [hc]
    · rw [if_pos]
      left
      simp [hc]

/-- A name has no dot behind its first character, or a last one. -/
lemma exists_last_dot (name : List Char) :
    '.' ∉ name.tail ∨
      ∃ before after, before ≠ [] ∧ '.' ∉ after ∧ name = before ++ '.' :: after := by
  cases name with
  | nil => exact Or.inl (by simp)
  | cons c t =>
    by_cases hdot : '.' ∈ t
    · obtain ⟨a, b, ht, ha⟩ := List.eq_append_cons_of_mem (List.mem_reverse.2 hdot)
      refine Or.inr ⟨c :: b.reverse, a.reverse, by simp, by simpa using ha, ?_⟩
      rw [← List.reverse_reverse t, ht]
      simp
    · exact Or.inl hdot

/-- The stem of a name begins it. -/
lemma stem_begins (name : List Char) : (splitName name).1 <+: name := by
  rcases exists_last_dot name with h | ⟨before, after, hb, ha, rfl⟩
  · simp [splitName_of_not_mem h]
  · rw [splitName_append hb ha]
    exact List.prefix_append _ _

lemma splitName_ne_nil {name : List Char} (h : name ≠ []) : (splitName name).1 ≠ [] := by
  rcases exists_last_dot name with hd | ⟨before, after, hb, ha, rfl⟩
  · rw [splitName_of_not_mem hd]
    exact h
  · rw [splitName_append hb ha]
    exact hb

/-! ## Setting an extension -/

/-- A stem with an extension behind it is a name, and not two dots. -/
lemma IsName.stem_append {name e : List Char} (hn : IsName name) (he : e ≠ [])
    (hslash : '/' ∉ e) :
    IsName ((splitName name).1 ++ '.' :: e) ∧ (splitName name).1 ++ '.' :: e ≠ ['.', '.'] := by
  have hstem := List.length_pos_iff.2 (splitName_ne_nil hn.ne_nil)
  have hlength := List.length_pos_iff.2 he
  refine ⟨⟨by simp, ?_, ?_⟩, ?_⟩
  · rw [List.mem_append, List.mem_cons, not_or, not_or]
    exact ⟨fun h => hn.no_slash ((stem_begins name).subset h), by decide, hslash⟩
  · intro h
    have := congrArg List.length h
    simp only [List.length_append, List.length_cons, List.length_nil] at this
    omega
  · intro h
    have := congrArg List.length h
    simp only [List.length_append, List.length_cons, List.length_nil] at this
    omega

lemma setExtension_of_split? {p : Path} {s : Split} (h : p.split? = some s)
    (hdots : s.last ≠ ['.', '.']) {e : List Char} (he : e ≠ []) :
    p.setExtension e = ⟨s.before ++ ((splitName s.last).1 ++ '.' :: e)⟩ := by
  rw [setExtension, h]
  dsimp only
  rw [if_neg hdots, if_neg (by simpa using he), List.append_assoc]

/-! ## Folders with a name -/

lemma fileName?_append {dir name : List Char} (hd : IsFolder dir) (hn : IsName name)
    (hdots : name ≠ ['.', '.']) : fileName? ⟨dir ++ name⟩ = some name := by
  rw [fileName?, split?_append hd hn]
  exact if_neg hdots

/-- A name is still one without what follows its last dot. -/
lemma IsName.shorten {before after : List Char} (hn : IsName (before ++ '.' :: after))
    (hb : before ≠ []) : IsName (before ++ ['.']) := by
  refine ⟨by simp, fun h => hn.no_slash ?_, fun h => hb ?_⟩
  · rcases List.mem_append.1 h with h | h
    · exact List.mem_append_left _ h
    · cases List.mem_singleton.1 h
  · simpa using h

lemma dropExtension_append {dir before after : List Char} (hd : IsFolder dir)
    (hn : IsName (before ++ '.' :: after)) (hdots : before ++ '.' :: after ≠ ['.', '.'])
    (hb : before ≠ []) (ha : '.' ∉ after) :
    dropExtension ⟨dir ++ (before ++ '.' :: after)⟩ = ⟨dir ++ (before ++ ['.'])⟩ := by
  rw [dropExtension, extension?, fileName?_append hd hn hdots, Option.bind_some,
    splitName_append hb ha]
  have hchars : dir ++ (before ++ '.' :: after) = (dir ++ (before ++ ['.'])) ++ after := by
    simp
  have hlength : (dir ++ (before ++ '.' :: after)).length - after.length =
      (dir ++ (before ++ ['.'])).length := by
    simp only [List.length_append, List.length_cons, List.length_nil]
    omega
  refine congrArg Path.mk ?_
  show List.take ((dir ++ (before ++ '.' :: after)).length - after.length) _ = _
  rw [hlength, hchars, List.take_left]

/-! ## Trunks -/

/-- What a path keeps when its extension is replaced: the components of the folder and the stem
of the name, or all components if there is no name. -/
def trunk (p : Path) : List (List Char) × Option (List Char) :=
  match p.dropExtension.split? with
  | some s =>
    if s.last = ['.', '.'] then (p.dropExtension.components, none)
    else (components ⟨s.before⟩, some (splitName s.last).1)
  | none => (p.dropExtension.components, none)

lemma names_body_of_split?_eq_none {p : Path} (h : p.split? = none) :
    names (body p.chars) = [] := by
  rw [← List.reverse_reverse (body p.chars), ← names_reverse_skipFront, ← skipBack_eq_skipFront]
  rw [split?] at h
  split at h
  · rename_i hempty
    rw [List.isEmpty_iff.1 hempty]
    rfl
  · cases h

lemma components_of_split?_eq_none {p : Path} (h : p.split? = none) :
    ∀ c ∈ p.components, c = ['/'] ∨ c = ['.'] := by
  rw [components_eq, names_body_of_split?_eq_none h, List.append_nil]
  unfold lead
  split <;> simp

/-- A path with an extension has the folder and the new name as its components, if there is a
name, and keeps all of them otherwise; then it does not end in a name. -/
lemma components_withExtension (p : Path) {e : List Char} (he : e ≠ []) (hslash : '/' ∉ e) :
    (∃ dir stem, p.trunk = (dir, some stem) ∧
      (p.withExtension e).components = dir ++ [stem ++ '.' :: e] ∧
        IsName (stem ++ '.' :: e) ∧ stem ++ '.' :: e ≠ ['.', '.']) ∨
    (p.trunk = ((p.withExtension e).components, none) ∧
      ∀ dir name, IsName name → name ≠ ['.', '.'] →
        (p.withExtension e).components ≠ dir ++ [name]) := by
  unfold trunk withExtension
  generalize p.dropExtension = d
  cases hd : d.split? with
  | none =>
    right
    have hset : d.setExtension e = d := by rw [setExtension, hd]
    refine ⟨by rw [hset], fun dir name hname hdots h => ?_⟩
    rw [hset] at h
    have hlast : name ∈ d.components := by simp [h]
    rcases components_of_split?_eq_none hd name hlast with rfl | rfl
    · exact hname.no_slash List.mem_cons_self
    · exact hname.ne_dot rfl
  | some s =>
    obtain ⟨hfolder, hlast, hcomponents⟩ := split?_eq_some hd
    by_cases hdots : s.last = ['.', '.']
    · right
      have hset : d.setExtension e = d := by
        rw [setExtension, hd]
        exact if_pos hdots
      refine ⟨by simp only [hdots, if_true, hset], fun dir name hname hne h => ?_⟩
      rw [hset, hcomponents, hdots] at h
      exact hne (List.singleton_inj.1 (List.append_inj' h rfl).2).symm
    · left
      obtain ⟨hname, hne⟩ := hlast.stem_append he hslash
      refine ⟨components ⟨s.before⟩, (splitName s.last).1, if_neg hdots, ?_, hname, hne⟩
      rw [setExtension_of_split? hd hdots he, components_append hfolder hname]

/-- **Two paths become the same path under one extension exactly if their trunks are equal.** -/
lemma same_withExtension_iff (p q : Path) {e : List Char} (he : e ≠ []) (hslash : '/' ∉ e) :
    (p.withExtension e).same (q.withExtension e) = true ↔ p.trunk = q.trunk := by
  rw [same, decide_eq_true_iff]
  rcases components_withExtension p he hslash with
    ⟨dir, stem, hp, hpc, hpn, hpd⟩ | ⟨hp, hpno⟩ <;>
  rcases components_withExtension q he hslash with
    ⟨dir', stem', hq, hqc, hqn, hqd⟩ | ⟨hq, hqno⟩
  · rw [hp, hq, hpc, hqc, Prod.mk.injEq, Option.some.injEq]
    constructor
    · intro h
      obtain ⟨hdir, hname⟩ := List.append_inj' h rfl
      exact ⟨hdir, List.append_cancel_right (List.singleton_inj.1 hname)⟩
    · rintro ⟨rfl, rfl⟩
      rfl
  · rw [hp, hq]
    refine iff_of_false (fun h => ?_) (by simp)
    exact hqno dir _ hpn hpd (h.symm.trans hpc)
  · rw [hp, hq]
    refine iff_of_false (fun h => ?_) (by simp)
    exact hpno dir' _ hqn hqd (h.trans hqc)
  · rw [hp, hq, Prod.mk.injEq]
    exact ⟨fun h => ⟨h, rfl⟩, fun h => h.1⟩

/-- The trunk of a folder with a name, as long as the name is not lost together with its
extension. -/
lemma trunk_append {dir name : List Char} (hd : IsFolder dir) (hn : IsName name)
    (hdots : name ≠ ['.', '.']) (hstem : (splitName name).1 ≠ ['.']) :
    trunk ⟨dir ++ name⟩ = (components ⟨dir⟩, some (splitName name).1) := by
  rcases exists_last_dot name with h | ⟨before, after, hb, ha, rfl⟩
  · -- there is no extension to be dropped
    have hdrop : dropExtension ⟨dir ++ name⟩ = ⟨dir ++ name⟩ := by
      rw [dropExtension, extension?, fileName?_append hd hn hdots, Option.bind_some,
        splitName_of_not_mem h]
      exact congrArg Path.mk List.take_length
    rw [trunk, hdrop, split?_append hd hn]
    exact if_neg hdots
  · -- the extension is dropped, but the dot in front of it stays
    rw [splitName_append hb ha] at hstem ⊢
    have hne : before ++ ['.'] ≠ ['.', '.'] := fun h =>
      hstem (List.append_inj_left' (show before ++ ['.'] = ['.'] ++ ['.'] from h) rfl)
    rw [trunk, dropExtension_append hd hn hdots hb ha, split?_append hd (hn.shorten hb)]
    dsimp only
    rw [if_neg hne, splitName_append hb List.not_mem_nil]

/-! ## Below another path -/

/-- A relative path to a name that is not lost together with its extension. -/
def IsPlain (p : Path) : Prop :=
  ∃ dir name, p = ⟨dir ++ name⟩ ∧ IsFolder dir ∧ lead dir = [] ∧ IsName name ∧
    name ≠ ['.', '.'] ∧ (splitName name).1 ≠ ['.']

/-- Below another path the trunk only gets the components of that path in front. -/
lemma trunk_join (p : Path) {q : Path} (hq : IsPlain q) :
    (p.join q).trunk = (components ⟨p.asFolder⟩ ++ q.trunk.1, q.trunk.2) := by
  obtain ⟨dir, name, rfl, hd, hlead, hn, hdots, hstem⟩ := hq
  have hrelative : isAbsolute ⟨dir ++ name⟩ = false := by
    rw [isAbsolute, decide_eq_false_iff_not]
    intro h
    have hslash : lead (dir ++ name) = ['/'] := by
      obtain ⟨t, ht⟩ := List.head?_eq_some_iff.1 h
      rw [show dir ++ name = '/' :: t from ht]
      rfl
    rw [hd.lead_append hn, hlead] at hslash
    cases hslash
  have hjoin : p.join ⟨dir ++ name⟩ = ⟨(p.asFolder ++ dir) ++ name⟩ := by
    rw [join, hrelative, if_neg (by simp), asFolder]
    split
    · rw [List.append_assoc]
    · rw [List.append_assoc, List.append_assoc]
      rfl
  have hfolder : IsFolder (p.asFolder ++ dir) := by
    rcases hd with rfl | ⟨d, rfl⟩
    · rw [List.append_nil]
      exact isFolder_asFolder p
    · exact Or.inr ⟨p.asFolder ++ d, by rw [List.append_assoc]⟩
  rw [hjoin, trunk_append hfolder hn hdots hstem, trunk_append hd hn hdots hstem,
    components_append_folder (isFolder_asFolder p) hlead]

/-- Below the same path two plain paths have the same trunk exactly if they have by themselves. -/
lemma trunk_join_eq_iff (p : Path) {q q' : Path} (hq : IsPlain q) (hq' : IsPlain q') :
    (p.join q).trunk = (p.join q').trunk ↔ q.trunk = q'.trunk := by
  rw [trunk_join p hq, trunk_join p hq', Prod.mk.injEq, List.append_cancel_left_eq,
    ← Prod.ext_iff]

end Path

end Raster
