import Raster.Proofs.Path.Extension
/-!
# Giving a path the same extension twice

A path that has got an extension is a folder with a name that ends in it, or has no name at all
(`withExtension_cases`).  Getting the extension once more changes it exactly if its stem is a
single dot: then the extension is taken off first, and the two dots that are left are no name
(`withExtension_eq_self_iff`).

Where the stem of a path is more than a dot, it is the stem of what the path becomes
(`stem?_withExtension`).  There the last component can have slashes and single dots behind it,
and some of these are taken off in place of the extension.
-/

namespace Raster

namespace Path

variable {p : Path} {dir name e : List Char}

/-! ## Behind the last component -/

/-- What is skipped at the front ends in a slash, unless everything is. -/
lemma exists_skipped (cs : List Char) :
    skipFront cs = [] ∨ ∃ t, cs = t ++ skipFront cs ∧ IsFolder t := by
  fun_induction skipFront cs with
  | case1 cs ih =>
    rcases ih with hnil | ⟨t, ht, hfolder⟩
    · exact Or.inl hnil
    · refine Or.inr ⟨'/' :: t, congrArg (List.cons '/') ht, Or.inr ?_⟩
      rcases hfolder with rfl | ⟨u, rfl⟩
      · exact ⟨[], rfl⟩
      · exact ⟨'/' :: u, rfl⟩
  | case2 => exact Or.inl rfl
  | case3 cs ih =>
    rcases ih with hnil | ⟨t, ht, hfolder⟩
    · exact Or.inl hnil
    · refine Or.inr ⟨'.' :: '/' :: t, congrArg (fun l => '.' :: '/' :: l) ht, Or.inr ?_⟩
      rcases hfolder with rfl | ⟨u, rfl⟩
      · exact ⟨['.'], rfl⟩
      · exact ⟨'.' :: '/' :: u, rfl⟩
  | case4 cs h₁ h₂ h₃ => exact Or.inr ⟨[], rfl, Or.inl rfl⟩

/-- A path is what is cut before its last component, that component, and nothing more or a
slash. -/
lemma chars_of_split? {s : Split} (h : p.split? = some s) :
    ∃ junk, p.chars = s.before ++ s.last ++ junk ∧ IsTail junk := by
  obtain ⟨cs⟩ := p
  rw [split?, skipBack_eq_skipFront] at h
  rcases exists_skipped (body cs).reverse with hnil | ⟨t, ht, hfolder⟩
  · rw [hnil] at h
    cases h
  · generalize skipFront (body cs).reverse = back at h ht
    dsimp only at h
    split at h
    · cases h
    · obtain rfl := Option.some.inj h
      refine ⟨t.reverse, ?_, hfolder.reverse⟩
      have hback : (back.dropWhile isNameChar).reverse ++ (back.takeWhile isNameChar).reverse =
          back.reverse := by
        rw [← List.reverse_append, List.takeWhile_append_dropWhile]
      have hbody : body cs = back.reverse ++ t.reverse := by
        rw [← List.reverse_append, ← ht, List.reverse_reverse]
      show cs = _
      rw [List.append_assoc (lead cs), hback, List.append_assoc, ← hbody, lead_append_body]

lemma IsClear.append {a : List Char} (h : IsClear a) (hne : a ≠ []) (b : List Char) :
    IsClear (a ++ b) := by
  match a, h, hne with
  | [c], h, _ =>
    refine ⟨?_, ?_, ?_⟩
    · rintro t heq
      exact h.head [] (congrArg (fun c => [c]) (List.cons.inj heq).1)
    · intro heq
      exact h.dot (congrArg (fun c => [c]) (List.cons.inj heq).1)
    · rintro t heq
      exact h.dot (congrArg (fun c => [c]) (List.cons.inj heq).1)
  | c :: d :: a, h, _ =>
    refine ⟨?_, ?_, ?_⟩
    · rintro t heq
      exact h.head (d :: a) (congrArg (· :: d :: a) (List.cons.inj heq).1)
    · intro heq
      cases (List.cons.inj heq).2
    · rintro t heq
      obtain ⟨rfl, htail⟩ := List.cons.inj heq
      exact h.dot_slash a (congrArg (fun d => '.' :: d :: a) (List.cons.inj htail).1)

lemma IsClear.names_ne_nil {cs : List Char} (h : IsClear cs) (hne : cs ≠ []) : names cs ≠ [] := by
  have hname := h.isName_takeWhile hne
  rw [← List.takeWhile_append_dropWhile (p := isNameChar) (l := cs)]
  rcases isTail_dropWhile cs with hd | ⟨t, hd⟩
  · rw [hd, List.append_nil, hname.names_eq]
    exact List.cons_ne_nil _ _
  · rw [hd, names_append, hname.names_eq]
    exact List.cons_ne_nil _ _

/-- Where there are no names there are none in its beginning. -/
lemma names_eq_nil_of_append {a b : List Char} (h : names (a ++ b) = []) : names a = [] := by
  fun_induction skipFront a with
  | case1 a ih =>
    rw [List.cons_append, names_cons_slash] at h
    rw [names_cons_slash]
    exact ih h
  | case2 => rfl
  | case3 a ih =>
    rw [List.cons_append, List.cons_append, names_cons_dot_slash] at h
    rw [names_cons_dot_slash]
    exact ih h
  | case4 a h₁ h₂ h₃ =>
    cases a with
    | nil => rfl
    | cons c a =>
      have hclear : IsClear (c :: a) := ⟨fun t h => h₁ t h, fun h => h₂ h, fun t h => h₃ t h⟩
      exact absurd h ((hclear.append (List.cons_ne_nil c a) b).names_ne_nil (by simp))

/-- A folder with a name and something behind it. -/
lemma components_append_tail {junk : List Char} (hd : IsFolder dir) (hn : IsName name)
    (htail : IsTail junk) :
    components ⟨dir ++ name ++ junk⟩ = components ⟨dir⟩ ++ [name] ++ names junk := by
  have hne : dir ++ name ≠ [] := by simp [hn.ne_nil]
  have hdot : dir ++ name ≠ ['.'] := by
    intro hdot
    rcases List.append_eq_singleton_iff.1 hdot with ⟨-, h⟩ | ⟨-, h⟩
    · exact hn.ne_dot h
    · exact hn.ne_nil h
  have hlead : lead (dir ++ name ++ junk) = lead (dir ++ name) := lead_append hne hdot junk
  have hbody : body (dir ++ name ++ junk) = body (dir ++ name) ++ junk := by
    rw [body, hlead, List.drop_append_of_le_length (lead_begins _).length_le, body]
  have hnames : names (body (dir ++ name) ++ junk) = names (body (dir ++ name)) ++ names junk := by
    rcases htail with rfl | ⟨t, rfl⟩
    · rw [List.append_nil, names_nil, List.append_nil]
    · rw [names_append, names_cons_slash]
  rw [← components_append hd hn, components_eq, components_eq]
  dsimp only
  rw [hlead, hbody, hnames, List.append_assoc]

/-- The last component is where the path is cut. -/
lemma exists_split?_of_components {cs : List (List Char)} (hn : IsName name)
    (h : p.components = cs ++ [name]) : ∃ s, p.split? = some s ∧ s.last = name := by
  cases hs : p.split? with
  | none =>
    have hmem : name ∈ p.components := by simp [h]
    rcases components_of_split?_eq_none hs name hmem with rfl | rfl
    · exact absurd List.mem_cons_self hn.no_slash
    · exact absurd rfl hn.ne_dot
  | some s =>
    refine ⟨s, rfl, ?_⟩
    rw [(split?_eq_some hs).2.2] at h
    exact List.singleton_inj.1 (List.append_inj' h rfl).2

/-! ## What a path becomes -/

/-- A path that has got an extension ends in it, or has no name. -/
lemma withExtension_cases (p : Path) (he : e ≠ []) (hslash : '/' ∉ e) :
    (∃ dir stem, IsFolder dir ∧ IsName (stem ++ '.' :: e) ∧ stem ≠ [] ∧
      p.withExtension e = ⟨dir ++ (stem ++ '.' :: e)⟩) ∨
    (p.withExtension e).fileName? = none := by
  unfold withExtension
  generalize p.dropExtension = d
  cases hd : d.split? with
  | none =>
    right
    rw [setExtension, hd]
    simp [fileName?, hd]
  | some s =>
    obtain ⟨hfolder, hlast, -⟩ := split?_eq_some hd
    by_cases hdots : s.last = ['.', '.']
    · right
      have hset : d.setExtension e = d := by
        rw [setExtension, hd]
        exact if_pos hdots
      rw [hset, fileName?, hd]
      exact if_pos hdots
    · left
      exact ⟨s.before, (splitName s.last).1, hfolder, (hlast.stem_append he hslash).1,
        splitName_ne_nil hlast.ne_nil, setExtension_of_split? hd hdots he⟩

/-- A name that ends in an extension is not two dots. -/
lemma stem_append_ne_dots {stem : List Char} (hs : stem ≠ []) (he : e ≠ []) :
    stem ++ '.' :: e ≠ ['.', '.'] := by
  intro h
  have hlength := congrArg List.length h
  have hstem := List.length_pos_iff.2 hs
  have hpos := List.length_pos_iff.2 he
  simp only [List.length_append, List.length_cons, List.length_nil] at hlength
  omega

section

variable {stem : List Char} (hd : IsFolder dir) (hn : IsName (stem ++ '.' :: e))
  (hs : stem ≠ []) (he : e ≠ [])

include hd hn hs he

lemma stem?_append (hdot : '.' ∉ e) : stem? ⟨dir ++ (stem ++ '.' :: e)⟩ = some stem := by
  rw [stem?, fileName?_append hd hn (stem_append_ne_dots hs he), Option.map_some,
    splitName_append hs hdot]

lemma extension?_append (hdot : '.' ∉ e) :
    extension? ⟨dir ++ (stem ++ '.' :: e)⟩ = some e := by
  rw [extension?, fileName?_append hd hn (stem_append_ne_dots hs he), Option.bind_some,
    splitName_append hs hdot]

/-- A path keeps the extension that it has, unless its stem is a single dot; then two dots are
left, which are no name. -/
lemma withExtension_append (hdot : '.' ∉ e) :
    withExtension ⟨dir ++ (stem ++ '.' :: e)⟩ e =
      if stem = ['.'] then ⟨dir ++ ['.', '.']⟩ else ⟨dir ++ (stem ++ '.' :: e)⟩ := by
  rw [withExtension, dropExtension_append hd hn (stem_append_ne_dots hs he) hs hdot]
  have hsplit := split?_append hd (hn.shorten hs)
  by_cases hstem : stem = ['.']
  · subst hstem
    rw [if_pos rfl, setExtension, hsplit]
    exact if_pos rfl
  · have hdots : stem ++ ['.'] ≠ ['.', '.'] := fun h =>
      hstem (List.append_inj_left' (show stem ++ ['.'] = ['.'] ++ ['.'] from h) rfl)
    rw [setExtension_of_split? hsplit hdots he, if_neg hstem]
    dsimp only
    rw [splitName_append hs List.not_mem_nil]

lemma withExtension_append_iff (hdot : '.' ∉ e) :
    withExtension ⟨dir ++ (stem ++ '.' :: e)⟩ e = ⟨dir ++ (stem ++ '.' :: e)⟩ ↔
      stem ≠ ['.'] := by
  rw [withExtension_append hd hn hs he hdot]
  by_cases hstem : stem = ['.']
  · rw [if_pos hstem, hstem]
    refine iff_of_false (fun h => he ?_) (fun h => h rfl)
    have htail := List.append_cancel_left (Path.mk.inj h)
    exact (List.cons.inj (List.cons.inj htail).2).2.symm
  · rw [if_neg hstem]
    exact iff_of_true rfl hstem

end

/-- Without a name there is nothing that an extension could be put behind. -/
lemma withExtension_of_fileName?_eq_none (h : p.fileName? = none) : p.withExtension e = p := by
  have hdrop : p.dropExtension = p := by
    rw [dropExtension, extension?, h]
    exact congrArg Path.mk List.take_length
  rw [withExtension, hdrop]
  cases hs : p.split? with
  | none => rw [setExtension, hs]
  | some s =>
    rw [fileName?, hs] at h
    by_cases hdots : s.last = ['.', '.']
    · rw [setExtension, hs]
      exact if_pos hdots
    · dsimp only at h
      rw [if_neg hdots] at h
      cases h

/-- **A path that has got an extension keeps it when it gets the same one again, unless its stem
is a single dot.** -/
lemma withExtension_eq_self_iff (p : Path) (he : e ≠ []) (hslash : '/' ∉ e) (hdot : '.' ∉ e) :
    (p.withExtension e).withExtension e = p.withExtension e ↔
      (p.withExtension e).stem? ≠ some ['.'] := by
  rcases withExtension_cases p he hslash with ⟨dir, stem, hd, hn, hs, heq⟩ | hnone
  · rw [heq, withExtension_append_iff hd hn hs he hdot, stem?_append hd hn hs he hdot, Ne, Ne,
      Option.some.injEq]
  · refine iff_of_true (withExtension_of_fileName?_eq_none hnone) ?_
    rw [stem?, hnone]
    exact nofun

/-- Where it does not keep the extension, the path ends in two dots. -/
lemma withExtension_again_cases (p : Path) (he : e ≠ []) (hslash : '/' ∉ e) (hdot : '.' ∉ e) :
    (p.withExtension e).withExtension e = p.withExtension e ∨
      ∃ dir, IsFolder dir ∧ (p.withExtension e).withExtension e = ⟨dir ++ ['.', '.']⟩ := by
  rcases withExtension_cases p he hslash with ⟨dir, stem, hd, hn, hs, heq⟩ | hnone
  · rw [heq, withExtension_append hd hn hs he hdot]
    split
    · exact Or.inr ⟨dir, hd, rfl⟩
    · exact Or.inl rfl
  · exact Or.inl (withExtension_of_fileName?_eq_none hnone)

/-- The extension that a path has got, if it has a name. -/
lemma extension?_withExtension (p : Path) (he : e ≠ []) (hslash : '/' ∉ e) (hdot : '.' ∉ e) :
    (p.withExtension e).extension? = if (p.withExtension e).fileName? = none then none else some e
    := by
  rcases withExtension_cases p he hslash with ⟨dir, stem, hd, hn, hs, heq⟩ | hnone
  · have hname : fileName? ⟨dir ++ (stem ++ '.' :: e)⟩ ≠ none := by
      rw [fileName?_append hd hn (stem_append_ne_dots hs he)]
      exact nofun
    rw [heq, if_neg hname]
    exact extension?_append hd hn hs he hdot
  · rw [if_pos hnone, extension?, hnone]
    rfl

lemma IsTail.take {junk : List Char} (h : IsTail junk) (n : Nat) : IsTail (junk.take n) := by
  rcases h with rfl | ⟨t, rfl⟩
  · exact Or.inl List.take_nil
  · cases n with
    | zero => exact Or.inl rfl
    | succ n => exact Or.inr ⟨t.take n, rfl⟩

/-- What is taken off comes from behind the last component first, and only the rest from the
extension. -/
lemma dropExtension_of_chars {before after junk : List Char}
    (hchars : p.chars = dir ++ (before ++ '.' :: after) ++ junk)
    (hext : p.extension? = some after) :
    p.dropExtension = ⟨dir ++ (before ++ '.' :: after.take junk.length) ++
      junk.take (junk.length - after.length)⟩ := by
  have hregroup : dir ++ (before ++ '.' :: after) ++ junk =
      dir ++ (before ++ ['.']) ++ (after ++ junk) := by simp
  have hlength : p.chars.length - after.length =
      (dir ++ (before ++ ['.'])).length + junk.length := by
    rw [hchars, hregroup]
    simp only [List.length_append]
    omega
  rw [dropExtension, hext, Option.getD_some, hlength, hchars, hregroup,
    List.take_length_add_append, List.take_append]
  simp

/-- A name stays one if something is taken off behind its last dot; it is not two dots then if
there is more than a dot before. -/
lemma IsName.take {before after : List Char} (hn : IsName (before ++ '.' :: after))
    (hb : before ≠ []) (hdot : before ≠ ['.']) (n : Nat) :
    IsName (before ++ '.' :: after.take n) ∧ before ++ '.' :: after.take n ≠ ['.', '.'] := by
  have hbegin : before ++ '.' :: after.take n <+: before ++ '.' :: after :=
    (List.prefix_append_right_inj before).2
      (List.cons_prefix_cons.2 ⟨rfl, List.take_prefix n after⟩)
  obtain ⟨c, rest, rfl⟩ := List.exists_cons_of_ne_nil hb
  refine ⟨⟨by simp, fun hmem => hn.no_slash (hbegin.subset hmem), by simp⟩, fun h => hdot ?_⟩
  rw [List.cons_append, List.cons.injEq] at h
  rcases List.append_eq_singleton_iff.1 h.2 with ⟨hrest, -⟩ | ⟨-, hnil⟩
  · rw [h.1, hrest]
  · cases hnil

/-- What is left when the extension is taken off ends in a name with the same stem, if that is
more than a dot. -/
lemma exists_split?_dropExtension {stem : List Char} (h : p.stem? = some stem)
    (hstem : stem ≠ ['.']) :
    ∃ s, p.dropExtension.split? = some s ∧ s.last ≠ ['.', '.'] ∧
      (splitName s.last).1 = stem := by
  cases hs : p.split? with
  | none =>
    rw [stem?, fileName?, hs] at h
    cases h
  | some s =>
    have hdots : s.last ≠ ['.', '.'] := by
      intro hdots
      rw [stem?, fileName?, hs] at h
      dsimp only at h
      rw [if_pos hdots] at h
      cases h
    have hfile : p.fileName? = some s.last := by
      rw [fileName?, hs]
      exact if_neg hdots
    rw [stem?, hfile, Option.map_some, Option.some.injEq] at h
    rcases exists_last_dot s.last with hlast | ⟨before, after, hb, ha, hlast⟩
    · -- there is no extension
      have hdrop : p.dropExtension = p := by
        rw [dropExtension, extension?, hfile, Option.bind_some, splitName_of_not_mem hlast]
        exact congrArg Path.mk List.take_length
      exact ⟨s, by rw [hdrop, hs], hdots, h⟩
    · obtain ⟨hfolder, hname, hcomponents⟩ := split?_eq_some hs
      obtain ⟨junk, hchars, htail⟩ := chars_of_split? hs
      have hjunk : names junk = [] := by
        have hp : p = ⟨s.before ++ s.last ++ junk⟩ := congrArg Path.mk hchars
        rw [hp, components_append_tail hfolder hname htail] at hcomponents
        exact List.append_right_eq_self.1 hcomponents
      have hext : p.extension? = some after := by
        rw [extension?, hfile, Option.bind_some, hlast, splitName_append hb ha]
      rw [hlast, splitName_append hb ha] at h
      rw [hlast] at hchars hname
      subst h
      obtain ⟨hnew, hnewdots⟩ := hname.take hb hstem junk.length
      have hkept : names (junk.take (junk.length - after.length)) = [] := by
        refine names_eq_nil_of_append (b := junk.drop (junk.length - after.length)) ?_
        rw [List.take_append_drop]
        exact hjunk
      have hleft : p.dropExtension.components =
          components ⟨s.before⟩ ++ [before ++ '.' :: after.take junk.length] := by
        rw [dropExtension_of_chars hchars hext,
          components_append_tail hfolder hnew (htail.take _), hkept, List.append_nil]
      obtain ⟨s', hs', hlast'⟩ := exists_split?_of_components hnew hleft
      refine ⟨s', hs', by rw [hlast']; exact hnewdots, ?_⟩
      rw [hlast', splitName_append hb fun hmem => ha (List.mem_of_mem_take hmem)]

/-- A stem of more than a dot stays the stem. -/
lemma stem?_withExtension {stem : List Char} (h : p.stem? = some stem) (hstem : stem ≠ ['.'])
    (he : e ≠ []) (hslash : '/' ∉ e) (hdot : '.' ∉ e) :
    (p.withExtension e).stem? = some stem := by
  obtain ⟨s, hs, hdots, rfl⟩ := exists_split?_dropExtension h hstem
  obtain ⟨hfolder, hname, -⟩ := split?_eq_some hs
  rw [withExtension, setExtension_of_split? hs hdots he]
  exact stem?_append hfolder (hname.stem_append he hslash).1 (splitName_ne_nil hname.ne_nil) he
    hdot

end Path

end Raster
