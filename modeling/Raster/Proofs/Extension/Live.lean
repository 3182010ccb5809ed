import Mathlib.Data.List.Induction
import Raster.Proofs.Extension.Edits
/-!
# Live suffixes

Which suffixes a format has after some edits can be said without the tables: a suffix is live if an
edit has added it and no later one has dropped it (`IsLive`).  What is live after one more edit is
what that edit adds, and what was live and is not dropped (`isLive_concat`); and the tables change
in the same way (`Matcher.lists_edit_iff`).  So after any run of edits, the tables hold the live
suffixes and nothing else (`Matcher.lists_run_iff`).
-/

namespace Raster

variable [PatternEngine] {format : String} {suffix : SuffixConfig}

/-! ## What edits are meant to do -/

namespace SuffixConfig

/-- A suffix is accepted as it is, a pattern if the engine can read it. -/
def isAccepted (suffix : SuffixConfig) : Bool :=
  !suffix.isPattern || (PatternEngine.compile? (anchored suffix.text)).isSome

/-- Whether an extension matches: it equals a suffix, or the engine finds a pattern in it. -/
def isMatch (suffix : SuffixConfig) (ext : List Char) : Bool :=
  if suffix.isPattern then
    (PatternEngine.compile? (anchored suffix.text)).any fun isMatch => isMatch ext
  else suffixMatches suffix.text ext

end SuffixConfig

/-- An edit registers a suffix for a format.  Of a list, these are the suffixes before the first one
that is refused. -/
inductive MatcherEdit.Adds (format : String) (suffix : SuffixConfig) : MatcherEdit → Prop
  | register (h : suffix.isAccepted = true) : Adds format suffix (.register format suffix)
  | load {output : String} {suffixes : List SuffixConfig}
      (h : suffix ∈ suffixes.takeWhile SuffixConfig.isAccepted) :
      Adds format suffix (.load format output suffixes)

/-- An edit takes a suffix from a format. -/
inductive MatcherEdit.Drops (format : String) (suffix : SuffixConfig) : MatcherEdit → Prop
  | remove : Drops format suffix (.remove format suffix)
  | removeFormat : Drops format suffix (.removeFormat format)

namespace MatcherEdit

lemma adds_register_iff {format' : String} {suffix' : SuffixConfig} :
    (register format' suffix').Adds format suffix ↔
      format' = format ∧ suffix' = suffix ∧ suffix.isAccepted = true := by
  constructor
  · rintro ⟨haccepted⟩
    exact ⟨rfl, rfl, haccepted⟩
  · rintro ⟨rfl, rfl, haccepted⟩
    exact .register haccepted

lemma adds_load_iff {format' output : String} {suffixes : List SuffixConfig} :
    (load format' output suffixes).Adds format suffix ↔
      format' = format ∧ suffix ∈ suffixes.takeWhile SuffixConfig.isAccepted := by
  constructor
  · rintro (_ | hmem)
    exact ⟨rfl, hmem⟩
  · rintro ⟨rfl, hmem⟩
    exact .load hmem

omit [PatternEngine] in
lemma drops_remove_iff {format' : String} {suffix' : SuffixConfig} :
    (remove format' suffix').Drops format suffix ↔ format' = format ∧ suffix' = suffix := by
  constructor
  · rintro ⟨⟩
    exact ⟨rfl, rfl⟩
  · rintro ⟨rfl, rfl⟩
    exact .remove

omit [PatternEngine] in
lemma drops_removeFormat_iff {format' : String} :
    (removeFormat format').Drops format suffix ↔ format' = format := by
  constructor
  · rintro ⟨⟩
    rfl
  · rintro rfl
    exact .removeFormat

end MatcherEdit

/-- Some edit has added a suffix to a format, and none after it has dropped it. -/
def IsLive (edits : List MatcherEdit) (format : String) (suffix : SuffixConfig) : Prop :=
  ∃ before e after, edits = before ++ e :: after ∧ e.Adds format suffix ∧
    ∀ e' ∈ after, ¬e'.Drops format suffix

lemma not_isLive_nil : ¬IsLive [] format suffix := by
  rintro ⟨before, e, after, h, -⟩
  simp at h

/-- What is live after one more edit. -/
lemma isLive_concat {edits : List MatcherEdit} {e : MatcherEdit} :
    IsLive (edits ++ [e]) format suffix ↔
      e.Adds format suffix ∨ IsLive edits format suffix ∧ ¬e.Drops format suffix := by
  constructor
  · -- the edit that adds the suffix is the last one, or an earlier one whose work the last one spares
    rintro ⟨before, e', after, h, hadds, hkept⟩
    rcases after.eq_nil_or_concat with rfl | ⟨after, last, rfl⟩
    · obtain ⟨-, hlast⟩ := List.append_inj' h rfl
      rw [List.singleton_inj.1 hlast]
      exact Or.inl hadds
    · rw [List.concat_eq_append] at h hkept
      rw [← List.cons_append, ← List.append_assoc] at h
      obtain ⟨rfl, hlast⟩ := List.append_inj' h rfl
      obtain rfl := List.singleton_inj.1 hlast
      exact Or.inr ⟨⟨before, e', after, rfl, hadds, fun e'' he'' =>
        hkept e'' (List.mem_append_left _ he'')⟩, hkept e (by simp)⟩
  · rintro (hadds | ⟨⟨before, e', after, rfl, hadds, hkept⟩, hdrops⟩)
    · exact ⟨edits, e, [], rfl, hadds, fun _ hmem => (nomatch hmem)⟩
    · refine ⟨before, e', after ++ [e], by simp, hadds, fun e'' he'' => ?_⟩
      rcases List.mem_append.1 he'' with hold | hlast
      · exact hkept e'' hold
      · rwa [List.mem_singleton.1 hlast]

namespace Matcher

open Table

variable {m : Matcher}

/-! ## What edits do to the tables -/

lemma lists_register_iff {format' : String} {suffix' : SuffixConfig} :
    (m.register format' suffix').1.Lists format suffix ↔
      (format' = format ∧ suffix' = suffix ∧ suffix.isAccepted = true) ∨
        m.Lists format suffix := by
  obtain ⟨text, isPattern⟩ := suffix
  obtain ⟨text', isPattern'⟩ := suffix'
  rcases m.register_cases format' ⟨text', isPattern'⟩ with
    ⟨rfl, hregister⟩ | ⟨rfl, p, rfl, hread, hregister⟩ | ⟨rfl, hread, hregister⟩
  · rw [hregister]
    cases isPattern with
    | false =>
      rw [lists_suffix_iff, mem_namesOf_addTo, lists_suffix_iff]
      simp [SuffixConfig.isAccepted]
    | true => simp [lists_pattern_iff]
  · rw [hregister]
    cases isPattern with
    | false => simp [lists_suffix_iff]
    | true =>
      rw [IsRead] at hread
      rw [lists_pattern_iff, mem_namesOf_addTo, lists_pattern_iff]
      refine or_congr_left (and_congr_right fun _ => ?_)
      constructor
      · rintro rfl
        exact ⟨rfl, by simp [SuffixConfig.isAccepted, hread]⟩
      · rintro ⟨h, -⟩
        exact congrArg SuffixConfig.text h
  · rw [hregister]
    refine ⟨Or.inr, ?_⟩
    rintro (⟨-, h, haccepted⟩ | hold)
    · cases h
      simp [SuffixConfig.isAccepted, hread] at haccepted
    · exact hold

/-- An edit is refused only for a pattern that the engine cannot read. -/
lemma register_eq_none_iff :
    (m.register format suffix).2 = none ↔ suffix.isAccepted = true := by
  rcases m.register_cases format suffix with
    ⟨hpattern, hregister⟩ | ⟨hpattern, p, hsource, hread, hregister⟩ |
      ⟨hpattern, hread, hregister⟩
  · simp [hregister, SuffixConfig.isAccepted, hpattern]
  · rw [IsRead, hsource] at hread
    simp [hregister, SuffixConfig.isAccepted, hread]
  · simp [hregister, SuffixConfig.isAccepted, hpattern, hread]

/-- A suffix that is accepted makes the matcher that the rest of the list is registered in. -/
lemma load_cons_of_accepted {first : SuffixConfig} (haccepted : first.isAccepted = true)
    (format' output : String) (rest : List SuffixConfig) :
    m.load format' output (first :: rest) =
      (m.register format' first).1.load format' output rest := by
  have hnone : (m.register format' first).2 = none := register_eq_none_iff.2 haccepted
  rcases hregister : m.register format' first with ⟨m', outcome⟩
  rw [hregister] at hnone
  rw [load, hregister, show outcome = none from hnone]

/-- A suffix that is refused ends the list. -/
lemma load_cons_of_refused {first : SuffixConfig} (hrefused : ¬first.isAccepted = true)
    (format' output : String) (rest : List SuffixConfig) :
    m.load format' output (first :: rest) = m.register format' first := by
  obtain ⟨cause, hcause⟩ := Option.ne_none_iff_exists'.1 (mt register_eq_none_iff.1 hrefused)
  rcases hregister : m.register format' first with ⟨m', outcome⟩
  rw [hregister] at hcause
  rw [load, hregister, show outcome = some cause from hcause]

lemma lists_load_iff {format' output : String} {suffixes : List SuffixConfig} :
    (m.load format' output suffixes).1.Lists format suffix ↔
      (format' = format ∧ suffix ∈ suffixes.takeWhile SuffixConfig.isAccepted) ∨
        m.Lists format suffix := by
  induction suffixes generalizing m with
  | nil => simp [load, Lists, setOutput]
  | cons first rest ih =>
    by_cases haccepted : first.isAccepted = true
    · rw [load_cons_of_accepted haccepted, ih, lists_register_iff,
        List.takeWhile_cons_of_pos haccepted, List.mem_cons]
      constructor
      · rintro (⟨hformat, hrest⟩ | ⟨hformat, rfl, -⟩ | hold)
        · exact Or.inl ⟨hformat, Or.inr hrest⟩
        · exact Or.inl ⟨hformat, Or.inl rfl⟩
        · exact Or.inr hold
      · rintro (⟨hformat, rfl | hrest⟩ | hold)
        · exact Or.inr (Or.inl ⟨hformat, rfl, haccepted⟩)
        · exact Or.inl ⟨hformat, hrest⟩
        · exact Or.inr (Or.inr hold)
    · rw [load_cons_of_refused haccepted, lists_register_iff,
        List.takeWhile_cons_of_neg haccepted]
      -- neither the suffix that is refused nor one of the empty list is added
      refine or_congr_left (iff_of_false ?_ fun h => List.not_mem_nil h.2)
      rintro ⟨-, rfl, h⟩
      exact haccepted h

/-- An edit adds and drops the suffixes that it is meant to. -/
lemma lists_edit_iff (e : MatcherEdit) :
    (m.edit e).1.Lists format suffix ↔
      e.Adds format suffix ∨ m.Lists format suffix ∧ ¬e.Drops format suffix := by
  cases e with
  | register format' suffix' =>
    have hdrops : ¬(MatcherEdit.register format' suffix').Drops format suffix := nofun
    rw [MatcherEdit.adds_register_iff, and_iff_left hdrops]
    exact lists_register_iff
  | remove format' suffix' =>
    have hadds : ¬(MatcherEdit.remove format' suffix').Adds format suffix := nofun
    rw [or_iff_right hadds, MatcherEdit.drops_remove_iff]
    exact lists_remove_iff
  | removeFormat format' =>
    have hadds : ¬(MatcherEdit.removeFormat format').Adds format suffix := nofun
    rw [or_iff_right hadds, MatcherEdit.drops_removeFormat_iff]
    exact lists_removeFormat_iff
  | setOutput format' extension =>
    have hadds : ¬(MatcherEdit.setOutput format' extension).Adds format suffix := nofun
    have hdrops : ¬(MatcherEdit.setOutput format' extension).Drops format suffix := nofun
    rw [or_iff_right hadds, and_iff_left hdrops]
    exact Iff.rfl
  | load format' output suffixes =>
    have hdrops : ¬(MatcherEdit.load format' output suffixes).Drops format suffix := nofun
    rw [MatcherEdit.adds_load_iff, and_iff_left hdrops]
    exact lists_load_iff

lemma run_concat (edits : List MatcherEdit) (e : MatcherEdit) :
    m.run (edits ++ [e]) = ((m.run edits).edit e).1 := by
  rw [run, List.foldl_append]
  rfl

/-- **After any edits, a matcher lists the suffixes that are live.** -/
lemma lists_run_iff (edits : List MatcherEdit) :
    (Matcher.empty.run edits).Lists format suffix ↔ IsLive edits format suffix := by
  induction edits using List.reverseRecOn with
  | nil =>
    refine iff_of_false ?_ not_isLive_nil
    obtain ⟨text, isPattern⟩ := suffix
    cases isPattern <;> exact List.not_mem_nil
  | append_singleton edits e ih => rw [run_concat, lists_edit_iff, ih, isLive_concat]

end Matcher

end Raster
