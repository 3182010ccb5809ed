import Mathlib.Data.List.Nodup
import Raster.Proofs.Extension.Live
/-!
# Which formats come first

For a path the formats of a matcher stand in three groups, each in the order of the names: those
with a suffix that equals the extension, those that only have a pattern for it, and the others
(`Matcher.WellFormed.exists_ranking`).  The first two groups are what is found for the path, and
all three together are the registered formats, each of them once.  After any run of edits, these are
the formats with a live suffix (`Matcher.run_consistent`).
-/

namespace Raster

open Table

/-! ## Leaving out repetitions -/

lemma eraseDups_of_nodup {l : List String} (h : l.Nodup) : l.eraseDups = l := by
  induction l with
  | nil => rfl
  | cons a l ih =>
    obtain ⟨hnew, hl⟩ := List.nodup_cons.1 h
    have hkept : l.filter (fun b => !b == a) = l := by
      refine List.filter_eq_self.2 fun b hb => ?_
      simpa using ne_of_mem_of_not_mem hb hnew
    rw [List.eraseDups_cons, hkept, ih hl]

lemma nodup_eraseDups (l : List String) : l.eraseDups.Nodup := by
  induction hn : l.length using Nat.strong_induction_on generalizing l with
  | h n ih =>
    cases l with
    | nil => exact List.nodup_nil
    | cons a l =>
      have hshort : (l.filter fun b => !b == a).length < n := by
        have hle := List.length_filter_le (fun b => !b == a) l
        rw [List.length_cons] at hn
        omega
      rw [List.eraseDups_cons, List.nodup_cons]
      refine ⟨fun hmem => ?_, ih _ hshort _ rfl⟩
      have hfiltered := List.mem_eraseDups.1 hmem
      simp at hfiltered

namespace Matcher

variable {m : Matcher} {path : Path} {format : String}

/-! ## Entries -/

/-- The keys of one table are put into another. -/
lemma foldl_put_keys {α : Type} (entries : List (String × α)) {t : Table Unit}
    (ht : t.IsSorted) :
    (entries.foldl (fun t (e : String × α) => put e.1 () t) t).IsSorted ∧
      ∀ k, k ∈ keys (entries.foldl (fun t (e : String × α) => put e.1 () t) t) ↔
        k ∈ keys entries ∨ k ∈ keys t := by
  induction entries generalizing t with
  | nil => exact ⟨ht, fun k => by simp [keys]⟩
  | cons e entries ih =>
    obtain ⟨hsorted, hmem⟩ := ih (t := put e.1 () t) ht.put
    refine ⟨hsorted, fun k => ?_⟩
    rw [List.foldl_cons, hmem, mem_keys_put]
    simp only [keys, List.map_cons, List.mem_cons]
    constructor
    · rintro (h | h | h)
      · exact Or.inl (Or.inr h)
      · exact Or.inl (Or.inl h)
      · exact Or.inr h
    · rintro ((h | h) | h)
      · exact Or.inr (Or.inl h)
      · exact Or.inl h
      · exact Or.inr (Or.inr h)

/-- The keys of the entries that pass a test. -/
lemma mem_keys_filter {α : Type} {name : α → String} {Sound : α → Prop} {t : Table (List α)}
    (h : IsRegister name Sound t) (test : α → Bool) :
    format ∈ keys (t.filter fun e => e.2.any test) ↔ ∃ x ∈ listOf format t, test x = true := by
  rw [keys, List.mem_map, listOf]
  constructor
  · rintro ⟨⟨k, list⟩, hentry, rfl⟩
    obtain ⟨hmem, hany⟩ := List.mem_filter.1 hentry
    obtain ⟨x, hx, htest⟩ := List.any_eq_true.1 hany
    refine ⟨x, ?_, htest⟩
    rw [h.sorted.get?_eq_some_iff.2 hmem]
    exact hx
  · rintro ⟨x, hx, htest⟩
    cases hget : get? format t with
    | none =>
      rw [hget] at hx
      cases hx
    | some list =>
      rw [hget] at hx
      refine ⟨(format, list), List.mem_filter.2 ⟨mem_of_get? hget, ?_⟩, rfl⟩
      exact List.any_eq_true.2 ⟨x, hx, htest⟩

lemma mem_keys_filter_or {α : Type} {t : Table α} (test : String × α → Bool) :
    format ∈ keys (t.filter test) ∨ format ∈ keys (t.filter fun e => !test e) ↔
      format ∈ keys t := by
  simp only [keys, List.mem_map, List.mem_filter]
  constructor
  · rintro (⟨e, ⟨hmem, -⟩, hkey⟩ | ⟨e, ⟨hmem, -⟩, hkey⟩)
    · exact ⟨e, hmem, hkey⟩
    · exact ⟨e, hmem, hkey⟩
  · rintro ⟨e, hmem, hkey⟩
    cases htest : test e with
    | true => exact Or.inl ⟨e, ⟨hmem, htest⟩, hkey⟩
    | false => exact Or.inr ⟨e, ⟨hmem, by simp [htest]⟩, hkey⟩

/-- The keys of the entries that pass a test are in order. -/
lemma pairwise_keys_filter {α : Type} {t : Table α} (ht : t.IsSorted) (test : String × α → Bool) :
    (keys (t.filter test)).Pairwise (· < ·) :=
  List.Pairwise.sublist (List.filter_sublist.map _) ht

/-- The extension of a path is read if it is ASCII. -/
lemma extensionOf_eq_ok (hascii : ∀ c ∈ path.extension?.getD [], c.toNat < 128) :
    extensionOf path = .ok (path.extension?.getD []) := by
  have hall : (path.extension?.getD []).all (fun c => c.toNat < 128) = true := by
    simpa using hascii
  rw [extensionOf, if_pos hall]

lemma exists_suffix_iff {ext : List Char} :
    (∃ s ∈ m.suffixesOf format, suffixMatches s ext = true) ↔
      ∃ text, m.Lists format ⟨text, false⟩ ∧ suffixMatches text ext = true := by
  simp [Lists, namesOf, suffixesOf]

section Engine

variable [PatternEngine]

/-! ## The registered formats -/

namespace WellFormed

lemma formats_keys (h : m.WellFormed) :
    m.formats.Pairwise (· < ·) ∧
      ∀ format, format ∈ m.formats ↔ format ∈ keys m.suffixes ∨ format ∈ keys m.patterns := by
  have hkeys : keys (m.patterns.map fun e => (e.1, ())) = keys m.patterns := by
    simp [keys]
  have hstart : IsSorted (m.patterns.map fun e => (e.1, ())) := by
    rw [IsSorted, hkeys]
    exact h.patterns.sorted
  obtain ⟨hsorted, hmem⟩ := foldl_put_keys m.suffixes hstart
  refine ⟨hsorted, fun format => ?_⟩
  rw [← hkeys]
  exact hmem format

/-- The registered formats are those that something is registered for. -/
lemma mem_formats (h : m.WellFormed) : format ∈ m.formats ↔ ∃ suffix, m.Lists format suffix := by
  rw [h.formats_keys.2, h.suffixes.mem_keys_iff, h.patterns.mem_keys_iff]
  constructor
  · rintro (⟨text, hmem⟩ | ⟨text, hmem⟩)
    · exact ⟨⟨text, false⟩, hmem⟩
    · exact ⟨⟨text, true⟩, hmem⟩
  · rintro ⟨⟨text, isPattern⟩, hlists⟩
    cases isPattern with
    | false => exact Or.inl ⟨text, hlists⟩
    | true => exact Or.inr ⟨text, hlists⟩

/-- The engine decides whether an extension matches one of the patterns of a format. -/
lemma exists_pattern_iff (h : m.WellFormed) {ext : List Char} :
    (∃ p ∈ m.patternsOf format, p.isMatch ext = true) ↔
      ∃ text, m.Lists format ⟨text, true⟩ ∧ SuffixConfig.isMatch ⟨text, true⟩ ext = true := by
  have hmatch : ∀ p ∈ m.patternsOf format,
      SuffixConfig.isMatch ⟨p.source, true⟩ ext = p.isMatch ext := by
    intro p hp
    have hread : PatternEngine.compile? (anchored p.source) = some p.isMatch :=
      h.patterns.sound_of_mem hp
    rw [SuffixConfig.isMatch, if_pos rfl, hread]
    rfl
  constructor
  · rintro ⟨p, hp, hext⟩
    exact ⟨p.source, List.mem_map_of_mem hp, (hmatch p hp).trans hext⟩
  · rintro ⟨text, hlists, hext⟩
    obtain ⟨p, hp, rfl⟩ := List.mem_map.1 hlists
    exact ⟨p, hp, (hmatch p hp).symm.trans hext⟩

end WellFormed

/-! ## Ranking -/

/-- The formats as they are ranked for a path, when some suffixes are live: those with a suffix that
equals the extension, those that only have a pattern that the extension matches, and the rest. -/
structure Ranking (Live : String → SuffixConfig → Prop) (m : Matcher) (path : Path)
    (bySuffix byPattern rest : List String) : Prop where
  find : m.find path = .ok (bySuffix ++ byPattern)
  sorted : m.sorted path = .ok (bySuffix ++ byPattern ++ rest)
  predict : m.predict path =
    match bySuffix ++ byPattern with
    | first :: _ => .ok first
    | [] => .error (.noFormatForPath path.text)
  nodup : (bySuffix ++ byPattern).Nodup
  suffix_order : bySuffix.Pairwise (· < ·)
  pattern_order : byPattern.Pairwise (· < ·)
  mem_bySuffix : ∀ format, format ∈ bySuffix ↔
    ∃ text, Live format ⟨text, false⟩ ∧ suffixMatches text (path.extension?.getD []) = true
  mem_byPattern : ∀ format, format ∈ byPattern ↔ format ∉ bySuffix ∧
    ∃ text, Live format ⟨text, true⟩ ∧
      SuffixConfig.isMatch ⟨text, true⟩ (path.extension?.getD []) = true
  perm_formats : (bySuffix ++ byPattern ++ rest).Perm m.formats

/-- Those that match an extension and the others are all the formats. -/
lemma WellFormed.perm_formats (h : m.WellFormed) (ext : List Char) :
    (m.matching ext ++ m.others ext).eraseDups.Perm m.formats := by
  refine (List.perm_ext_iff_of_nodup (nodup_eraseDups _)
    (h.formats_keys.1.imp ne_of_lt)).2 fun format => ?_
  rw [List.mem_eraseDups, h.formats_keys.2, matching, others,
    ← mem_keys_filter_or (hasSuffix ext), ← mem_keys_filter_or (hasPattern ext)]
  simp only [List.mem_append]
  tauto

/-- The formats are ranked for every path whose extension is ASCII or missing. -/
theorem WellFormed.exists_ranking (h : m.WellFormed)
    (hascii : ∀ c ∈ path.extension?.getD [], c.toNat < 128) :
    ∃ bySuffix byPattern rest, Ranking m.Lists m path bySuffix byPattern rest := by
  have hext := extensionOf_eq_ok hascii
  obtain ⟨ext, hdef⟩ : ∃ ext, path.extension?.getD [] = ext := ⟨_, rfl⟩
  obtain ⟨S, hS⟩ : ∃ S, keys (m.suffixes.filter (hasSuffix ext)) = S := ⟨_, rfl⟩
  obtain ⟨P, hP⟩ : ∃ P, keys (m.patterns.filter (hasPattern ext)) = P := ⟨_, rfl⟩
  have hmatching : m.matching ext = S ++ P := by rw [matching, hS, hP]
  have hS_order : S.Pairwise (· < ·) := hS ▸ pairwise_keys_filter h.suffixes.sorted _
  have hP_order : P.Pairwise (· < ·) := hP ▸ pairwise_keys_filter h.patterns.sorted _
  have hP_kept : (P.removeAll S).Pairwise (· < ·) := List.Pairwise.filter _ hP_order
  -- the second group has no repetitions of its own, and what is in the first is taken out of it
  have hfind : (S ++ P).eraseDups = S ++ P.removeAll S := by
    rw [List.eraseDups_append, eraseDups_of_nodup (hS_order.imp ne_of_lt),
      eraseDups_of_nodup (hP_kept.imp ne_of_lt)]
  have hsorted : (S ++ P ++ m.others ext).eraseDups =
      S ++ P.removeAll S ++ ((m.others ext).removeAll (S ++ P)).eraseDups := by
    rw [List.eraseDups_append, hfind]
  have hfound : m.find path = .ok (S ++ P.removeAll S) := by
    rw [Matcher.find, hext, ← hfind, ← hmatching, ← hdef]
    rfl
  refine ⟨S, P.removeAll S, ((m.others ext).removeAll (S ++ P)).eraseDups, ?_⟩
  exact
    { find := hfound
      sorted := by
        rw [Matcher.sorted, hext, ← hsorted, ← hmatching, ← hdef]
        rfl
      predict := by
        rw [Matcher.predict, hfound]
        cases S ++ P.removeAll S with
        | nil => rfl
        | cons first others => rfl
      nodup := hfind ▸ nodup_eraseDups _
      suffix_order := hS_order
      pattern_order := hP_kept
      mem_bySuffix := fun format => by
        rw [← hS, hdef, ← exists_suffix_iff]
        exact mem_keys_filter h.suffixes _
      mem_byPattern := fun format => by
        have hmem : format ∈ P.removeAll S ↔ format ∉ S ∧ format ∈ P := by
          simp [List.removeAll, and_comm]
        rw [hmem, ← hP, hdef, ← h.exists_pattern_iff]
        exact and_congr_right fun _ => mem_keys_filter h.patterns _
      perm_formats := by
        rw [← hsorted, ← hmatching]
        exact h.perm_formats ext }

/-! ## Any run of edits -/

/-- What holds of a matcher after some edits. -/
structure Consistent (edits : List MatcherEdit) (m : Matcher) : Prop where
  /-- No format keeps an empty list, and no list holds a suffix twice. -/
  suffixes : ∀ e ∈ m.suffixes, e.2 ≠ [] ∧ e.2.Nodup
  patterns : ∀ e ∈ m.patterns, e.2 ≠ [] ∧ (e.2.map SuffixPattern.source).Nodup
  /-- A pattern is the one that its text stands for. -/
  patterns_read : ∀ e ∈ m.patterns, ∀ p ∈ e.2, IsRead p
  /-- The lists hold what the edits have added and not dropped again. -/
  lists_iff : ∀ format suffix, m.Lists format suffix ↔ IsLive edits format suffix
  formats_order : m.formats.Pairwise (· < ·)
  mem_formats : ∀ format, format ∈ m.formats ↔ ∃ suffix, IsLive edits format suffix
  register_accepted : ∀ format suffix,
    (m.register format suffix).2 = none ↔ suffix.isAccepted = true
  register_refused : ∀ format suffix cause,
    (m.register format suffix).2 = some cause → (m.register format suffix).1 = m
  /-- What is new, and is registered and removed again, leaves no trace. -/
  remove_register : ∀ format suffix, ¬IsLive edits format suffix → suffix.isAccepted = true →
    (m.register format suffix).1.remove format suffix = m
  ranking : ∀ path : Path, (∀ c ∈ path.extension?.getD [], c.toNat < 128) →
    ∃ bySuffix byPattern rest, Ranking (IsLive edits) m path bySuffix byPattern rest

lemma register_of_refused {suffix : SuffixConfig} {cause : Refusal}
    (h : (m.register format suffix).2 = some cause) : (m.register format suffix).1 = m := by
  rcases m.register_cases format suffix with
    ⟨-, hregister⟩ | ⟨-, p, -, -, hregister⟩ | ⟨-, -, hregister⟩
  · rw [hregister] at h
    cases h
  · rw [hregister] at h
    cases h
  · rw [hregister]

/-- **Whatever edits are made, one after the other and refused or not, the matcher is consistent
with them**, and whatever the engine for patterns is. -/
theorem run_consistent (edits : List MatcherEdit) :
    (Matcher.empty.run edits).Consistent edits := by
  have h : (Matcher.empty.run edits).WellFormed := WellFormed.empty.run edits
  have hlive : (Matcher.empty.run edits).Lists = IsLive edits :=
    funext fun _ => funext fun _ => propext (lists_run_iff edits)
  exact
    { suffixes := fun e he => ⟨h.suffixes.ne_nil e he, by simpa using h.suffixes.nodup e he⟩
      patterns := fun e he => ⟨h.patterns.ne_nil e he, h.patterns.nodup e he⟩
      patterns_read := h.patterns.sound
      lists_iff := fun _ _ => lists_run_iff edits
      formats_order := h.formats_keys.1
      mem_formats := fun _ => by rw [h.mem_formats, hlive]
      register_accepted := fun _ _ => register_eq_none_iff
      register_refused := fun _ _ _ => register_of_refused
      remove_register := fun _ _ hnew haccepted =>
        h.remove_register (fun hlists => hnew (hlive ▸ hlists)) (register_eq_none_iff.2 haccepted)
      ranking := fun _ hascii => hlive ▸ h.exists_ranking hascii }

end Engine

/-- Three formats; one pattern of theirs cannot be read, one suffix is taken out again, and so is
all of a fourth format. -/
def threeFormats : List MatcherEdit :=
  [.register "png" ⟨"PNG", false⟩, .load "jpeg" "jpg" [⟨"jpg", false⟩, ⟨"jp[eg]+", true⟩],
    .register "raw" ⟨"r7|jpg", true⟩, .register "raw" ⟨"(", true⟩,
    .register "raw" ⟨"jpg", false⟩, .remove "raw" ⟨"jpg", false⟩,
    .load "gif" "gif" [⟨"jpg", false⟩, ⟨"gif|jpg", true⟩], .removeFormat "gif"]

theorem run_consistent_threeFormats :
    (∃ bySuffix byPattern rest, Ranking (IsLive threeFormats) (Matcher.empty.run threeFormats)
      ⟨"b.jpg".toList⟩ bySuffix byPattern rest) ∧
    (Matcher.empty.run threeFormats).sorted ⟨"b.jpg".toList⟩ = .ok ["jpeg", "raw", "png"] ∧
    IsLive threeFormats "raw" ⟨"r7|jpg", true⟩ ∧ ¬IsLive threeFormats "raw" ⟨"jpg", false⟩ ∧
    ∀ suffix, ¬IsLive threeFormats "gif" suffix := by
  have h := run_consistent threeFormats
  have hextension : Path.extension? ⟨"b.jpg".toList⟩ = some ['j', 'p', 'g'] := rfl
  have hformats : (Matcher.empty.run threeFormats).formats = ["jpeg", "png", "raw"] := rfl
  have hsuffixes : namesOf id "raw" (Matcher.empty.run threeFormats).suffixes = [] := rfl
  have hpatterns : namesOf SuffixPattern.source "raw" (Matcher.empty.run threeFormats).patterns =
      ["r7|jpg"] := rfl
  refine ⟨h.ranking _ ?_, rfl, ?_, ?_, fun suffix hlive => ?_⟩
  · rw [hextension]
    simp
  · rw [← h.lists_iff, lists_pattern_iff, hpatterns]
    exact List.mem_singleton_self _
  · rw [← h.lists_iff, lists_suffix_iff, hsuffixes]
    exact List.not_mem_nil
  · have hmem := (h.mem_formats "gif").2 ⟨suffix, hlive⟩
    rw [hformats] at hmem
    simp at hmem

end Matcher

end Raster
