import Raster.Proofs.Number.Numeral
import Raster.Proofs.Resize.Resize
import Raster.Proofs.Text.Parts
/-!
# Which extents are accepted

The new extents of an image come from a factor, which has to be finite and above zero, or from a
text.  The entries of a text are what stands between its commas, and the text asks for extents if
all of them are numerals (`AsksFor`).  Such a request is met if it has an entry for every axis and,
should it contain a zero, a single entry besides (`requestedExtents_eq_ok_iff`); entries other than
zero are kept as they are.
-/

namespace Raster

/-- The entries of a text: what stands between its commas, without the blanks around it. -/
def resolutionEntries (text : String) : List (List Char) :=
  (text.toList.splitOn ',').map Text.trimChars

/-- A text asks for some extents: its entries are their numerals. -/
def AsksFor (text : String) (requested : List Nat) : Prop :=
  List.Forall₂ (IsNumeral maxExtent) (resolutionEntries text) requested

/-! ## Reading the entries -/

section Entries

variable {text : String} {requested : List Nat}

lemma resolutionEntry_eq_ok_iff {entry : List Char} {n : Nat} :
    resolutionEntry entry = .ok n ↔ IsNumeral maxExtent (Text.trimChars entry) n := by
  rw [← numeral?_eq_some_iff, resolutionEntry]
  cases numeral? maxExtent (Text.trimChars entry) with
  | none => simp
  | some m => simp

lemma mapM_resolutionEntry_eq_ok_iff :
    (Text.splitChars ',' text.toList).mapM resolutionEntry = .ok requested ↔
      AsksFor text requested := by
  rw [mapM_eq_ok_iff, AsksFor, resolutionEntries, List.forall₂_map_left_iff,
    Text.splitChars_eq_splitOn]
  simp only [resolutionEntry_eq_ok_iff]

/-- A text asks for one list of extents at most. -/
lemma AsksFor.eq {requested' : List Nat} (h : AsksFor text requested)
    (h' : AsksFor text requested') : requested = requested' := by
  rw [← mapM_resolutionEntry_eq_ok_iff] at h h'
  exact Except.ok.inj (h.symm.trans h')

lemma exists_asksFor_iff :
    (∃ requested, AsksFor text requested) ↔
      ∀ entry ∈ resolutionEntries text, ∃ n, IsNumeral maxExtent entry n := by
  constructor
  · rintro ⟨requested, h⟩ entry hentry
    obtain ⟨hlength, hget⟩ := List.forall₂_iff_get.1 h
    obtain ⟨i, hi, rfl⟩ := List.mem_iff_getElem.1 hentry
    exact ⟨_, hget i hi (hlength ▸ hi)⟩
  · intro h
    choose! value hvalue using h
    refine ⟨(resolutionEntries text).map value, ?_⟩
    rw [AsksFor, List.forall₂_map_right_iff, List.forall₂_same]
    exact hvalue

end Entries

/-! ## Completing the request -/

/-- The entries of a list that are not zero are those that fix the scale. -/
lemma length_filter_zipIdx (requested : List Nat) :
    (requested.zipIdx.filter fun (n, _) => n ≠ 0).length = requested.countP (· ≠ 0) := by
  have hmap : requested.zipIdx.map Prod.fst = requested := List.zipIdx_map_fst 0 requested
  rw [← List.countP_eq_length_filter]
  conv_rhs => rw [← hmap, List.countP_map]
  rfl

/-- A request with zeros is met if a single entry is not zero, and that entry is kept. -/
lemma completeExtents_cases (extents : List Nat) (text : String) (requested : List Nat) :
    (requested.countP (· ≠ 0) ≠ 1 ∧
      ∃ cause, completeExtents extents text requested = .error cause) ∨
    (requested.countP (· ≠ 0) = 1 ∧
      ∃ factor axis n, completeExtents extents text requested =
          .ok ((scaleExtents factor extents).set axis n) ∧
        ∀ a m, requested[a]? = some m → m ≠ 0 → a = axis ∧ m = n) := by
  rw [← length_filter_zipIdx]
  unfold completeExtents
  split
  · rename_i n axis hfilter
    refine Or.inr ⟨by rw [hfilter]; rfl, _, axis, n, rfl, fun a m ha hm => ?_⟩
    have hmem : (m, a) ∈ requested.zipIdx.filter fun (n, _) => n ≠ 0 :=
      List.mem_filter.2 ⟨List.mem_zipIdx_iff_getElem?.2 ha, by simpa using hm⟩
    rw [hfilter, List.mem_singleton] at hmem
    exact ⟨(Prod.mk.inj hmem).2, (Prod.mk.inj hmem).1⟩
  · rename_i hfilter
    refine Or.inl ⟨fun hlength => ?_, _, rfl⟩
    obtain ⟨⟨n, axis⟩, hsingle⟩ := List.length_eq_one_iff.1 hlength
    exact hfilter n axis hsingle

/-! ## Requests that are met -/

/-- A request can be met for an image of some rank: it has an entry for every axis and, should it
contain a zero, a single entry besides. -/
structure IsMet (rank : Nat) (requested : List Nat) : Prop where
  length_eq : requested.length = rank
  zeros : 0 ∈ requested → requested.countP (· ≠ 0) = 1

variable {extents target requested : List Nat} {text : String}

lemma AsksFor.requestedExtents_eq (h : AsksFor text requested) (extents : List Nat) :
    requestedExtents extents text =
      if requested.length ≠ extents.length then
        .error (.resolutionCount text requested.length extents.length)
      else if requested.all (· ≠ 0) then .ok requested
      else completeExtents extents text requested := by
  rw [requestedExtents, mapM_resolutionEntry_eq_ok_iff.2 h]
  rfl

lemma asksFor_of_requestedExtents (h : requestedExtents extents text = .ok target) :
    ∃ requested, AsksFor text requested := by
  obtain ⟨requested, hrequested, -⟩ := exists_of_bind_eq_ok h
  exact ⟨requested, mapM_resolutionEntry_eq_ok_iff.1 hrequested⟩

lemma all_ne_zero_iff : requested.all (· ≠ 0) = true ↔ 0 ∉ requested := by
  rw [List.all_eq_true]
  constructor
  · intro h hmem
    simpa using h 0 hmem
  · rintro h n hn
    have hn0 : n ≠ 0 := by
      rintro rfl
      exact h hn
    simpa using hn0

/-- A request is met, or refused; entries other than zero are kept. -/
lemma AsksFor.requestedExtents_cases (h : AsksFor text requested) (extents : List Nat) :
    (¬IsMet extents.length requested ∧ ∃ cause, requestedExtents extents text = .error cause) ∨
    (IsMet extents.length requested ∧ ∃ target : List Nat,
      requestedExtents extents text = .ok target ∧
        ∀ (axis n : Nat), requested[axis]? = some n → n ≠ 0 → target[axis]? = some n) := by
  rw [h.requestedExtents_eq extents]
  by_cases hlength : requested.length = extents.length
  · rw [if_neg (not_not.2 hlength)]
    by_cases hzero : 0 ∈ requested
    · rw [if_neg fun hall => all_ne_zero_iff.1 hall hzero]
      rcases completeExtents_cases extents text requested with
        ⟨hcount, hcause⟩ | ⟨hcount, factor, axis, n, hok, hkeep⟩
      · exact Or.inl ⟨fun hmet => hcount (hmet.zeros hzero), hcause⟩
      · refine Or.inr ⟨⟨hlength, fun _ => hcount⟩, _, hok, fun a m ha hm => ?_⟩
        obtain ⟨rfl, rfl⟩ := hkeep a m ha hm
        have hlt : a < extents.length := by
          rw [← hlength]
          exact (List.getElem?_eq_some_iff.1 ha).1
        exact List.getElem?_set_self (by rwa [length_scaleExtents])
    · rw [if_pos (all_ne_zero_iff.2 hzero)]
      exact Or.inr ⟨⟨hlength, fun h => absurd h hzero⟩, requested, rfl, fun _ _ ha _ => ha⟩
  · rw [if_pos hlength]
    exact Or.inl ⟨fun hmet => hlength hmet.length_eq, _, rfl⟩

lemma requestedExtents_eq_ok_iff :
    (∃ target, requestedExtents extents text = .ok target) ↔
      ∃ requested, AsksFor text requested ∧ IsMet extents.length requested := by
  constructor
  · rintro ⟨target, h⟩
    obtain ⟨requested, hasks⟩ := asksFor_of_requestedExtents h
    rcases hasks.requestedExtents_cases extents with ⟨-, cause, herror⟩ | ⟨hmet, -⟩
    · rw [h] at herror
      cases herror
    · exact ⟨requested, hasks, hmet⟩
  · rintro ⟨requested, hasks, hmet⟩
    rcases hasks.requestedExtents_cases extents with ⟨hnot, -⟩ | ⟨-, target, hok, -⟩
    · exact absurd hmet hnot
    · exact ⟨target, hok⟩

/-- What is wrong with a text whose request is not met. -/
lemma not_met_iff {rank : Nat} :
    (¬∃ requested, AsksFor text requested ∧ IsMet rank requested) ↔
      (∃ entry ∈ resolutionEntries text, ∀ n, ¬IsNumeral maxExtent entry n) ∨
      (resolutionEntries text).length ≠ rank ∨
      ∃ requested, AsksFor text requested ∧ 0 ∈ requested ∧ requested.countP (· ≠ 0) ≠ 1 := by
  by_cases hasks : ∃ requested, AsksFor text requested
  · obtain ⟨requested, hasks⟩ := hasks
    have hlength : (resolutionEntries text).length = requested.length := hasks.length_eq
    have hnumerals : ¬∃ entry ∈ resolutionEntries text, ∀ n, ¬IsNumeral maxExtent entry n := by
      rintro ⟨entry, hentry, hnone⟩
      obtain ⟨n, hn⟩ := exists_asksFor_iff.1 ⟨requested, hasks⟩ entry hentry
      exact hnone n hn
    constructor
    · intro hnot
      by_cases hrank : requested.length = rank
      · refine Or.inr (Or.inr ⟨requested, hasks, ?_⟩)
        by_contra hzeros
        exact hnot ⟨requested, hasks, hrank, fun h => by_contra fun hcount => hzeros ⟨h, hcount⟩⟩
      · exact Or.inr (Or.inl (hlength ▸ hrank))
    · rintro (h | h | ⟨requested', hasks', hzero, hcount⟩) ⟨asked, hasked, hmet⟩
      · exact hnumerals h
      · rw [hlength, hasks.eq hasked] at h
        exact h hmet.length_eq
      · rw [hasks'.eq hasked] at hzero hcount
        exact hcount (hmet.zeros hzero)
  · refine iff_of_true (fun ⟨requested, h, _⟩ => hasks ⟨requested, h⟩) (Or.inl ?_)
    rw [exists_asksFor_iff] at hasks
    push Not at hasks
    exact hasks

lemma exists_error_iff {ε α : Type} {x : Except ε α} :
    (∃ e, x = .error e) ↔ ¬∃ a, x = .ok a := by
  cases x <;> simp

lemma isScaleFactor_iff {factor : Float} :
    isScaleFactor factor = true ↔ factor.isFinite = true ∧ 0.0 < factor := by
  simp [isScaleFactor]

/-- **When new extents are found, and what they are.**  If the text is `auto`, the factor has to be
a finite number above zero.  Any other text is refused exactly if one of its entries is no numeral,
if there are more or fewer entries than axes, or if there is a zero among them and not exactly one
entry besides the zeros.  The extents that are found are as many as the axes, none of them is zero,
and each entry other than zero is the extent of its axis. -/
theorem targetExtents_decided (extents : List Nat) (factor : Float) (text : String) :
    (Text.trim text = "auto" →
      ((∃ cause, targetExtents extents factor text = .error cause) ↔
        ¬(factor.isFinite = true ∧ 0.0 < factor))) ∧
    (Text.trim text ≠ "auto" →
      ((∃ cause, targetExtents extents factor text = .error cause) ↔
        (∃ entry ∈ resolutionEntries text, ∀ n, ¬IsNumeral maxExtent entry n) ∨
        (resolutionEntries text).length ≠ extents.length ∨
        ∃ requested, AsksFor text requested ∧ 0 ∈ requested ∧
          requested.countP (· ≠ 0) ≠ 1)) ∧
    (∀ target, targetExtents extents factor text = .ok target →
      target.length = extents.length ∧ (∀ m ∈ target, 1 ≤ m) ∧
        (Text.trim text ≠ "auto" → ∃ requested, AsksFor text requested ∧
          ∀ (axis n : Nat), requested[axis]? = some n → n ≠ 0 → target[axis]? = some n)) := by
  refine ⟨fun hauto => ?_, fun hauto => ?_, fun target h => ⟨?_, ?_, fun hauto => ?_⟩⟩
  · rw [targetExtents, if_pos hauto, ← isScaleFactor_iff]
    by_cases hfactor : isScaleFactor factor = true
    · simp [hfactor]
    · simp [hfactor]
  · rw [targetExtents, if_neg hauto, exists_error_iff, requestedExtents_eq_ok_iff, not_met_iff]
  · exact (isTarget_of_targetExtents h).length_eq
  · exact (isTarget_of_targetExtents h).pos
  · rw [targetExtents, if_neg hauto] at h
    obtain ⟨requested, hasks⟩ := asksFor_of_requestedExtents h
    rcases hasks.requestedExtents_cases extents with ⟨-, cause, herror⟩ | ⟨-, found, hok, hkeep⟩
    · rw [h] at herror
      cases herror
    · rw [h] at hok
      cases hok
      exact ⟨requested, hasks, hkeep⟩

/-- A factor of zero is refused, and so is a width alone; a width of a hundred with a zero takes the
height along. -/
theorem hundred_decided :
    (Text.trim " auto" = "auto" ∧ ∃ cause, targetExtents [200, 50] 0.0 " auto" = .error cause) ∧
    (Text.trim "100" ≠ "auto" ∧ ∃ cause, targetExtents [200, 50] 1.0 "100" = .error cause) ∧
    (Text.trim "+100, 0" ≠ "auto" ∧
      targetExtents [200, 50] 1.0 "+100, 0" = .ok [100, 25] ∧
      ∃ requested, AsksFor "+100, 0" requested ∧
        ∀ (axis n : Nat), requested[axis]? = some n → n ≠ 0 →
          [100, 25][axis]? = some n) := by
  have hauto : Text.trim " auto" = "auto" := by decide
  have hwidth : Text.trim "100" ≠ "auto" := by decide
  have hlist : Text.trim "+100, 0" ≠ "auto" := by decide
  have hfactor : ¬((0.0 : Float).isFinite = true ∧ (0.0 : Float) < 0.0) := by decide
  have hsingle : (resolutionEntries "100").length ≠ 2 := by decide
  have hfound : targetExtents [200, 50] 1.0 "+100, 0" = .ok [100, 25] := by rfl
  refine ⟨⟨hauto, ?_⟩, ⟨hwidth, ?_⟩, hlist, hfound, ?_⟩
  · exact ((targetExtents_decided [200, 50] 0.0 " auto").1 hauto).2 hfactor
  · exact ((targetExtents_decided [200, 50] 1.0 "100").2.1 hwidth).2 (Or.inr (Or.inl hsingle))
  · exact ((targetExtents_decided [200, 50] 1.0 "+100, 0").2.2 [100, 25] hfound).2.2 hlist

end Raster
