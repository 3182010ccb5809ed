import Raster.Proofs.Number.Whole
import Raster.Proofs.Resize.Gather
import Raster.Proofs.Resize.Target
import Raster.Proofs.Schema.Validity
/-!
# Resizing to the own extents

An image that is asked for its own extents is not prepared, and each new cell reads the cell at the
same coordinate: on an axis of `n` cells that stays as it is, component `c` reads component
`⌊c · n / n⌋`, and nothing is rounded off while `n · n` is below `2 ^ 53` (`sourceComponent_self`).
So the image comes out as it was (`Image.resize_self`).
-/

namespace Raster

/-! ## Reading in place -/

lemma le_maxExtent_of_lt {n : Nat} (h : n < 2 ^ 53) : n ≤ maxExtent :=
  h.le.trans (by decide)

lemma sourceComponent_self {n c : Nat} (hn : n * n < 2 ^ 53) (hc : c < n) :
    sourceComponent n n c = c := by
  have hlt : n < 2 ^ 53 := Nat.lt_of_le_of_lt (Nat.le_mul_self n) hn
  have hproduct : c * n < 2 ^ 53 := Nat.lt_of_le_of_lt (Nat.mul_le_mul_right n hc.le) hn
  have hwhole : IsWhole (nearestDouble c * nearestDouble n / nearestDouble n) c :=
    ((isWhole_nearestDouble (hc.trans hlt)).mul (isWhole_nearestDouble hlt) hproduct).div
      (isWhole_nearestDouble hlt) (Nat.ne_of_gt (Nat.zero_lt_of_lt hc))
  rw [sourceComponent, hwhole.clampedNat (le_maxExtent_of_lt (hc.trans hlt))]
  omega

lemma sourceCoordinate_self {s : Shape} {c : List Nat} (hs : ∀ n ∈ s, n * n < 2 ^ 53)
    (hc : s.Contains c) : sourceCoordinate s s c = c := by
  induction s generalizing c with
  | nil => exact (List.length_eq_zero_iff.1 hc.length_eq).symm
  | cons n s ih =>
    rw [List.forall_mem_cons] at hs
    cases c with
    | nil => exact absurd hc id
    | cons k c => rw [sourceCoordinate, sourceComponent_self hs.1 hc.1, ih hs.2 hc.2]

namespace Grid

variable {s : Shape} {α : Type}

/-- Sampling a grid onto its own shape gives the grid back. -/
lemma nearest_self (g : Grid s α) (hsolid : ∀ n ∈ s, 0 < n) (hs : ∀ n ∈ s, n * n < 2 ^ 53)
    (hcount : s.isCountable = true) : g.nearest s = .ok g := by
  obtain ⟨sampled, hsampled, hcells⟩ := g.exists_nearest_get? hsolid rfl hcount
  have hsame : sampled = g := ext_get? fun c hc => by
    rw [hcells c hc, sourceCoordinate_self hs hc]
  rw [hsampled, hsame]

end Grid

lemma Image.resize_self (transform : LineTransform) (way : AntiAliasing) (image : Image)
    (hsolid : ∀ n ∈ image.shape, 0 < n) (hs : ∀ n ∈ image.shape, n * n < 2 ^ 53)
    (hcount : image.shape.isCountable = true) :
    image.resize transform way image.shape = .ok image := by
  rw [resize_eq_nearest (List.forall₂_refl image.shape)]
  exact nearest_eq_ok_iff.2 (image.grid.nearest_self hsolid hs hcount)

/-! ## Listing the extents -/

lemma resolutionEntries_intercalate {extents : List Nat} (hne : extents ≠ []) :
    resolutionEntries (",".intercalate (extents.map toString)) =
      extents.map (Nat.toDigits 10) := by
  have hdigits : ∀ n : Nat, ∀ c ∈ Nat.toDigits 10 n, c.isDigit = true := fun _ _ hc =>
    Nat.isDigit_of_mem_toDigits (by decide) (by decide) hc
  have htext : (",".intercalate (extents.map toString)).toList =
      [','].intercalate (extents.map (Nat.toDigits 10)) := by
    rw [String.toList_intercalate, List.map_map]
    refine congrArg _ (List.map_congr_left fun n _ => ?_)
    rw [Function.comp_apply, Nat.toString_eq_ofList_toDigits, String.toList_ofList]
  have hsplit : ([','].intercalate (extents.map (Nat.toDigits 10))).splitOn ',' =
      extents.map (Nat.toDigits 10) := by
    refine List.splitOn_intercalate ',' (fun part hpart hcomma => ?_) (by simpa using hne)
    obtain ⟨n, -, rfl⟩ := List.mem_map.1 hpart
    exact absurd (hdigits n ',' hcomma) (by decide)
  rw [resolutionEntries, htext, hsplit, List.map_map]
  refine List.map_congr_left fun n _ => ?_
  rw [Function.comp_apply,
    Text.trimChars_of_not_blank fun c hc => Text.isBlank_of_isDigit (hdigits n c hc)]

/-- Extents that are written one after the other, with commas between them, are what is asked for,
if none of them is too large. -/
lemma asksFor_intercalate_iff {extents requested : List Nat} (hne : extents ≠ []) :
    AsksFor (",".intercalate (extents.map toString)) requested ↔
      (∀ n ∈ extents, n ≤ maxExtent) ∧ extents = requested := by
  rw [AsksFor, resolutionEntries_intercalate hne, List.forall₂_map_left_iff]
  simp only [isNumeral_toDigits_iff]
  rw [List.forall₂_and_left, List.forall₂_eq_eq_eq]

lemma asksFor_intercalate {extents : List Nat} (hne : extents ≠ [])
    (hle : ∀ n ∈ extents, n ≤ maxExtent) :
    AsksFor (",".intercalate (extents.map toString)) extents :=
  (asksFor_intercalate_iff hne).2 ⟨hle, rfl⟩

section Asking

variable {text : String} {requested : List Nat}

lemma AsksFor.ne_empty (h : AsksFor text requested) : text ≠ "" := by
  rintro rfl
  obtain ⟨n, -, ⟨⟨digits, hcs, hne, -⟩, -⟩, -, -⟩ := List.forall₂_cons_left_iff.1 h
  rcases hcs with rfl | hcs
  · exact hne rfl
  · cases hcs

/-- The word for the factor has no comma in it, so it is the only entry. -/
lemma resolutionEntries_of_auto (h : Text.trim text = "auto") :
    resolutionEntries text = [['a', 'u', 't', 'o']] := by
  have htrim : Text.trimChars text.toList = ['a', 'u', 't', 'o'] := by
    have hlist := congrArg String.toList h
    rwa [Text.trim, String.toList_ofList] at hlist
  have hcomma : ',' ∉ text.toList := by
    obtain ⟨front, back, happend, hfront, hback⟩ := Text.exists_eq_append_trimChars text.toList
    rw [happend, htrim, List.mem_append, List.mem_append]
    rintro ((hmem | hmem) | hmem)
    · exact absurd (hfront ',' hmem) (by decide)
    · exact absurd hmem (by decide)
    · exact absurd (hback ',' hmem) (by decide)
  rw [resolutionEntries, ← Text.splitChars_eq_splitOn, Text.splitChars_of_not_mem hcomma,
    List.map_singleton, htrim]

/-- A text that asks for extents is not the word for the factor. -/
lemma AsksFor.trim_ne_auto (h : AsksFor text requested) : Text.trim text ≠ "auto" := by
  intro hauto
  rw [AsksFor, resolutionEntries_of_auto hauto] at h
  obtain ⟨n, -, ⟨⟨digits, hcs, -, hall, -⟩, -⟩, -, -⟩ := List.forall₂_cons_left_iff.1 h
  rcases hcs with rfl | hcs
  · exact absurd (hall 'a' List.mem_cons_self) (by decide)
  · cases hcs

/-- The extents of an image may be asked for. -/
lemma AsksFor.targetExtents_self {extents : List Nat} (h : AsksFor text extents)
    (hsolid : ∀ n ∈ extents, 0 < n) (factor : Float) :
    targetExtents extents factor text = .ok extents := by
  have hzero : 0 ∉ extents := fun hmem => Nat.lt_irrefl 0 (hsolid 0 hmem)
  rw [targetExtents, if_neg h.trim_ne_auto, h.requestedExtents_eq extents,
    if_neg (not_not.2 rfl), if_pos (all_ne_zero_iff.2 hzero)]

end Asking

/-- **Resizing an image to its own extents leaves it as it is.**  This holds for every image without
an empty axis whose extents have squares below `2 ^ 53`, if its type can be resized, for every text
that asks for its extents and is not too long, such as the numerals with commas between them, and
for whatever the other options are, as long as they are accepted.  The cells of an array in memory
can be counted; a shape whose cells cannot be is a fault here as for any other target. -/
theorem Image.resize_own_extents (transform : LineTransform) (image : Image)
    (htype : image.type ∈ Algorithm.resize.types) (hrank : image.shape ≠ [])
    (hsolid : ∀ n ∈ image.shape, 0 < n) (hs : ∀ n ∈ image.shape, n * n < 2 ^ 53) :
    AsksFor (",".intercalate (image.shape.map toString)) image.shape ∧
    ∀ o text, Algorithm.resize.schema.validate o = .ok () → AsksFor text image.shape →
      text.length ≤ 256 →
        Algorithm.applyNamed transform "resize" (o.insert "exact_res" (.text text)) [image] =
          if image.shape.isCountable then .ok (singleOutput (.fresh image))
          else .error (.fault .outOfBounds) := by
  refine ⟨asksFor_intercalate hrank fun n hn => ?_, fun o text hv htext hlength => ?_⟩
  · exact le_maxExtent_of_lt (Nat.lt_of_le_of_lt (Nat.le_mul_self n) (hs n hn))
  · have hpass : 1 ≤ text.length ∧ text.length ≤ 256 := by
      refine ⟨Nat.pos_of_ne_zero fun hzero => htext.ne_empty ?_, hlength⟩
      exact String.length_eq_zero_iff.1 hzero
    have hv' : Algorithm.resize.schema.validate (o.insert "exact_res" (.text text)) = .ok () := by
      refine (Algorithm.schema_wellFormed .resize).toDistinct.validate_insert hv rfl ?_
      refine OptionNode.fault?_eq_none_iff.2 (.text fun bounds hbounds => ?_)
      obtain rfl := Option.mem_some_iff.1 hbounds
      exact hpass
    obtain ⟨factor, text', way, -, htext', hresized⟩ :=
      Algorithm.exists_resized transform hrank hsolid htype hv'
    -- the text that was put in is the one that is read
    have hread : (Algorithm.resize.schema.finalize (o.insert "exact_res" (.text text))).text
        "exact_res" = .ok text :=
      Options.text_eq_ok (Schema.finalize_extends _ _ _ _ (by rw [Options.get?_insert, if_pos rfl]))
    obtain rfl := Except.ok.inj (hread.symm.trans htext')
    obtain ⟨hsame, hfault⟩ := hresized image.shape (htext.targetExtents_self hsolid factor)
    cases hcount : image.shape.isCountable with
    | true =>
      obtain ⟨grid, hgrid, happlied⟩ := hsame hcount
      rw [image.resize_self transform way hsolid hs hcount] at hgrid
      rw [happlied, ← Except.ok.inj hgrid, if_pos rfl]
    | false => rw [hfault hcount, if_neg Bool.false_ne_true]

/-- The factor does not matter, nor does what would be done before shrinking. -/
theorem Image.resize_own_extents_two_by_one :
    let image : Image := ⟨.gray .eight, [2, 1], ⟨#v[7, 9]⟩⟩
    let o := Options.ofList [("anti_aliasing", .text "clever"), ("scale_factor", .double 0.5)]
    (image.type ∈ Algorithm.resize.types ∧ image.shape ≠ [] ∧ (∀ n ∈ image.shape, 0 < n) ∧
      ∀ n ∈ image.shape, n * n < 2 ^ 53) ∧
    (Algorithm.resize.schema.validate o = .ok () ∧ AsksFor "2,1" image.shape ∧
      "2,1".length ≤ 256) ∧
    Algorithm.applyNamed LineTransform.direct "resize" (o.insert "exact_res" (.text "2,1"))
      [image] = .ok (singleOutput (.fresh image)) := by
  intro image o
  have htype : image.type ∈ Algorithm.resize.types := by decide
  have hrank : image.shape ≠ [] := by decide
  have hsolid : ∀ n ∈ image.shape, 0 < n := by decide
  have hs : ∀ n ∈ image.shape, n * n < 2 ^ 53 := by decide
  have hv : Algorithm.resize.schema.validate o = .ok () := by rfl
  have hlength : "2,1".length ≤ 256 := by decide
  obtain ⟨hasks, hsame⟩ :=
    image.resize_own_extents LineTransform.direct htype hrank hsolid hs
  have htext : ",".intercalate (image.shape.map toString) = "2,1" := by decide
  rw [htext] at hasks
  have hcount : image.shape.isCountable = true := by decide
  refine ⟨⟨htype, hrank, hsolid, hs⟩, ⟨hv, hasks, hlength⟩, ?_⟩
  exact (hsame o "2,1" hv hasks hlength).trans (if_pos hcount)

end Raster
