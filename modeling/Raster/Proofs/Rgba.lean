import Mathlib.Data.Nat.Digits.Defs
import Raster.Proofs.Resize.Identity
import Raster.Rgba
/-!
# The size of a resized picture

A picture of some width and height is a row of bytes, four for each pixel
(`Image.ofRgbaBytes?_eq_some_iff`).  Resizing hands the new extents over as a text, where a zero
means that the extent follows the other one; so a width or a height of zero does not lead to an
empty row of bytes (`resizeRgba_size`).
-/

namespace Raster

/-! ## Bytes and pixels -/

/-- A row of bytes stands for pixels if it is their bytes one after the other. -/
lemma rgbaPixels_eq_some_iff {bytes : List Byte} {pixels : List Rgba} :
    rgbaPixels bytes = some pixels ↔ bytes = pixels.flatMap Rgba.bytes := by
  constructor
  · intro h
    induction bytes using rgbaPixels.induct generalizing pixels with
    | case1 =>
      cases h
      rfl
    | case2 r g b a rest ih =>
      obtain ⟨others, hothers, rfl⟩ := Option.map_eq_some_iff.1 h
      rw [ih hothers]
      rfl
    | case3 bytes hnil hcons =>
      rw [rgbaPixels] at h
      · cases h
      · exact hnil
      · exact hcons
  · rintro rfl
    induction pixels with
    | nil => rfl
    | cons p pixels ih =>
      rw [List.flatMap_cons]
      show (rgbaPixels (pixels.flatMap Rgba.bytes)).map _ = _
      rw [ih]
      rfl

variable {width height : Nat} {bytes out : List Byte}

/-- The bytes of a picture are those that it was made of. -/
lemma Image.ofRgbaBytes?_eq_some_iff {image : Image} :
    Image.ofRgbaBytes? width height bytes = some image ↔
      ∃ grid : Grid [width, height] Rgba,
        bytes = grid.toList.flatMap Rgba.bytes ∧ image = ⟨.rgba, [width, height], grid⟩ := by
  constructor
  · intro h
    unfold Image.ofRgbaBytes? at h
    split at h
    · rename_i pixels hpixels
      unfold Image.ofArray? Grid.ofArray? at h
      split at h
      · rename_i hsize
        cases h
        exact ⟨⟨⟨pixels.toArray, hsize⟩⟩, rgbaPixels_eq_some_iff.1 hpixels, rfl⟩
      · cases h
    · cases h
  · rintro ⟨grid, hbytes, rfl⟩
    rw [Image.ofRgbaBytes?, rgbaPixels_eq_some_iff.2 hbytes]
    show (Image.ofArray? .rgba [width, height] grid.cells.toArray).toOption = _
    rw [Image.ofArray?, Grid.ofArray?, dif_pos grid.cells.size_toArray]
    rfl

/-- Four bytes for each pixel. -/
lemma Grid.length_flatMap_bytes (grid : Grid [width, height] Rgba) :
    (grid.toList.flatMap Rgba.bytes).length = width * height * 4 := by
  have hcells : grid.toList.length = width * height :=
    Vector.length_toList.trans (by simp [Shape.size])
  rw [List.length_flatMap]
  show (grid.toList.map fun _ => 4).sum = _
  simp [hcells]

lemma exists_pixels {n : Nat} (h : bytes.length = n * 4) :
    ∃ pixels : List Rgba, bytes = pixels.flatMap Rgba.bytes ∧ pixels.length = n := by
  induction n generalizing bytes with
  | zero =>
    rw [Nat.zero_mul, List.length_eq_zero_iff] at h
    exact ⟨[], h, rfl⟩
  | succ n ih =>
    obtain ⟨r, g, b, a, rest, rfl⟩ : ∃ r g b a rest, bytes = r :: g :: b :: a :: rest := by
      match bytes, h with
      | [], h | [_], h | [_, _], h | [_, _, _], h =>
        simp only [List.length_cons, List.length_nil] at h
        omega
      | r :: g :: b :: a :: rest, _ => exact ⟨r, g, b, a, rest, rfl⟩
    have hrest : rest.length = n * 4 := by
      simp only [List.length_cons] at h
      omega
    obtain ⟨pixels, rfl, rfl⟩ := ih hrest
    exact ⟨⟨r, g, b, a⟩ :: pixels, rfl, rfl⟩

/-- A row of bytes is a picture if it has four bytes for each pixel. -/
lemma exists_grid_iff :
    (∃ grid : Grid [width, height] Rgba, bytes = grid.toList.flatMap Rgba.bytes) ↔
      bytes.length = width * height * 4 := by
  constructor
  · rintro ⟨grid, rfl⟩
    exact grid.length_flatMap_bytes
  · intro h
    obtain ⟨pixels, hbytes, hlength⟩ := exists_pixels h
    have hsize : pixels.toArray.size = Shape.size [width, height] := by
      simpa [Shape.size] using hlength
    exact ⟨⟨⟨pixels.toArray, hsize⟩⟩, hbytes⟩

/-- What applying an algorithm to a picture comes down to. -/
lemma applyToRgba_eq_some_iff {transform : LineTransform} {a : Algorithm} {o : Options} :
    applyToRgba transform a o width height bytes = some out ↔
      ∃ grid : Grid [width, height] Rgba, bytes = grid.toList.flatMap Rgba.bytes ∧
        ∃ outputs output,
          Algorithm.applyNamed transform a.name o [⟨.rgba, [width, height], grid⟩] = .ok outputs ∧
          outputs.getLast? = some output ∧
          (output.result.get ⟨.rgba, [width, height], grid⟩).bytes? = some out := by
  have hok : ∀ {x : Except Failure (List Output)} {outputs},
      x.toOption = some outputs ↔ x = .ok outputs := by
    intro x outputs
    cases x <;> simp [Except.toOption]
  simp only [applyToRgba, Option.bind_eq_bind, Option.bind_eq_some_iff, hok,
    Algorithm.applyNamed_name, Image.ofRgbaBytes?_eq_some_iff]
  constructor
  · rintro ⟨_, ⟨grid, hbytes, rfl⟩, outputs, happlied, output, hlast, hout⟩
    exact ⟨grid, hbytes, outputs, output, happlied, hlast, hout⟩
  · rintro ⟨grid, hbytes, outputs, output, happlied, hlast, hout⟩
    exact ⟨_, ⟨grid, hbytes, rfl⟩, outputs, happlied, output, hlast, hout⟩

/-! ## Extents -/

/-- The new extent of an axis: what is asked for, or, should that be zero, the old one scaled by as
much as the other axis is. -/
def resizedExtent (extent other requested requestedOther : Nat) : Nat :=
  if requested = 0 then
    max 1 (Rounding.nearest.clampedNat maxExtent
      (nearestDouble extent * (nearestDouble requestedOther / nearestDouble other)))
  else requested

lemma resizedExtent_of_ne_zero {requested : Nat} (h : requested ≠ 0)
    (extent other requestedOther : Nat) :
    resizedExtent extent other requested requestedOther = requested :=
  if_neg h

lemma resizedExtent_pos (extent other requested requestedOther : Nat) :
    0 < resizedExtent extent other requested requestedOther := by
  unfold resizedExtent
  split
  · exact Nat.lt_of_lt_of_le Nat.zero_lt_one (Nat.le_max_left 1 _)
  · rename_i hrequested
    exact Nat.pos_of_ne_zero hrequested

section Pair

variable {m n : Nat}

/-- Two numerals with a comma between them. -/
lemma pair_eq_intercalate (m n : Nat) : s!"{m},{n}" = ",".intercalate ([m, n].map toString) := by
  show toString m ++ "," ++ toString n = _
  rw [← String.toList_inj, String.toList_intercalate]
  simp

/-- There are two entries, and so they are not the word for the factor. -/
lemma trim_pair_ne_auto (m n : Nat) : Text.trim s!"{m},{n}" ≠ "auto" := by
  intro hauto
  have hentries := resolutionEntries_of_auto hauto
  rw [pair_eq_intercalate, resolutionEntries_intercalate (List.cons_ne_nil m [n])] at hentries
  simpa using congrArg List.length hentries

lemma asksFor_pair_iff {requested : List Nat} :
    AsksFor s!"{m},{n}" requested ↔ (m ≤ maxExtent ∧ n ≤ maxExtent) ∧ [m, n] = requested := by
  rw [pair_eq_intercalate, asksFor_intercalate_iff (List.cons_ne_nil m [n])]
  simp

lemma length_pair_le (hm : m ≤ maxExtent) (hn : n ≤ maxExtent) : s!"{m},{n}".length ≤ 256 := by
  have hdigits : ∀ k ≤ maxExtent, (toString k).length ≤ 20 := by
    intro k hk
    rw [Nat.toString_eq_ofList_toDigits, String.length_ofList]
    exact Nat.toDigits_length 10 k 20 (by decide) (Nat.lt_of_le_of_lt hk (by decide))
  have hmdigits := hdigits m hm
  have hndigits := hdigits n hn
  show (toString m ++ "," ++ toString n).length ≤ 256
  rw [String.length_append, String.length_append]
  have hcomma : ",".length = 1 := rfl
  omega

/-- An extent of zero follows the other one, and any other extent is kept. -/
lemma requestedExtents_pair (hm : m ≤ maxExtent) (hn : n ≤ maxExtent) (hzero : m ≠ 0 ∨ n ≠ 0) :
    requestedExtents [width, height] s!"{m},{n}" =
      .ok [resizedExtent width height m n, resizedExtent height width n m] := by
  have hlength : [m, n].length = [width, height].length := rfl
  rw [(asksFor_pair_iff.2 ⟨⟨hm, hn⟩, rfl⟩).requestedExtents_eq, if_neg (not_not.2 hlength)]
  by_cases hm0 : m = 0
  · subst hm0
    have hn0 : n ≠ 0 := by simpa using hzero
    simp [completeExtents, hn0, scaleExtents, resizedExtent]
  · by_cases hn0 : n = 0
    · subst hn0
      simp [completeExtents, hm0, scaleExtents, resizedExtent]
    · rw [resizedExtent_of_ne_zero hm0, resizedExtent_of_ne_zero hn0]
      simp [hm0, hn0]

end Pair

/-! ## Resizing -/

section Resizing

variable {transform : LineTransform}

/-- If resizing an image does not fail, its shape is taken, and new extents are found whose cells
can be counted. -/
lemma Algorithm.exists_target_of_resized {image : Image} {o : Options} {outputs : List Output}
    (h : applyNamed transform "resize" o [image] = .ok outputs) :
    resize.takesShape image.shape = true ∧ ∃ factor text, ∃ target : Shape,
      (resize.schema.finalize o).text "exact_res" = .ok text ∧
        targetExtents image.shape factor text = .ok target ∧
          target.isCountable = true := by
  rw [show ("resize" : String) = resize.name from rfl, applyNamed_name] at h
  obtain ⟨hrejects, hsize⟩ := accepts_of_applyChecked h
  have hcheck : resize.capabilities.check [image] = .ok () :=
    by_contra fun hcheck => hrejects (.check hcheck)
  have hv : resize.schema.validate o = .ok () :=
    by_contra fun hv => hrejects (.options hv)
  obtain ⟨factor, text, way, hfactor, htext, -⟩ := exists_resizeSettings hv
  refine ⟨?_, factor, text, ?_⟩
  · by_contra hshape
    rw [check_singleton, if_neg hshape] at hcheck
    cases hcheck
  · cases htarget : targetExtents image.shape factor text with
    | ok target =>
      refine ⟨target, htext, rfl, ?_⟩
      by_contra hcount
      exact hsize ⟨image, List.mem_cons_self,
        .size hfactor htext htarget (Bool.eq_false_iff.2 hcount)⟩
    | error cause =>
      exact absurd (.stop List.mem_cons_self (.size hfactor htext htarget)) hrejects

/-- The text of a request is the one that is read. -/
lemma Algorithm.text_finalize_exactRes (text : String) :
    (resize.schema.finalize (.ofList [("exact_res", .text text)])).text "exact_res" = .ok text :=
  Options.text_eq_ok (Schema.finalize_extends _ _ _ _ (Options.get?_insert _ _ _ _))

lemma Algorithm.validate_exactRes {text : String} (hpos : 1 ≤ text.length)
    (hle : text.length ≤ 256) :
    resize.schema.validate (.ofList [("exact_res", .text text)]) = .ok () := by
  refine (schema_wellFormed resize).toDistinct.validate_insert (o := .empty) rfl rfl ?_
  refine OptionNode.fault?_eq_none_iff.2 (.text fun bounds hbounds => ?_)
  obtain rfl := Option.mem_some_iff.1 hbounds
  exact ⟨hpos, hle⟩

/-- A row of bytes is a picture with pixels, and the extents that are asked for are machine words,
not both of them zero, that do not lead to more pixels than can be counted. -/
structure IsResizable (newWidth newHeight width height : Nat) (bytes : List Byte) : Prop where
  length_eq : bytes.length = width * height * 4
  width_pos : 0 < width
  height_pos : 0 < height
  newWidth_le : newWidth ≤ maxExtent
  newHeight_le : newHeight ≤ maxExtent
  some_ne_zero : newWidth ≠ 0 ∨ newHeight ≠ 0
  isCountable : Shape.isCountable [resizedExtent width height newWidth newHeight,
    resizedExtent height width newHeight newWidth] = true

variable {newWidth newHeight : Nat}

lemma IsResizable.exists_resizeRgba (transform : LineTransform)
    (h : IsResizable newWidth newHeight width height bytes) :
    ∃ out, resizeRgba transform newWidth newHeight width height bytes = some out ∧
      out.length = resizedExtent width height newWidth newHeight *
        resizedExtent height width newHeight newWidth * 4 := by
  obtain ⟨grid, hbytes⟩ := exists_grid_iff.2 h.length_eq
  have hasks : AsksFor s!"{newWidth},{newHeight}" [newWidth, newHeight] :=
    asksFor_pair_iff.2 ⟨⟨h.newWidth_le, h.newHeight_le⟩, rfl⟩
  have hpos : 1 ≤ s!"{newWidth},{newHeight}".length :=
    Nat.pos_of_ne_zero fun hzero => hasks.ne_empty (String.length_eq_zero_iff.1 hzero)
  have hv := Algorithm.validate_exactRes hpos (length_pair_le h.newWidth_le h.newHeight_le)
  have hsolid : ∀ n ∈ [width, height], 0 < n := by
    simpa using ⟨h.width_pos, h.height_pos⟩
  have htype : PixelType.rgba ∈ Algorithm.resize.types := by decide
  obtain ⟨factor, text, way, -, htext, hresized⟩ :=
    @Algorithm.exists_resized ⟨.rgba, [width, height], grid⟩ _ transform
      (List.cons_ne_nil width [height]) hsolid htype hv
  obtain rfl := Except.ok.inj ((Algorithm.text_finalize_exactRes _).symm.trans htext)
  rw [targetExtents, if_neg (trim_pair_ne_auto _ _),
    requestedExtents_pair h.newWidth_le h.newHeight_le h.some_ne_zero] at hresized
  obtain ⟨resized, -, happlied⟩ := (hresized _ rfl).1 h.isCountable
  refine ⟨resized.toList.flatMap Rgba.bytes, ?_, ?_⟩
  · exact applyToRgba_eq_some_iff.2 ⟨grid, hbytes, _, _, happlied, rfl, rfl⟩
  · exact resized.length_flatMap_bytes

lemma isResizable_of_resizeRgba
    (h : resizeRgba transform newWidth newHeight width height bytes = some out) :
    IsResizable newWidth newHeight width height bytes := by
  obtain ⟨grid, hbytes, outputs, output, happlied, -, -⟩ := applyToRgba_eq_some_iff.1 h
  obtain ⟨hshape, factor, text, target, htext, htarget, hcount⟩ :=
    Algorithm.exists_target_of_resized happlied
  obtain rfl := Except.ok.inj ((Algorithm.text_finalize_exactRes _).symm.trans htext)
  have hsolid : 0 < width ∧ 0 < height := by
    simpa [Algorithm.takesShape, Algorithm.isSolid] using hshape
  rw [targetExtents, if_neg (trim_pair_ne_auto _ _)] at htarget
  obtain ⟨requested, hasks, hmet⟩ := requestedExtents_eq_ok_iff.1 ⟨target, htarget⟩
  obtain ⟨⟨hwidth, hheight⟩, rfl⟩ := asksFor_pair_iff.1 hasks
  have hzero : newWidth ≠ 0 ∨ newHeight ≠ 0 := by
    by_contra hzero
    push Not at hzero
    obtain ⟨rfl, rfl⟩ := hzero
    exact absurd (hmet.zeros List.mem_cons_self) (by decide)
  rw [requestedExtents_pair hwidth hheight hzero] at htarget
  obtain rfl := Except.ok.inj htarget
  exact ⟨exists_grid_iff.1 ⟨grid, hbytes⟩, hsolid.1, hsolid.2, hwidth, hheight, hzero, hcount⟩

/-- **How large a resized picture is.**  A picture is resized exactly if it has pixels and the
extents that are asked for are machine words that are not both zero and lead to a number of pixels
that can be counted.  The row of bytes then holds four for each pixel of the new extents, where an
extent of zero has become the one that follows the other; so it is as long as was asked for exactly
if neither extent is zero. -/
theorem resizeRgba_size (transform : LineTransform) (newWidth newHeight width height : Nat)
    (bytes : List Byte) :
    ((∃ out, resizeRgba transform newWidth newHeight width height bytes = some out) ↔
      IsResizable newWidth newHeight width height bytes) ∧
    ∀ out, resizeRgba transform newWidth newHeight width height bytes = some out →
      out.length = resizedExtent width height newWidth newHeight *
        resizedExtent height width newHeight newWidth * 4 ∧
      (out.length = newWidth * newHeight * 4 ↔ newWidth ≠ 0 ∧ newHeight ≠ 0) := by
  constructor
  · constructor
    · rintro ⟨out, hout⟩
      exact isResizable_of_resizeRgba hout
    · intro h
      obtain ⟨out, hout, -⟩ := h.exists_resizeRgba transform
      exact ⟨out, hout⟩
  · intro out hout
    obtain ⟨found, hfound, hlength⟩ :=
      (isResizable_of_resizeRgba hout).exists_resizeRgba transform
    obtain rfl := Option.some.inj (hfound.symm.trans hout)
    refine ⟨hlength, ?_⟩
    constructor
    · intro hasked
      have hpos : 0 < newWidth * newHeight * 4 := by
        rw [← hasked, hlength]
        exact Nat.mul_pos (Nat.mul_pos (resizedExtent_pos _ _ _ _) (resizedExtent_pos _ _ _ _))
          (Nat.succ_pos 3)
      constructor
      · rintro rfl
        simp at hpos
      · rintro rfl
        simp at hpos
    · rintro ⟨hwidth, hheight⟩
      rw [hlength, resizedExtent_of_ne_zero hwidth, resizedExtent_of_ne_zero hheight]

/-- A pixel that is made two pixels wide becomes two pixels high as well, although no height is
asked for. -/
theorem resizeRgba_size_two_by_zero :
    ∃ out, resizeRgba LineTransform.direct 2 0 1 1 [1, 2, 3, 4] = some out ∧
      out.length = 2 * 2 * 4 ∧ out.length ≠ 2 * 0 * 4 := by
  obtain ⟨hresized, hsize⟩ := resizeRgba_size LineTransform.direct 2 0 1 1 [1, 2, 3, 4]
  have hwidth : resizedExtent 1 1 2 0 = 2 := rfl
  have hheight : resizedExtent 1 1 0 2 = 2 := by decide +kernel
  have hcount : Shape.isCountable [resizedExtent 1 1 2 0, resizedExtent 1 1 0 2] = true := by
    rw [hwidth, hheight]
    decide
  obtain ⟨out, hout⟩ :=
    hresized.2 ⟨rfl, by decide, by decide, by decide, by decide, Or.inl (by decide), hcount⟩
  obtain ⟨hlength, hasked⟩ := hsize out hout
  rw [hwidth, hheight] at hlength
  exact ⟨out, hout, hlength, fun h => (hasked.1 h).2 rfl⟩

end Resizing

end Raster
