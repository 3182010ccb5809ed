import Raster.Algorithm.Apply
import Raster.Proofs.Number.Magnitude
import Raster.Proofs.Schema.Reading
/-!
# Settings of an algorithm

Each algorithm declares its options in a schema and reads them on its own.  For an option map
that the schema accepts, with the defaults filled in, the two agree: reading the settings can
fail only with what the schema cannot say, the axis of a blur and the size of a resized image.
-/

namespace Raster

/-- The schemas of the algorithms repeat no key, and their defaults pass their own checks. -/
lemma Algorithm.schema_wellFormed (a : Algorithm) : a.schema.WellFormed := by
  cases a <;> decide +kernel

/-! ## Names

Each name that a schema offers for a choice is one that the algorithm knows. -/

lemma KernelShape.exists_ofName {t : String} (h : t ∈ ["box", "gauss"]) :
    ∃ kernel, KernelShape.ofName t = .ok kernel :=
  exists_ok_of_all rfl h

lemma Boundary.exists_ofName {t : String} (h : t ∈ ["zero", "mirror", "nearest"]) :
    ∃ boundary, Boundary.ofName t = .ok boundary :=
  exists_ok_of_all rfl h

lemma Direction.exists_ofName {t : String} (h : t ∈ ["forward", "backward"]) :
    ∃ direction, Direction.ofName t = .ok direction :=
  exists_ok_of_all rfl h

lemma AntiAliasing.exists_ofName {t : String} (h : t ∈ ["none", "fast", "clever"]) :
    ∃ way, AntiAliasing.ofName t = .ok way :=
  exists_ok_of_all rfl h

lemma Remapping.exists_ofName {t : String}
    (h : t ∈ ["identity", "linear_stretch", "abs", "negative"]) :
    ∃ f, Remapping.ofName t = .ok f :=
  exists_ok_of_all rfl h

lemma PixelType.exists_ofName {t : String} (h : t ∈ PixelType.all.map PixelType.name) :
    ∃ type, PixelType.ofName t = .ok type :=
  exists_ok_of_all (by decide +kernel) h

/-! ## Conversions -/

/-- A schema that contains the options of a conversion lets them be read. -/
lemma Conversion.exists_ofOptions {s : Schema} {o : Options} (hs : s.WellFormed)
    (hv : s.validate o = .ok ())
    (hsub : ∀ key p, Algorithm.conversionSchema.find? key = some p → s.find? key = some p) :
    ∃ c, Conversion.ofOptions (s.finalize o) = .ok c := by
  obtain ⟨rescale, hrescale⟩ := hs.exists_bool hv "rescale" (hsub _ _ rfl)
  obtain ⟨gray, hgray⟩ := hs.exists_byte hv "gray_bg" (hsub _ _ rfl)
  obtain ⟨red, hred⟩ := hs.exists_byte hv "red_bg" (hsub _ _ rfl)
  obtain ⟨green, hgreen⟩ := hs.exists_byte hv "green_bg" (hsub _ _ rfl)
  obtain ⟨blue, hblue⟩ := hs.exists_byte hv "blue_bg" (hsub _ _ rfl)
  obtain ⟨redWeight, hredWeight, -⟩ := hs.exists_double hv "red_mult" (hsub _ _ rfl)
  obtain ⟨greenWeight, hgreenWeight, -⟩ := hs.exists_double hv "green_mult" (hsub _ _ rfl)
  obtain ⟨blueWeight, hblueWeight, -⟩ := hs.exists_double hv "blue_mult" (hsub _ _ rfl)
  refine ⟨⟨rescale, gray, ⟨red, green, blue⟩, redWeight, greenWeight, blueWeight⟩, ?_⟩
  rw [Conversion.ofOptions, hrescale, hgray, hred, hgreen, hblue, hredWeight, hgreenWeight,
    hblueWeight]
  rfl

namespace Algorithm

variable {o : Options}

lemma exists_conversion (hv : toGray8.schema.validate o = .ok ()) :
    ∃ c, Conversion.ofOptions (toGray8.schema.finalize o) = .ok c :=
  Conversion.exists_ofOptions (schema_wellFormed toGray8) hv fun _ _ h => h

lemma exists_typeChange (hv : changeType.schema.validate o = .ok ()) :
    ∃ change, TypeChange.ofOptions (changeType.schema.finalize o) = .ok change := by
  have hs := schema_wellFormed changeType
  obtain ⟨t, ht, htext⟩ := hs.exists_choice hv "output_type" rfl
  have hsub : ∀ key p, conversionSchema.find? key = some p →
      changeType.schema.find? key = some p := by
    intro key p h
    -- the only key in front of those of a conversion is none of theirs
    have hkey : "output_type" ≠ key := by
      rintro rfl
      cases h
    show (if _ = key then _ else conversionSchema.find? key) = some p
    rw [if_neg hkey, h]
  obtain ⟨c, hc⟩ := Conversion.exists_ofOptions hs hv hsub
  rw [TypeChange.ofOptions, htext]
  by_cases hsame : t = sameAsInput
  · exact ⟨.keep, if_pos hsame⟩
  · rcases List.mem_cons.1 ht with ht | ht
    · exact absurd ht hsame
    · obtain ⟨type, htype⟩ := PixelType.exists_ofName ht
      refine ⟨.convert type c, ?_⟩
      show (if t = sameAsInput then _ else _) = _
      rw [if_neg hsame, htype, hc]
      rfl

/-! ## The other algorithms -/

lemma exists_spectrumSettings (hv : fourier.schema.validate o = .ok ()) :
    ∃ settings, SpectrumSettings.ofOptions (fourier.schema.finalize o) = .ok settings := by
  have hs := schema_wellFormed fourier
  obtain ⟨t, ht, htext⟩ := hs.exists_choice hv "direction" rfl
  obtain ⟨centred, hcentred⟩ := hs.exists_bool hv "shift" rfl
  obtain ⟨normalized, hnormalized⟩ := hs.exists_bool hv "normalize" rfl
  obtain ⟨direction, hdirection⟩ := Direction.exists_ofName ht
  refine ⟨⟨direction, centred, normalized⟩, ?_⟩
  rw [SpectrumSettings.ofOptions, htext, hcentred, hnormalized]
  show (Direction.ofName t).bind _ = _
  rw [hdirection]
  rfl

lemma exists_remapping (hv : unaryMath.schema.validate o = .ok ()) :
    ∃ f, ((unaryMath.schema.finalize o).text "function" >>= Remapping.ofName) = .ok f := by
  obtain ⟨t, ht, htext⟩ :=
    (schema_wellFormed unaryMath).exists_choice hv "function" rfl
  rw [htext]
  exact Remapping.exists_ofName ht

/-- Given complete options, the only axis to be blurred does not exist. -/
def MissesAxis (o : Options) (rank : Nat) : Prop :=
  ∃ axis : Int32, o.get? "one_dim" = some (.bool true) ∧
    o.get? "dim_idx" = some (.int axis) ∧ (rank : Int) ≤ axis.toInt

/-- The settings of a blur are read, with an intensity in range, or the axis is refused. -/
lemma blurSettings_cases (hv : blur.schema.validate o = .ok ()) (rank : Nat) :
    (¬MissesAxis (blur.schema.finalize o) rank ∧
      ∃ b, BlurSettings.ofOptions rank (blur.schema.finalize o) = .ok b ∧
        ¬b.intensity < 0.0 ∧ ¬(1000.0 : Float) < b.intensity) ∨
    (MissesAxis (blur.schema.finalize o) rank ∧
      ∃ axis, BlurSettings.ofOptions rank (blur.schema.finalize o) =
        .error (.blurAxis axis rank)) := by
  have hs := schema_wellFormed blur
  obtain ⟨intensity, hintensity, hrange⟩ := hs.exists_double hv "intensity" rfl
  obtain ⟨t, ht, htext⟩ := hs.exists_choice hv "filter" rfl
  obtain ⟨kernel, hkernel⟩ := KernelShape.exists_ofName ht
  obtain ⟨u, hu, hutext⟩ := hs.exists_choice hv "bound_condition" rfl
  obtain ⟨boundary, hboundary⟩ := Boundary.exists_ofName hu
  obtain ⟨oneDim, honeDim⟩ := hs.exists_gate hv "one_dim" rfl
  have hread : BlurSettings.ofOptions rank (blur.schema.finalize o) =
      (if oneDim then do
        let axis ← (blur.schema.finalize o).int "dim_idx"
        if 0 ≤ axis ∧ axis < rank then
          return ⟨kernel, intensity, boundary, some axis.toNat⟩
        else throw (.blurAxis axis rank)
      else return ⟨kernel, intensity, boundary, none⟩) := by
    rw [BlurSettings.ofOptions, hintensity, htext, hutext, Options.bool_eq_ok honeDim]
    simp only [bind, Except.bind, hkernel, hboundary]
  rw [hread]
  cases oneDim with
  | false =>
    refine Or.inl ⟨?_, ⟨kernel, intensity, boundary, none⟩, rfl, hrange⟩
    rintro ⟨axis, hon, -, -⟩
    rw [honeDim] at hon
    cases hon
  | true =>
    -- the gate is on, so the axis has a value
    obtain ⟨axis, haxis, hnonneg, -⟩ := hs.exists_int hv "dim_idx" rfl (by
      intro g hg
      rw [List.mem_singleton.1 hg]
      exact Options.isOn_iff.2 honeDim)
    change 0 ≤ axis.toInt at hnonneg
    rw [Options.int_eq_ok haxis]
    by_cases hlt : axis.toInt < rank
    · refine Or.inl ⟨?_, ⟨kernel, intensity, boundary, some axis.toInt.toNat⟩, ?_, hrange⟩
      · rintro ⟨axis', -, haxis', hle⟩
        rw [haxis] at haxis'
        cases haxis'
        omega
      · show (if 0 ≤ axis.toInt ∧ axis.toInt < rank then _ else _) = _
        rw [if_pos ⟨hnonneg, hlt⟩]
        rfl
    · refine Or.inr ⟨⟨axis, honeDim, haxis, by omega⟩, axis.toInt, ?_⟩
      show (if 0 ≤ axis.toInt ∧ axis.toInt < rank then _ else _) = _
      rw [if_neg fun h => hlt h.2]
      rfl

/-- Reading the settings for resizing comes down to finding the new extents. -/
lemma exists_resizeSettings (hv : resize.schema.validate o = .ok ()) :
    ∃ factor text way, (resize.schema.finalize o).double "scale_factor" = .ok factor ∧
      (resize.schema.finalize o).text "exact_res" = .ok text ∧
        ∀ s, ResizeSettings.ofOptions s (resize.schema.finalize o) =
          (targetExtents s factor text).map fun target => ⟨target, way⟩ := by
  have hs := schema_wellFormed resize
  obtain ⟨factor, hfactor, -⟩ := hs.exists_double hv "scale_factor" rfl
  obtain ⟨text, htext⟩ := hs.exists_text hv "exact_res" rfl
  obtain ⟨t, ht, hway⟩ := hs.exists_choice hv "anti_aliasing" rfl
  obtain ⟨way, hname⟩ := AntiAliasing.exists_ofName ht
  obtain ⟨u, hu, hinterpolation⟩ := hs.exists_choice hv "interpolation" rfl
  rw [List.mem_singleton] at hu
  refine ⟨factor, text, way, hfactor, htext, fun s => ?_⟩
  rw [ResizeSettings.ofOptions, hfactor, htext, hway, hinterpolation, hu]
  cases htarget : targetExtents s factor text with
  | error cause => simp only [bind, Except.bind, htarget, Except.map]
  | ok target =>
    simp only [bind, Except.bind, htarget, hname, Except.map]
    rfl

end Algorithm

end Raster
