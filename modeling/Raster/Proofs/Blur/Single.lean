import Raster.Proofs.Algorithm.Chain
import Raster.Proofs.Blur.Constant
import Raster.Proofs.Number.Nearest
/-!
# Blurring with a single weight

A kernel of one weight meets every sample alone, so what becomes of a pixel depends neither on the
other pixels nor on what lies beyond a line, and each axis does the same to it again
(`Grid.blurAxes_single`).  An intensity of zero makes this weight a one, whatever the shape of the
kernel is (`KernelShape.halfKernel_of_zero`).

The sum of a sample, taken once, is the sample.  So all that a blur of no intensity does to a
gray level or a colour byte is to turn it into a double and back, which does nothing to levels of
at most 32 bits, and nothing the second time to any level (`Algorithm.zeroBlur_keeps_doubles`).
-/

namespace Raster

variable {t : PixelType} {s : Shape} {b : Boundary}

/-! ## One weight -/

/-- A kernel of one weight meets the pixel under it alone. -/
lemma HalfKernel.get_convolveLine_single {n : Nat} (w : Float) (line : Vector t.Pixel n)
    (i : Fin n) : (convolveLine t [w] b line).get i = blurredPixel t [w] (line.get i) := by
  have hcentre : b.resolve i 0 = some i :=
    Boundary.resolve_of_some b (Boundary.place?_eq_some_iff.2 (Int.add_zero _))
  rw [get_convolveLine]
  refine congrArg t.ofSamples (congrArg Vector.ofFn (funext fun c => ?_))
  show contribution b line i c 0.0 (0, w) = _
  simp only [contribution, hcentre]
  rfl

namespace Grid

lemma blurAxis_single (w : Float) (g : Grid s t.Pixel) (axis : Fin s.length) :
    g.blurAxis [w] b axis = g.map (HalfKernel.blurredPixel t [w]) := by
  refine ext_get fun i => ?_
  rw [blurAxis, get_mapLines, HalfKernel.get_convolveLine_single, get_line, Shape.moved_component,
    get_map]

/-- Each axis does the same to every pixel. -/
lemma blurAxes_single (w : Float) (axes : List (Fin s.length)) (g : Grid s t.Pixel) :
    g.blurAxes [w] b axes = g.map (HalfKernel.blurredPixel t [w])^[axes.length] := by
  rw [blurAxes]
  induction axes generalizing g with
  | nil => simp [map]
  | cons axis axes ih =>
    rw [List.foldl_cons, blurAxis_single, ih, map_map, List.length_cons, Function.iterate_succ]

end Grid

/-! ## No intensity -/

/-- What equals zero is a zero of either sign. -/
lemma eq_zero_of_beq {x : Float} (h : (x == 0.0) = true) : x = 0.0 ∨ x = -0.0 := by
  have hzero : ∀ bits, x.toModel.toBits.toBitVec = bits → ∀ valid, x = ⟨⟨⟨bits⟩, valid⟩⟩ := by
    rintro _ rfl _
    rfl
  obtain ⟨-, -, hsame | ⟨-, hnegative⟩ | ⟨hnegative, -⟩⟩ :=
    (Float.Model.UnpackedFloat.unpack_beq_unpack_iff x.toModel.valid
      (0.0 : Float).toModel.valid).1 h
  · exact Or.inl (hzero _ hsame _)
  · exact absurd hnegative (by decide)
  · exact Or.inr (hzero _ hnegative _)

/-- Without intensity the sample itself is all that a kernel of either shape weighs. -/
lemma KernelShape.halfKernel_of_zero (shape : KernelShape) {x : Float} (h : (x == 0.0) = true) :
    shape.halfKernel x = .ok [1.0] := by
  rcases eq_zero_of_beq h with rfl | rfl
  · cases shape <;> decide +kernel
  · cases shape <;> decide +kernel

/-! ## Pixels of levels -/

namespace PixelType

/-- Whether the samples of a pixel are gray levels or colour bytes. -/
def isInteger : PixelType → Bool
  | gray _ | grayAlpha | rgb | rgba => true
  | real _ | complex _ => false

/-- The sum of a level, taken once, is the double of the level. -/
lemma sum_levelDouble {d : Depth} (v : d.Level) : 0.0 + 1.0 * levelDouble v = levelDouble v := by
  obtain ⟨k, hk, hlt⟩ := exists_nearestDouble_nat (toNat_lt v)
  have hrange : (k : ℚ) ≠ 0 → InRange k := by
    intro hne
    have hone : (1 : ℚ) ≤ k := by exact_mod_cast Nat.pos_of_ne_zero (by exact_mod_cast hne)
    have hhigh : (k : ℚ) ≤ 2 ^ 65 := by exact_mod_cast hlt.le
    exact inRange_of_bounds (by norm_num; linarith) (by norm_num; linarith)
  have hlevel : HasValue (levelDouble v) k := hk
  rw [hlevel.one_mul hrange, hlevel.zero_add]

/-- All samples of such a pixel are levels. -/
lemma exists_levelDouble (ht : t.isInteger = true) (p : t.Pixel) {c : Nat} (hc : c < t.channels) :
    ∃ (d : Depth) (v : d.Level), (t.samples p)[c] = levelDouble v := by
  cases t with
  | gray d =>
    obtain rfl := Nat.lt_one_iff.1 hc
    exact ⟨d, p, rfl⟩
  | grayAlpha =>
    obtain rfl | rfl : c = 0 ∨ c = 1 := by change c < 2 at hc; omega
    · exact ⟨.eight, p.gray, rfl⟩
    · exact ⟨.eight, p.alpha, rfl⟩
  | rgb =>
    obtain rfl | rfl | rfl : c = 0 ∨ c = 1 ∨ c = 2 := by change c < 3 at hc; omega
    · exact ⟨.eight, p.red, rfl⟩
    · exact ⟨.eight, p.green, rfl⟩
    · exact ⟨.eight, p.blue, rfl⟩
  | rgba =>
    obtain rfl | rfl | rfl | rfl : c = 0 ∨ c = 1 ∨ c = 2 ∨ c = 3 := by change c < 4 at hc; omega
    · exact ⟨.eight, p.red, rfl⟩
    · exact ⟨.eight, p.green, rfl⟩
    · exact ⟨.eight, p.blue, rfl⟩
    · exact ⟨.eight, p.alpha, rfl⟩
  | real | complex => cases ht

/-- Summed up with a weight of one, a pixel is taken apart and put together again. -/
lemma blurredPixel_one (ht : t.isInteger = true) (p : t.Pixel) :
    HalfKernel.blurredPixel t [1.0] p = t.ofSamples (t.samples p) := by
  refine congrArg t.ofSamples (Vector.ext fun c hc => ?_)
  obtain ⟨d, v, hv⟩ := exists_levelDouble ht p hc
  rw [Vector.getElem_ofFn, hv, ← sum_levelDouble v, ← hv]
  rfl

/-- Levels of at most 32 bits are put together as they were. -/
lemma ofSamples_samples (ht : t.isInteger = true) (hlarge : t ≠ .gray .sixtyFour) (p : t.Pixel) :
    t.ofSamples (t.samples p) = p := by
  have hbyte : ∀ v : Byte, Byte.quantize (levelDouble v) = v :=
    Depth.viaDouble_of_ne (d := .eight) (by decide)
  cases t with
  | gray d => exact Depth.viaDouble_of_ne (fun hd => hlarge (congrArg gray hd)) p
  | grayAlpha =>
    show GrayAlpha.mk (Byte.quantize (levelDouble p.gray)) (Byte.quantize (levelDouble p.alpha)) = p
    rw [hbyte, hbyte]
  | rgb =>
    show Rgb.mk (Byte.quantize (levelDouble p.red)) (Byte.quantize (levelDouble p.green))
      (Byte.quantize (levelDouble p.blue)) = p
    rw [hbyte, hbyte, hbyte]
  | rgba =>
    show Rgba.mk (Byte.quantize (levelDouble p.red)) (Byte.quantize (levelDouble p.green))
      (Byte.quantize (levelDouble p.blue)) (Byte.quantize (levelDouble p.alpha)) = p
    rw [hbyte, hbyte, hbyte, hbyte]
  | real | complex => cases ht

end PixelType

/-! ## The algorithm -/

namespace BlurSettings

variable {rank : Nat} {o : Options} {settings : BlurSettings}

/-- The settings have the intensity that the options give, and an axis of the image if any. -/
lemma of_ofOptions (h : ofOptions rank o = .ok settings) :
    o.double "intensity" = .ok settings.intensity ∧
      ∀ axis, settings.axis = some axis → axis < rank := by
  obtain ⟨intensity, hintensity, h⟩ := exists_of_bind_eq_ok h
  obtain ⟨filter, -, h⟩ := exists_of_bind_eq_ok h
  obtain ⟨kernel, -, h⟩ := exists_of_bind_eq_ok h
  obtain ⟨bound, -, h⟩ := exists_of_bind_eq_ok h
  obtain ⟨boundary, -, h⟩ := exists_of_bind_eq_ok h
  obtain ⟨oneDim, -, h⟩ := exists_of_bind_eq_ok h
  cases oneDim with
  | false =>
    obtain rfl := Except.ok.inj h
    exact ⟨hintensity, fun axis haxis => by cases haxis⟩
  | true =>
    obtain ⟨axis, -, h⟩ := exists_of_bind_eq_ok h
    by_cases haxis : 0 ≤ axis ∧ axis < rank
    · rw [if_pos haxis] at h
      obtain rfl := Except.ok.inj h
      refine ⟨hintensity, fun n hn => ?_⟩
      obtain rfl := Option.some.inj hn
      omega
    · rw [if_neg haxis] at h
      cases h

/-- An image with axes is blurred along one of them at least. -/
lemma exists_length_axes (hs : s ≠ []) (h : ∀ axis, settings.axis = some axis → axis < s.length) :
    ∃ n, (settings.axes s).length = n + 1 := by
  refine Nat.exists_eq_add_one.2 ?_
  rw [axes]
  cases haxis : settings.axis with
  | none => simpa using List.length_pos_iff.2 hs
  | some axis => simp [h axis haxis]

end BlurSettings

namespace Algorithm

variable {transform : LineTransform} {o : Options} {x : Float}

/-- A double that is given is still there when the defaults are filled in. -/
lemma double_finalize {schema : Schema} {key : String} (h : o.double key = .ok x) :
    (schema.finalize o).double key = .ok x := by
  obtain ⟨value, hvalue, hdouble⟩ := Options.exists_of_double_eq_ok h
  exact Options.double_eq_ok (schema.finalize_extends o _ _ hvalue) hdouble

/-- Every pixel type is blurred. -/
lemma applyNamed_blur_eq_run (hs : isSolid s = true) (hv : blur.schema.validate o = .ok ())
    (g : Grid s t.Pixel) :
    applyNamed transform "blur" o [⟨t, s, g⟩] =
      blur.run transform (blur.schema.finalize o) ⟨t, s, g⟩ := by
  refine applyNamed_eq_run (a := .blur) ?_ hv ?_
  · exact hs
  · exact PixelType.mem_all t

/-- A blur is refused for an image without axes, and for an axis that is not there. -/
lemma exists_refusal_of_blur (hs : ∀ n ∈ s, 0 < n) (hv : blur.schema.validate o = .ok ())
    (h : s = [] ∨ MissesAxis (blur.schema.finalize o) s.length) (g : Grid s t.Pixel) :
    ∃ cause, applyNamed transform "blur" o [⟨t, s, g⟩] = .error (.unsupported cause) := by
  by_cases hne : s = []
  · subst hne
    exact ⟨_, applyNamed_singleton blur o ⟨t, [], g⟩⟩
  · have hsolid : isSolid s = true := by simpa [isSolid] using ⟨hne, hs⟩
    rcases blurSettings_cases hv s.length with ⟨hpresent, -⟩ | ⟨-, axis, hrefused⟩
    · exact absurd (h.resolve_left hne) hpresent
    · rw [applyNamed_blur_eq_run hsolid hv]
      simp only [run, hrefused]
      exact ⟨_, rfl⟩

section NoIntensity

variable (hv : blur.schema.validate o = .ok ()) (hx : o.double "intensity" = .ok x)
  (hzero : (x == 0.0) = true)

include hv hx hzero

/-- Without intensity a blur does the same to every pixel, once for each axis. -/
lemma exists_applyNamed_zeroBlur (hs : isSolid s = true)
    (haxis : ¬MissesAxis (blur.schema.finalize o) s.length) :
    ∃ n, ∀ (t : PixelType) (g : Grid s t.Pixel), applyNamed transform "blur" o [⟨t, s, g⟩] =
      .ok (singleOutput (.fresh ⟨t, s, g.map (HalfKernel.blurredPixel t [1.0])^[n + 1]⟩)) := by
  have hne : s ≠ [] := by
    rintro rfl
    cases hs
  rcases blurSettings_cases hv s.length with ⟨-, settings, hsettings, -⟩ | ⟨hmissing, -⟩
  · obtain ⟨hintensity, hbound⟩ := BlurSettings.of_ofOptions hsettings
    obtain ⟨n, hn⟩ := BlurSettings.exists_length_axes hne hbound
    have hsame : settings.intensity = x :=
      Except.ok.inj (hintensity.symm.trans (double_finalize hx))
    refine ⟨n, fun t g => ?_⟩
    rw [applyNamed_blur_eq_run hs hv]
    simp only [run, hsettings, Image.blur, hsame, settings.kernel.halfKernel_of_zero hzero,
      orRefuse, orFault, Except.mapError, bind, Except.bind, Grid.blurAxes_single, hn]
    rfl
  · exact absurd hmissing haxis

/-- Without intensity gray levels are turned into doubles and back, once. -/
lemma applyNamed_zeroBlur_gray (hs : isSolid s = true)
    (haxis : ¬MissesAxis (blur.schema.finalize o) s.length) {d : Depth} (g : Grid s d.Level) :
    applyNamed transform "blur" o [⟨.gray d, s, g⟩] =
      .ok (singleOutput (.fresh ⟨.gray d, s, g.map d.viaDouble⟩)) := by
  obtain ⟨n, hrun⟩ := exists_applyNamed_zeroBlur hv hx hzero hs haxis
  have honce : HalfKernel.blurredPixel (.gray d) [1.0] = d.viaDouble :=
    funext fun v => PixelType.blurredPixel_one rfl v
  have hagain : d.viaDouble^[n + 1] = d.viaDouble := by
    funext v
    rw [Function.iterate_succ_apply, Function.iterate_fixed (Depth.viaDouble_viaDouble v)]
  rw [hrun, honce, hagain]

/-- Without intensity levels of at most 32 bits are left as they were. -/
lemma applyNamed_zeroBlur_of_ne (hs : isSolid s = true)
    (haxis : ¬MissesAxis (blur.schema.finalize o) s.length) (ht : t.isInteger = true)
    (hlarge : t ≠ .gray .sixtyFour) (g : Grid s t.Pixel) :
    applyNamed transform "blur" o [⟨t, s, g⟩] = .ok (singleOutput (.fresh ⟨t, s, g⟩)) := by
  obtain ⟨n, hrun⟩ := exists_applyNamed_zeroBlur hv hx hzero hs haxis
  have honce : HalfKernel.blurredPixel t [1.0] = id := by
    funext p
    rw [PixelType.blurredPixel_one ht, PixelType.ofSamples_samples ht hlarge, id]
  have hsame : g.map id = g := by simp [Grid.map]
  rw [hrun, honce, Function.iterate_id, hsame]

end NoIntensity

/-- **A blur of no intensity changes only what a double cannot hold.**  Both kernels have a single
weight of one.  A blur of an image without empty axes, with options that the schema accepts, is
refused if the image has no axis at all or not the one that is named.  Otherwise an image of levels
of at most 32 bits comes out as it was, as a copy.  With 64 bits every level is rounded once to 53
binary digits, however many axes there are, but not above the greatest level; so this one is left
alone, and so are exactly the levels of at most 53 digits with zeros behind them. -/
theorem zeroBlur_keeps_doubles (transform : LineTransform) {s : Shape} {o : Options} {x : Float}
    (hs : ∀ n ∈ s, 0 < n) (hv : blur.schema.validate o = .ok ())
    (hx : o.double "intensity" = .ok x) (hzero : (x == 0.0) = true) :
    (∀ kernel : KernelShape, kernel.halfKernel x = .ok [1.0]) ∧
    (s = [] ∨ MissesAxis (blur.schema.finalize o) s.length →
      ∀ (t : PixelType) (g : Grid s t.Pixel), ∃ cause,
        applyNamed transform "blur" o [⟨t, s, g⟩] = .error (.unsupported cause)) ∧
    (s ≠ [] → ¬MissesAxis (blur.schema.finalize o) s.length →
      (∀ (t : PixelType) (g : Grid s t.Pixel), t.isInteger = true → t ≠ .gray .sixtyFour →
        applyNamed transform "blur" o [⟨t, s, g⟩] = .ok (singleOutput (.fresh ⟨t, s, g⟩))) ∧
      ∃ f : Depth.sixtyFour.Level → Depth.sixtyFour.Level,
        (∀ g : Grid s Depth.sixtyFour.Level,
          applyNamed transform "blur" o [⟨.gray .sixtyFour, s, g⟩] =
            .ok (singleOutput (.fresh ⟨.gray .sixtyFour, s, g.map f⟩))) ∧
        ∀ v, (f v = v ↔ v.toNat = Depth.sixtyFour.top ∨
            ∃ m e : ℕ, m < 2 ^ 53 ∧ v.toNat = m * 2 ^ e) ∧
          (2 ^ 53 ≤ v.toNat → ∃ k : ℕ, IsRounded v.toNat k ∧
            (f v).toNat = min Depth.sixtyFour.top k)) := by
  refine ⟨fun kernel => kernel.halfKernel_of_zero hzero,
    fun hrefused t g => exists_refusal_of_blur hs hv hrefused g, fun hne haxis => ?_⟩
  have hsolid : isSolid s = true := by simpa [isSolid] using ⟨hne, hs⟩
  refine ⟨fun t g ht hlarge => applyNamed_zeroBlur_of_ne hv hx hzero hsolid haxis ht hlarge g,
    Depth.sixtyFour.viaDouble, applyNamed_zeroBlur_gray hv hx hzero hsolid haxis, fun v => ?_⟩
  exact ⟨Depth.viaDouble_eq_self_iff, Depth.exists_toNat_viaDouble⟩

/-- Along the second of two axes a colour is left alone.  Of two levels of 64 bits the one with 54
digits loses its last bit; the other one is left alone. -/
theorem zeroBlur_keeps_doubles_two_by_one :
    let o := Options.ofList [("intensity", .int 0), ("filter", .text "gauss"),
      ("bound_condition", .text "zero"), ("one_dim", .bool true), ("dim_idx", .int 1)]
    let x := intDouble 0
    let g : Grid [2, 1] Depth.sixtyFour.Level := ⟨#v[9007199254740993, 7]⟩
    let colours : Grid [2, 1] Rgb := ⟨#v[⟨1, 2, 255⟩, ⟨0, 128, 77⟩]⟩
    ((∀ n ∈ ([2, 1] : Shape), 0 < n) ∧ blur.schema.validate o = .ok () ∧
      o.double "intensity" = .ok x ∧ (x == 0.0) = true) ∧
    applyNamed LineTransform.direct "blur" o [⟨.rgb, [2, 1], colours⟩] =
      .ok (singleOutput (.fresh ⟨.rgb, [2, 1], colours⟩)) ∧
    ∃ f : Depth.sixtyFour.Level → Depth.sixtyFour.Level,
      applyNamed LineTransform.direct "blur" o [⟨.gray .sixtyFour, [2, 1], g⟩] =
        .ok (singleOutput (.fresh ⟨.gray .sixtyFour, [2, 1], g.map f⟩)) ∧
      f 9007199254740993 ≠ 9007199254740993 ∧ f 7 = 7 := by
  intro o x g colours
  have hs : ∀ n ∈ ([2, 1] : Shape), 0 < n := by decide
  have hv : blur.schema.validate o = .ok () := rfl
  have hx : o.double "intensity" = .ok x := rfl
  have hzero : (x == 0.0) = true := by decide +kernel
  have haxis : ¬MissesAxis (blur.schema.finalize o) ([2, 1] : Shape).length := by
    rintro ⟨axis, -, hvalue, hle⟩
    obtain rfl : 1 = axis := by
      have hone : (blur.schema.finalize o).get? "dim_idx" = some (.int 1) := rfl
      rw [hone] at hvalue
      cases hvalue
      rfl
    exact absurd hle (by decide)
  obtain ⟨-, -, hkept⟩ := zeroBlur_keeps_doubles LineTransform.direct hs hv hx hzero
  obtain ⟨hsmall, f, hrun, hlevels⟩ := hkept (by decide) haxis
  refine ⟨⟨hs, hv, hx, hzero⟩, hsmall .rgb colours rfl (by decide), f, hrun g, ?_, ?_⟩
  · rw [Ne, (hlevels _).1]
    rintro (htop | ⟨m, e, hm, hvalue⟩)
    · exact absurd htop (by decide)
    · change 9007199254740993 = m * 2 ^ e at hvalue
      cases e with
      | zero => omega
      | succ e =>
        rw [Nat.pow_succ, ← Nat.mul_assoc] at hvalue
        omega
  · exact (hlevels _).1.2 (Or.inr ⟨7, 0, by decide, rfl⟩)

/-- A level of 64 bits loses its last bit. -/
theorem zeroBlur_loses_last_bit :
    let o := Options.ofList [("intensity", .double 0.0), ("filter", .text "box"),
      ("bound_condition", .text "nearest"), ("one_dim", .bool false)]
    ∃ h : Grid [1] Depth.sixtyFour.Level,
      applyNamed LineTransform.direct "blur" o
          [⟨.gray .sixtyFour, [1], ⟨#v[9007199254740993]⟩⟩] =
        .ok (singleOutput (.fresh ⟨.gray .sixtyFour, [1], h⟩)) ∧
      h.toList.map BitVec.toNat = [9007199254740992] ∧ 9007199254740992 ≠ 9007199254740993 := by
  intro o
  have hv : blur.schema.validate o = .ok () := rfl
  have hx : o.double "intensity" = .ok 0.0 := rfl
  have haxis : ¬MissesAxis (blur.schema.finalize o) ([1] : Shape).length := by
    rintro ⟨axis, hon, -⟩
    have hoff : (blur.schema.finalize o).get? "one_dim" = some (.bool false) := rfl
    rw [hoff] at hon
    cases hon
  exact ⟨_, applyNamed_zeroBlur_gray hv hx (by decide +kernel) rfl haxis _, by decide +kernel,
    by decide⟩

end Algorithm

end Raster
