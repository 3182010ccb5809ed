import Raster.Intensity
import Raster.Proofs.Algorithm.Chain
import Raster.Proofs.Number.Level
/-!
# Stretching gray levels

A stretch finds the doubles of the lowest and of the highest level of an image
(`observedRange_levels`), and maps every level by itself (`Depth.stretched`).  The lowest level
becomes zero.  The highest one becomes the quotient of the upper end and the range, times the
range: that is the upper end up to two roundings.  With 32 bits at most this is nearer to the upper
end than a half.  With 64 bits the double of the upper end is `2 ^ 64`, and the product is this
double or the one below it (`linearStretch_reaches_ends`).
-/

namespace Raster

/-! ## The observed range -/

section Fold

variable {α : Type} {op : α → α → α}

/-- A fold over values among which a best one wins against every other ends in a best one. -/
lemma foldl_best (Fair Best : α → Prop) (hfair : ∀ x y, Fair x → Fair y → Fair (op x y))
    (hleft : ∀ x y, Best x → Fair y → Best (op x y))
    (hright : ∀ x y, Fair x → Best y → Best (op x y)) {vs : List α} {x : α} (hx : Fair x)
    (hvs : ∀ v ∈ vs, Fair v) (h : Best x ∨ ∃ v ∈ vs, Best v) : Best (vs.foldl op x) := by
  induction vs generalizing x with
  | nil => simpa using h
  | cons v vs ih =>
    have hv := hvs v List.mem_cons_self
    refine ih (hfair x v hx hv) (fun w hw => hvs w (List.mem_cons_of_mem v hw)) ?_
    rcases h with h | ⟨w, hw, hbest⟩
    · exact Or.inl (hleft x v h hv)
    · rcases List.mem_cons.1 hw with rfl | hw
      · exact Or.inl (hright x w hx hbest)
      · exact Or.inr ⟨w, hw, hbest⟩

end Fold

section Range

variable {x y : Float} {a b lo hi : ℚ}

lemma HasValue.lesser (hx : HasValue x a) (hy : HasValue y b) :
    HasValue (lesser x y) (min a b) := by
  rw [Raster.lesser, hx.isNaN, if_neg Bool.false_ne_true]
  by_cases h : b < a
  · rwa [if_pos ((hy.lt_iff hx).2 h), min_eq_right h.le]
  · rwa [if_neg ((hy.lt_iff hx).not.2 h), min_eq_left (not_lt.1 h)]

lemma HasValue.greater (hx : HasValue x a) (hy : HasValue y b) :
    HasValue (greater x y) (max a b) := by
  rw [Raster.greater, hx.isNaN, if_neg Bool.false_ne_true]
  by_cases h : a < b
  · rwa [if_pos ((hx.lt_iff hy).2 h), max_eq_right h.le]
  · rwa [if_neg ((hx.lt_iff hy).not.2 h), max_eq_left (not_lt.1 h)]

/-- The first number takes the place of both infinities. -/
lemma observedRange_cons (hx : HasValue x a) (vs : List Float) :
    observedRange (x :: vs) = (vs.foldl lesser x, vs.foldl greater x) := by
  have hfold : ∀ (vs : List Float) (p q : Float),
      vs.foldl (fun range v => (lesser range.1 v, greater range.2 v)) (p, q) =
        (vs.foldl lesser p, vs.foldl greater q) := by
    intro vs
    induction vs with
    | nil => exact fun p q => rfl
    | cons v vs ih => exact fun p q => ih (lesser p v) (greater q v)
  have hinf : (1.0 / 0.0 : Float).toModel.unpack = .infinity .positive := rfl
  have hneg : (-1.0 / 0.0 : Float).toModel.unpack = .infinity .negative := rfl
  have hbelow : x < 1.0 / 0.0 := by
    rw [float_lt_iff, hinf]
    cases hx with
    | zero h => rw [h]; rfl
    | normal _ h => rw [h]; rfl
  have habove : -1.0 / 0.0 < x := by
    rw [float_lt_iff, hneg]
    cases hx with
    | zero h => rw [h]; rfl
    | normal _ h => rw [h]; rfl
  have hlesser : lesser (1.0 / 0.0) x = x := by
    rw [lesser, if_pos hbelow, ite_self]
  have hgreater : greater (-1.0 / 0.0) x = x := by
    rw [greater, if_pos habove, ite_self]
  rw [observedRange, List.foldl_cons, hfold]
  show (vs.foldl lesser (lesser (1.0 / 0.0) x), vs.foldl greater (greater (-1.0 / 0.0) x)) = _
  rw [hlesser, hgreater]

/-- The observed range has the smallest and the greatest value. -/
lemma hasValue_observedRange {vs : List Float}
    (hvs : ∀ v ∈ vs, ∃ a, HasValue v a ∧ lo ≤ a ∧ a ≤ hi) (hlo : ∃ v ∈ vs, HasValue v lo)
    (hhi : ∃ v ∈ vs, HasValue v hi) :
    HasValue (observedRange vs).1 lo ∧ HasValue (observedRange vs).2 hi := by
  cases vs with
  | nil =>
    obtain ⟨v, hv, -⟩ := hlo
    cases hv
  | cons x vs =>
    obtain ⟨a, hx, hlow, hhigh⟩ := hvs x List.mem_cons_self
    have hrest : ∀ v ∈ vs, ∃ a, HasValue v a ∧ lo ≤ a ∧ a ≤ hi :=
      fun v hv => hvs v (List.mem_cons_of_mem x hv)
    rw [observedRange_cons hx]
    constructor
    · refine foldl_best (fun v => ∃ a, HasValue v a ∧ lo ≤ a) (fun v => HasValue v lo)
        ?_ ?_ ?_ ⟨a, hx, hlow⟩ ?_ (by simpa using hlo)
      · rintro x y ⟨a, hx, ha⟩ ⟨b, hy, hb⟩
        exact ⟨min a b, hx.lesser hy, le_min ha hb⟩
      · rintro x y hx ⟨b, hy, hb⟩
        exact min_eq_left hb ▸ hx.lesser hy
      · rintro x y ⟨a, hx, ha⟩ hy
        exact min_eq_right ha ▸ hx.lesser hy
      · exact fun v hv => (hrest v hv).imp fun a h => ⟨h.1, h.2.1⟩
    · refine foldl_best (fun v => ∃ a, HasValue v a ∧ a ≤ hi) (fun v => HasValue v hi)
        ?_ ?_ ?_ ⟨a, hx, hhigh⟩ ?_ (by simpa using hhi)
      · rintro x y ⟨a, hx, ha⟩ ⟨b, hy, hb⟩
        exact ⟨max a b, hx.greater hy, max_le ha hb⟩
      · rintro x y hx ⟨b, hy, hb⟩
        exact max_eq_left hb ▸ hx.greater hy
      · rintro x y ⟨a, hx, ha⟩ hy
        exact max_eq_right ha ▸ hx.greater hy
      · exact fun v hv => (hrest v hv).imp fun a h => ⟨h.1, h.2.2⟩

end Range

/-! ## The map of the levels -/

/-- What a stretch makes of a level, where `lo` is the lowest one and `hi` the highest. -/
def Depth.stretched (d : Depth) (lo hi v : d.Level) : d.Level :=
  d.quantize ((levelDouble v - levelDouble lo) *
    (nearestDouble d.top / (levelDouble hi - levelDouble lo)))

section Levels

variable {d : Depth} {lo hi : d.Level}

/-- A stretch maps level by level, unless the doubles of the lowest and of the highest level are
the same. -/
lemma Grid.stretch_eq {s : Shape} {g : Grid s d.Level} (hlo : IsLeast {v | v ∈ g.toList} lo)
    (hhi : IsGreatest {v | v ∈ g.toList} hi) :
    g.stretch (.gray d) =
      if levelDouble lo < levelDouble hi then g.map (d.stretched lo hi) else g := by
  obtain ⟨l, hl, -⟩ := exists_nearestDouble_nat (toNat_lt lo)
  obtain ⟨h, hh, -⟩ := exists_nearestDouble_nat (toNat_lt hi)
  have hbetween : ∀ x ∈ g.toList.map (ScalarType.gray d).toDouble,
      ∃ a : ℚ, HasValue x a ∧ l ≤ a ∧ a ≤ h := by
    intro x hx
    obtain ⟨v, hv, rfl⟩ := List.mem_map.1 hx
    obtain ⟨k, hk, -⟩ := exists_nearestDouble_nat (toNat_lt v)
    exact ⟨k, hk, hl.nearestDouble_le hk (hlo.2 hv) (toNat_lt v),
      hk.nearestDouble_le hh (hhi.2 hv) (toNat_lt hi)⟩
  obtain ⟨hfirst, hsecond⟩ := hasValue_observedRange hbetween
    ⟨_, List.mem_map_of_mem hlo.1, hl⟩ ⟨_, List.mem_map_of_mem hhi.1, hh⟩
  rw [Grid.stretch]
  generalize observedRange (g.toList.map (ScalarType.gray d).toDouble) = range at *
  obtain ⟨first, second⟩ := range
  refine if_congr ((hfirst.lt_iff hsecond).trans (hl.lt_iff hh).symm)
    (congrArg g.map (funext fun v => ?_)) rfl
  obtain ⟨k, hk, -⟩ := exists_nearestDouble_nat (toNat_lt v)
  have hoffset : levelDouble v - first = levelDouble v - levelDouble lo :=
    hk.sub_congr hk hfirst hl
  have hspan : second - first = levelDouble hi - levelDouble lo := hsecond.sub_congr hh hfirst hl
  show d.quantize ((levelDouble v - first) * (nearestDouble d.top / (second - first))) = _
  rw [hoffset, hspan, Depth.stretched]

/-- The range between two levels that are different doubles. -/
lemma exists_span (h : levelDouble lo < levelDouble hi) :
    ∃ c, HasValue (levelDouble hi - levelDouble lo) c ∧ 1 / 2 ≤ c ∧ c ≤ 2 ^ 66 := by
  obtain ⟨l, hl, -⟩ := exists_nearestDouble_nat (toNat_lt lo)
  obtain ⟨k, hk, hbound⟩ := exists_nearestDouble_nat (toNat_lt hi)
  have hlt : (l : ℚ) + 1 ≤ k := by exact_mod_cast (hl.lt_iff hk).1 h
  have hbound' : (k : ℚ) ≤ 2 ^ 65 := by exact_mod_cast hbound.le
  have hnonneg : (0 : ℚ) ≤ l := Nat.cast_nonneg l
  obtain ⟨c, hc, hround⟩ := hk.sub hl
    (inRange_of_bounds (by norm_num; linarith) (by norm_num; linarith))
  obtain ⟨hlow, hhigh⟩ := hround.bounds
  norm_num at hlow hhigh
  exact ⟨c, hc, by linarith, by linarith⟩

/-- The double of the upper end is the upper end, except with 64 bits. -/
lemma exists_topDouble (d : Depth) : ∃ t, HasValue (nearestDouble d.top) t ∧ 255 ≤ t ∧ t ≤ 2 ^ 64 ∧
    (d ≠ .sixtyFour → t = d.top ∧ t ≤ 2 ^ 32) ∧ (d = .sixtyFour → t = 2 ^ 64) := by
  cases d with
  | eight =>
    exact ⟨(255 : ℕ), (isWhole_nearestDouble (by decide)).hasValue, by norm_num, by norm_num,
      fun _ => ⟨rfl, by norm_num⟩, fun h => by cases h⟩
  | sixteen =>
    exact ⟨(65535 : ℕ), (isWhole_nearestDouble (by decide)).hasValue, by norm_num, by norm_num,
      fun _ => ⟨rfl, by norm_num⟩, fun h => by cases h⟩
  | thirtyTwo =>
    exact ⟨(4294967295 : ℕ), (isWhole_nearestDouble (by decide)).hasValue, by norm_num,
      by norm_num, fun _ => ⟨rfl, by norm_num⟩, fun h => by cases h⟩
  | sixtyFour =>
    have htop : HasValue (nearestDouble Depth.sixtyFour.top) ((2 ^ 52 : ℕ) * 2 ^ (12 : ℤ)) :=
      .normal (by norm_num) rfl Nat.log2_two_pow (by norm_num) (by norm_num)
    exact ⟨_, htop, by norm_num, by norm_num, fun h => absurd rfl h, fun _ => by norm_num⟩

/-- The factor of a stretch, and what it makes of the range: the upper end up to two roundings. -/
lemma exists_stretched (h : levelDouble lo < levelDouble hi) {t : ℚ}
    (ht : HasValue (nearestDouble d.top) t) (hlow : 255 ≤ t) (hhigh : t ≤ 2 ^ 64) :
    ∃ b v a, HasValue (nearestDouble d.top / (levelDouble hi - levelDouble lo)) b ∧
      HasValue ((levelDouble hi - levelDouble lo) *
        (nearestDouble d.top / (levelDouble hi - levelDouble lo))) a ∧
      IsRounded v a ∧ t - t / 2 ^ 53 ≤ v ∧ v ≤ t + t / 2 ^ 53 := by
  obtain ⟨c, hc, hclow, hchigh⟩ := exists_span h
  have hcpos : 0 < c := by linarith
  have hquotient : c * (t / c) = t := mul_div_cancel₀ t hcpos.ne'
  have herror : c * (t / c / 2 ^ 53) = t / 2 ^ 53 := by rw [← mul_div_assoc, hquotient]
  have hrange : InRange (t / c) := by
    refine inRange_of_bounds ?_ ?_
    · rw [le_div_iff₀ hcpos]
      norm_num at hchigh ⊢
      linarith
    · rw [div_le_iff₀ hcpos]
      norm_num at hhigh ⊢
      linarith
  obtain ⟨b, hb, hround⟩ := ht.div hc hrange
  obtain ⟨hblow, hbhigh⟩ := hround.bounds
  have hvlow := mul_le_mul_of_nonneg_left hblow hcpos.le
  have hvhigh := mul_le_mul_of_nonneg_left hbhigh hcpos.le
  rw [mul_sub, herror, hquotient] at hvlow
  rw [mul_add, herror, hquotient] at hvhigh
  norm_num at hhigh
  obtain ⟨a, ha, hround'⟩ := hc.mul hb
    (inRange_of_bounds (by norm_num at hvlow ⊢; linarith) (by norm_num at hvhigh ⊢; linarith))
  exact ⟨b, c * b, a, hb, ha, hround', hvlow, hvhigh⟩

lemma stretched_lowest (h : levelDouble lo < levelDouble hi) : d.stretched lo hi lo = 0 := by
  obtain ⟨t, ht, hlow, hhigh, -, -⟩ := exists_topDouble d
  obtain ⟨b, v, a, hb, -⟩ := exists_stretched h ht hlow hhigh
  obtain ⟨l, hl, -⟩ := exists_nearestDouble_nat (toNat_lt lo)
  have hoffset : HasValue (levelDouble lo - levelDouble lo) 0 := hl.sub_self hl
  exact (hoffset.mul_eq_zero hb (zero_mul b)).quantize_eq 0 (by simp)

/-- With at most 32 bits two roundings do not move the upper end by a half. -/
lemma stretched_highest (hd : d ≠ .sixtyFour) (h : levelDouble lo < levelDouble hi) :
    (d.stretched lo hi hi).toNat = d.top := by
  obtain ⟨t, ht, hlow, hhigh, hsmall, -⟩ := exists_topDouble d
  obtain ⟨htop, hbound⟩ := hsmall hd
  obtain ⟨b, v, a, -, ha, hround, hvlow, hvhigh⟩ := exists_stretched h ht hlow hhigh
  have halow := hround.bounds.1
  norm_num at hbound hvlow hvhigh halow
  exact ha.toNat_quantize_top (by rw [← htop]; linarith)

/-- With 64 bits the upper end is a double, and so is what is below it by one unit. -/
lemma stretched_highest_sixtyFour {lo hi : Depth.sixtyFour.Level}
    (h : levelDouble lo < levelDouble hi) :
    (Depth.sixtyFour.stretched lo hi hi).toNat =
      if (levelDouble hi - levelDouble lo) *
          (nearestDouble Depth.sixtyFour.top / (levelDouble hi - levelDouble lo)) <
        nearestDouble Depth.sixtyFour.top
      then Depth.sixtyFour.top - 2047 else Depth.sixtyFour.top := by
  obtain ⟨t, ht, hlow, hhigh, -, hlarge⟩ := exists_topDouble .sixtyFour
  obtain rfl := hlarge rfl
  obtain ⟨b, v, a, -, ha, hround, hvlow, -⟩ := exists_stretched h ht hlow hhigh
  rw [Depth.stretched]
  by_cases hbelow : a < 2 ^ 64
  · have hself : IsRounded ((2 ^ 53 - 1) * 2 ^ (11 : ℤ)) ((2 ^ 53 - 1) * 2 ^ (11 : ℤ)) := by
      exact_mod_cast isRounded_self (k := 2 ^ 53 - 1) (by norm_num) (by norm_num) 11
    have hge := hself.le_of_le hround (by norm_num at hvlow ⊢; linarith)
    have heq := hround.eq_of_ge_of_lt hge (by norm_num at hbelow ⊢; exact hbelow)
    rw [if_pos ((ha.lt_iff ht).2 hbelow)]
    have hfloor : ⌊a + 1 / 2⌋₊ = 18446744073709549568 := by
      rw [heq]
      norm_num
    rw [ha.toNat_quantize, hfloor]
    rfl
  · have htop : (Depth.sixtyFour.top : ℚ) = 2 ^ 64 - 1 := by
      show ((18446744073709551615 : ℕ) : ℚ) = _
      norm_num
    rw [if_neg ((ha.lt_iff ht).not.2 hbelow)]
    exact ha.toNat_quantize_top (by rw [htop]; linarith [not_lt.1 hbelow])

/-- Levels of at most 32 bits are different doubles. -/
lemma levelDouble_lt (hd : d ≠ .sixtyFour) (h : lo < hi) : levelDouble lo < levelDouble hi := by
  have hbits := Depth.bits_le hd
  rw [(hasValue_levelDouble hbits lo).lt_iff (hasValue_levelDouble hbits hi)]
  exact_mod_cast h

end Levels

/-! ## The algorithm -/

/-- The options of a stretch. -/
def stretchOptions : Options := Options.ofList [("function", .text "linear_stretch")]

lemma applyNamed_stretch (transform : LineTransform) {d : Depth} {s : Shape}
    (g : Grid s d.Level) (hs : Algorithm.isSolid s = true) :
    Algorithm.applyNamed transform "unary_math" stretchOptions [⟨.gray d, s, g⟩] =
      .ok (singleOutput (.fresh ⟨.gray d, s, g.stretch (.gray d)⟩)) := by
  have htype : PixelType.gray d ∈ Algorithm.unaryMath.types := by cases d <;> decide
  refine (Algorithm.applyNamed_eq_run (a := .unaryMath) ?_ rfl ?_).trans rfl
  · exact hs
  · exact htype

/-- **A stretch reaches both ends.**  In a solid image of gray levels that are not all the same,
pixel by pixel: with at most 32 bits the lowest level becomes zero and the highest one the greatest
level of the depth.  With 64 bits the same image comes out, as a copy, if the lowest and the highest
level have the same nearest double; otherwise the lowest level becomes zero, and the highest one
the greatest level, or this less 2047 if the range, times the factor that should stretch it to
`2 ^ 64`, comes out below that. -/
theorem linearStretch_reaches_ends (transform : LineTransform) {d : Depth} {s : Shape}
    {g : Grid s d.Level} {lo hi : d.Level} (hs : Algorithm.isSolid s = true)
    (hlo : IsLeast {v | v ∈ g.toList} lo) (hhi : IsGreatest {v | v ∈ g.toList} hi)
    (hne : lo ≠ hi) :
    ∃ f : d.Level → d.Level,
      Algorithm.applyNamed transform "unary_math" stretchOptions [⟨.gray d, s, g⟩] =
        .ok (singleOutput (.fresh ⟨.gray d, s, g.map f⟩)) ∧
      (d ≠ .sixtyFour → f lo = 0 ∧ (f hi).toNat = d.top) ∧
      (d = .sixtyFour →
        if levelDouble lo < levelDouble hi then
          f lo = 0 ∧
          (f hi).toNat =
            if (levelDouble hi - levelDouble lo) *
                (nearestDouble d.top / (levelDouble hi - levelDouble lo)) < nearestDouble d.top
            then d.top - 2047 else d.top
        else f = id) := by
  have hlt : lo < hi := BitVec.lt_of_le_ne (hhi.2 hlo.1) hne
  rw [applyNamed_stretch transform g hs, Grid.stretch_eq hlo hhi]
  by_cases hdouble : levelDouble lo < levelDouble hi
  · refine ⟨d.stretched lo hi, by rw [if_pos hdouble], fun hd => ⟨stretched_lowest hdouble,
      stretched_highest hd hdouble⟩, ?_⟩
    rintro rfl
    rw [if_pos hdouble]
    exact ⟨stretched_lowest hdouble, stretched_highest_sixtyFour hdouble⟩
  · refine ⟨id, ?_, fun hd => absurd (levelDouble_lt hd hlt) hdouble, fun _ => ?_⟩
    · rw [if_neg hdouble]
      simp [Grid.map]
    · rw [if_neg hdouble]

/-- Three bytes, the second of which is the lowest and the third the highest. -/
theorem three_bytes_reach_ends :
    let g : Grid [3] Depth.eight.Level := ⟨#v[20, 10, 30]⟩
    (Algorithm.isSolid [3] = true ∧ IsLeast {v | v ∈ g.toList} 10 ∧
        IsGreatest {v | v ∈ g.toList} 30 ∧ (10 : Depth.eight.Level) ≠ 30) ∧
      ∃ f : Depth.eight.Level → Depth.eight.Level,
        Algorithm.applyNamed LineTransform.direct "unary_math" stretchOptions
            [⟨.gray .eight, [3], g⟩] =
          .ok (singleOutput (.fresh ⟨.gray .eight, [3], g.map f⟩)) ∧
        f 10 = 0 ∧ (f 30).toNat = 255 := by
  intro g
  have hs : Algorithm.isSolid [3] = true := rfl
  have hlo : IsLeast {v | v ∈ g.toList} 10 := by
    have hall : 10 ∈ g.toList ∧ ∀ v ∈ g.toList, 10 ≤ v := by decide
    exact hall
  have hhi : IsGreatest {v | v ∈ g.toList} 30 := by
    have hall : 30 ∈ g.toList ∧ ∀ v ∈ g.toList, v ≤ 30 := by decide
    exact hall
  have hne : (10 : Depth.eight.Level) ≠ 30 := by decide
  obtain ⟨f, hrun, hends, -⟩ := linearStretch_reaches_ends LineTransform.direct hs hlo hhi hne
  exact ⟨⟨hs, hlo, hhi, hne⟩, f, hrun, hends (by decide)⟩

/-- The lower of two levels of 64 bits becomes zero, but the higher one does not become the
greatest level. -/
theorem fortyNine_misses_top :
    ∃ h : Grid [2] Depth.sixtyFour.Level,
      Algorithm.applyNamed LineTransform.direct "unary_math" stretchOptions
          [⟨.gray .sixtyFour, [2], ⟨#v[0, 49]⟩⟩] =
        .ok (singleOutput (.fresh ⟨.gray .sixtyFour, [2], h⟩)) ∧
      h.toList.map BitVec.toNat = [0, 18446744073709549568] ∧
      18446744073709549568 ≠ Depth.sixtyFour.top :=
  ⟨_, applyNamed_stretch LineTransform.direct _ rfl, by decide +kernel, by decide⟩

end Raster
