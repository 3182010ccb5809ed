import Raster.Blur.Tap
import Raster.Proofs.Grid.Sweep
/-!
# Taps stay on the line

A tap less than `k` from the centre of its kernel meets an element of the line less than `k` from
there, or none (`Boundary.near_of_resolve`); only what lies beyond a line can make it none
(`Boundary.exists_resolve`).  So no look-up of a position fails, whatever the lengths of the line
and of the kernel are, and no look-up of a weight does (`HalfKernel.weightAt_eq`).  Going through
the taps comes to the weighted sums of the channels (`HalfKernel.tapLine_eq`), and doing so on all
lines blurs the grid (`Grid.sweepTaps_eq`).
-/

namespace Raster

/-- A loop none of whose steps fails. -/
lemma foldlM_eq_foldl {ε α β : Type} {f : β → α → Except ε β} {u : β → α → β} {l : List α}
    (h : ∀ b, ∀ x ∈ l, f b x = .ok (u b x)) (b : β) : l.foldlM f b = .ok (l.foldl u b) := by
  induction l generalizing b with
  | nil => rfl
  | cons x l ih =>
    rw [List.foldlM_cons, h b x List.mem_cons_self]
    exact ih (fun b y hy => h b y (List.mem_cons_of_mem x hy)) (u b x)

namespace Boundary

variable {n k : Nat} {α : Type} {i j : Fin n} {offset : Int}

/-! ## Where a tap is met -/

lemma place?_eq_some_iff {position : Int} : place? n position = some j ↔ position = j := by
  have hj := j.isLt
  unfold place?
  split
  · rename_i h
    rw [Option.some.injEq, ← Fin.val_inj]
    show position.toNat = j.val ↔ position = j
    omega
  · simp only [reduceCtorEq, false_iff]
    omega

lemma place?_eq_none_iff {position : Int} :
    place? n position = none ↔ ¬(0 ≤ position ∧ position < n) := by
  simp [place?]

/-- A tap that reaches a place on the line meets the element there. -/
lemma resolve_of_some (b : Boundary) (h : place? n (i + offset) = some j) :
    b.resolve i offset = some j := by
  simp only [resolve, h]

lemma zero_resolve (h : place? n (i + offset) = none) : zero.resolve i offset = none := by
  simp only [resolve, h]

lemma nearest_resolve (h : place? n (i + offset) = none) :
    nearest.resolve i offset =
      if (i : Int) + offset < 0 then some ⟨0, i.pos⟩
      else some ⟨n - 1, Nat.sub_one_lt_of_lt i.isLt⟩ := by
  simp only [resolve, h]

lemma mirror_resolve (h : place? n (i + offset) = none) :
    mirror.resolve i offset = some ((place? n (reflected n (i + offset))).getD i) := by
  simp only [resolve, h, reflected]
  cases place? n (if (i : Int) + offset < 0 then -(i + offset) - 1 else 2 * n - (i + offset) - 1)
    <;> rfl

/-- A tap meets an element that is no farther from the centre than the tap. -/
lemma near_of_resolve {b : Boundary} (hoffset : offset.natAbs < k)
    (h : b.resolve i offset = some j) : i.val < j.val + k ∧ j.val < i.val + k := by
  have hi := i.isLt
  cases hplace : place? n (i + offset) with
  | some p =>
    rw [resolve_of_some b hplace, Option.some.injEq] at h
    subst h
    have hposition := place?_eq_some_iff.1 hplace
    omega
  | none =>
    have houtside := place?_eq_none_iff.1 hplace
    cases b with
    | zero =>
      rw [zero_resolve hplace] at h
      cases h
    | nearest =>
      rw [nearest_resolve hplace] at h
      split at h
      · obtain rfl := Option.some.inj h
        simp only
        omega
      · obtain rfl := Option.some.inj h
        simp only
        omega
    | mirror =>
      rw [mirror_resolve hplace, Option.some.injEq] at h
      subst h
      cases hreflected : place? n (reflected n (i + offset)) with
      | some p =>
        have hposition := place?_eq_some_iff.1 hreflected
        rw [Option.getD_some]
        unfold reflected at hposition
        split at hposition
        · omega
        · omega
      | none =>
        -- the reflection is outside as well, so the centre itself is met
        rw [Option.getD_none]
        omega

/-- Only what lies beyond the ends of a line can make a tap meet nothing. -/
lemma exists_resolve {b : Boundary} (hb : b ≠ .zero) (i : Fin n) (offset : Int) :
    ∃ j, b.resolve i offset = some j := by
  cases hplace : place? n (i + offset) with
  | some j => exact ⟨j, resolve_of_some b hplace⟩
  | none =>
    cases b with
    | zero => exact absurd rfl hb
    | nearest =>
      rw [nearest_resolve hplace]
      split
      · exact ⟨_, rfl⟩
      · exact ⟨_, rfl⟩
    | mirror => exact ⟨_, mirror_resolve hplace⟩

lemma lineElement_eq {position : Int} (line : Vector α n) (h : position = j) :
    lineElement line position = .ok (line.get j) := by
  rw [lineElement, place?_eq_some_iff.2 h]

/-- The look-up of the element that a tap meets does not fail. -/
lemma meet_eq (b : Boundary) (line : Vector α n) (i : Fin n) (offset : Int) :
    b.meet line (line.get i) (i + offset) = .ok ((b.resolve i offset).map line.get) := by
  have hi := i.isLt
  unfold meet
  cases hplace : place? n (i + offset) with
  | some j =>
    have hposition := place?_eq_some_iff.1 hplace
    have hj := j.isLt
    rw [if_pos (by omega), lineElement_eq line hposition, resolve_of_some b hplace]
    rfl
  | none =>
    have houtside := place?_eq_none_iff.1 hplace
    rw [if_neg houtside]
    cases b with
    | zero => rw [zero_resolve hplace, Option.map_none]
    | nearest =>
      rw [nearest_resolve hplace]
      by_cases hleft : (i : Int) + offset < 0
      · have hclamped : max 0 (min ((i : Int) + offset) (n - 1)) = (⟨0, i.pos⟩ : Fin n).val := by
          simp only
          omega
        simp only [if_pos hleft, lineElement_eq line hclamped]
        rfl
      · have hclamped : max 0 (min ((i : Int) + offset) (n - 1)) =
            (⟨n - 1, Nat.sub_one_lt_of_lt i.isLt⟩ : Fin n).val := by
          simp only
          omega
        simp only [if_neg hleft, lineElement_eq line hclamped]
        rfl
    | mirror =>
      rw [mirror_resolve hplace]
      dsimp only
      cases hreflected : place? n (reflected n (i + offset)) with
      | some j =>
        have hposition := place?_eq_some_iff.1 hreflected
        have hj := j.isLt
        rw [if_pos (by omega), lineElement_eq line hposition]
        rfl
      | none =>
        rw [if_neg (place?_eq_none_iff.1 hreflected)]
        rfl

end Boundary

/-! ## Lines -/

namespace HalfKernel

variable {t : PixelType} {right : HalfKernel} {b : Boundary} {n : Nat}

lemma natAbs_lt_of_mem_distances {distance : Int} (h : distance ∈ right.distances) :
    distance.natAbs < right.length := by
  obtain ⟨j, hj, rfl⟩ := List.mem_map.1 h
  rw [List.mem_range] at hj
  omega

/-- The taps are the distances with their weights. -/
lemma taps_eq (right : HalfKernel) :
    right.taps =
      right.distances.map fun distance => (distance, right.getD distance.natAbs 0.0) := by
  rw [taps, distances, List.map_map]
  refine List.map_congr_left fun j hj => ?_
  rw [List.mem_range] at hj
  have hdistance : (j : Int) - ((right.length - 1 : Nat) : Int) = 1 - (right.length : Int) + j := by
    omega
  simp only [Function.comp_apply, hdistance]

lemma weightAt_eq {distance : Int} (h : distance.natAbs < right.length) :
    right.weightAt distance = .ok (right.getD distance.natAbs 0.0) := by
  rw [weightAt, List.getD_eq_getElem?_getD, List.getElem?_eq_getElem h]
  rfl

/-- What a tap adds to the sum of a channel. -/
def contribution (b : Boundary) (line : Vector t.Pixel n) (i : Fin n) (c : Fin t.channels)
    (sum : Float) (tap : Int × Float) : Float :=
  match b.resolve i tap.1 with
  | some j => sum + tap.2 * (t.samples (line.get j)).get c
  | none => sum

lemma convolveAt_channelLine (line : Vector t.Pixel n) (i : Fin n) (c : Fin t.channels)
    (taps : List (Int × Float)) :
    convolveAt taps b (channelLine t line c) i = taps.foldl (contribution b line i c) 0.0 := by
  refine congrArg (fun f => taps.foldl f 0.0) (funext fun sum => funext fun (offset, weight) => ?_)
  have hsample : ∀ j, (channelLine t line c).get j = (t.samples (line.get j)).get c :=
    fun j => Vector.getElem_map _ j.isLt
  simp only [contribution]
  cases b.resolve i offset with
  | none => rfl
  | some j => exact congrArg (fun sample => sum + weight * sample) (hsample j)

/-- A sample of a blurred line. -/
lemma get_convolveLine (line : Vector t.Pixel n) (i : Fin n) :
    (convolveLine t right b line).get i =
      t.ofSamples (Vector.ofFn fun c => right.taps.foldl (contribution b line i c) 0.0) := by
  refine (get_ofFn _ i).trans (congrArg t.ofSamples (Vector.ext fun c hc => ?_))
  rw [Vector.getElem_map, Vector.getElem_ofFn, Vector.getElem_ofFn]
  exact convolveAt_channelLine line i ⟨c, hc⟩ right.taps

lemma addTap_eq (line : Vector t.Pixel n) (i : Fin n) (sums : Vector Float t.channels)
    {distance : Int} (h : distance.natAbs < right.length) :
    right.addTap t b line i (line.get i) sums distance =
      .ok (Vector.ofFn fun c => contribution b line i c (sums.get c)
        (distance, right.getD distance.natAbs 0.0)) := by
  rw [addTap, weightAt_eq h]
  dsimp only [bind, Except.bind]
  rw [b.meet_eq line i distance]
  unfold contribution
  cases b.resolve i distance with
  | none => exact congrArg Except.ok (Vector.ext fun c hc => by simp [Vector.get])
  | some j => rfl

/-- Going through the taps adds up every channel by itself. -/
lemma foldl_contributions (line : Vector t.Pixel n) (i : Fin n) (taps : List (Int × Float)) :
    taps.foldl (fun sums tap => Vector.ofFn fun c => contribution b line i c (sums.get c) tap)
      (Vector.replicate t.channels 0.0) =
        Vector.ofFn fun c => taps.foldl (contribution b line i c) 0.0 := by
  have hchannel : ∀ (c : Fin t.channels) (sums : Vector Float t.channels),
      (taps.foldl (fun sums tap => Vector.ofFn fun c => contribution b line i c (sums.get c) tap)
        sums).get c = taps.foldl (contribution b line i c) (sums.get c) := by
    intro c
    induction taps with
    | nil => exact fun sums => rfl
    | cons tap taps ih =>
      intro sums
      rw [List.foldl_cons, List.foldl_cons, ih, get_ofFn]
  refine Vector.ext fun c hc => (hchannel ⟨c, hc⟩ _).trans ?_
  rw [Vector.getElem_ofFn]
  exact congrArg (taps.foldl (contribution b line i ⟨c, hc⟩)) (Vector.getElem_replicate hc)

lemma tapSample_eq (line : Vector t.Pixel n) (i : Fin n) :
    right.tapSample t b line i = .ok ((convolveLine t right b line).get i) := by
  have hsums := foldlM_eq_foldl (l := right.distances)
    (fun sums distance hmem => addTap_eq (b := b) line i sums (natAbs_lt_of_mem_distances hmem))
    (Vector.replicate t.channels 0.0)
  rw [tapSample, Boundary.lineElement_eq line (j := i) rfl]
  dsimp only [bind, Except.bind]
  rw [hsums, get_convolveLine, ← foldl_contributions, taps_eq, List.foldl_map]
  rfl

/-- No look-up fails on a line, and the taps come to the weighted sums. -/
lemma tapLine_eq (line : Vector t.Pixel n) :
    right.tapLine t b line = .ok (convolveLine t right b line) := by
  rw [tapLine]
  refine (vector_mapM_range fun i => tapSample_eq line i).trans (congrArg Except.ok ?_)
  exact Vector.ext fun i hi => by simp [Vector.get]

end HalfKernel

/-! ## Grids -/

namespace Grid

variable {s : Shape} {t : PixelType}

/-- Blurring tap by tap does not fail, and blurs the grid. -/
lemma sweepTaps_eq (right : HalfKernel) (b : Boundary) (g : Grid s t.Pixel)
    (axis : Fin s.length) : g.sweepTaps right b axis = .ok (g.blurAxis right b axis) := by
  rw [blurAxis, ← sweepInto_eq t.zeroPixel g, sweepInto, sweep, sweepTaps]
  simp only [HalfKernel.tapLine_eq]
  rfl

lemma sweepAxes_eq (right : HalfKernel) (b : Boundary) (axes : List (Fin s.length))
    (g : Grid s t.Pixel) :
    g.sweepAxes right b (axes.map Fin.val) = .ok (g.blurAxes right b axes) := by
  rw [sweepAxes, List.foldlM_map]
  refine foldlM_eq_foldl (fun g axis _ => ?_) g
  rw [Shape.axis?, dif_pos axis.isLt]
  exact sweepTaps_eq right b g axis

end Grid

end Raster
