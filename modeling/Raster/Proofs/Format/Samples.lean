import Mathlib.Tactic.Common
import Raster.Format.Samples
/-!
# Taking pixels apart and putting them together

A list that was joined of parts of one size is cut into these parts again (`pieces_flatten`,
`pieces_flatMap`).  For this reason the samples of a picture make the picture again
(`SampleBuffer.picture_buffer`), and samples that became bytes are read from these bytes, as far
as they are in range (`SampleBuffer.ofBytes_bytes`), whichever byte the machine keeps first.
-/

namespace Raster

/-! ## Cutting and joining -/

namespace Png

variable {α β : Type} {size count : Nat}

lemma flatten_pieces (size count : Nat) (l : List α) :
    (pieces size count l).flatten = l.take (size * count) := by
  induction count generalizing l with
  | zero => simp [pieces]
  | succ count ih =>
    rw [pieces, List.flatten_cons, ih, Nat.mul_succ, Nat.add_comm, List.take_add]

lemma flatten_pieces_of_le {l : List α} (h : l.length ≤ size * count) :
    (pieces size count l).flatten = l := by
  rw [flatten_pieces, List.take_of_length_le h]

lemma length_le_of_mem_pieces {l p : List α} (h : p ∈ pieces size count l) : p.length ≤ size := by
  induction count generalizing l with
  | zero => simp [pieces] at h
  | succ count ih =>
    rcases List.mem_cons.1 h with rfl | h
    · exact List.length_take_le _ _
    · exact ih h

lemma length_of_mem_pieces {l p : List α} (hl : l.length = size * count)
    (h : p ∈ pieces size count l) : p.length = size := by
  induction count generalizing l with
  | zero => simp [pieces] at h
  | succ count ih =>
    rw [Nat.mul_succ] at hl
    rcases List.mem_cons.1 h with rfl | h
    · simp [hl]
    · exact ih (by simp [hl]) h

lemma pieces_flatten {ls : List (List α)} (h : ∀ l ∈ ls, l.length = size) :
    pieces size ls.length ls.flatten = ls := by
  induction ls with
  | nil => rfl
  | cons l ls ih =>
    have hl : l.length = size := h l List.mem_cons_self
    have hls := ih fun l hl => h l (List.mem_cons_of_mem _ hl)
    rw [List.length_cons, List.flatten_cons, pieces, ← hl, List.take_left, List.drop_left, hl, hls]

lemma pieces_flatMap {f : α → List β} (h : ∀ x, (f x).length = size) {l : List α}
    (hl : l.length = count) : pieces size count (l.flatMap f) = l.map f := by
  have hcount : count = (l.map f).length := hl.symm.trans (List.length_map f).symm
  rw [List.flatMap, hcount]
  refine pieces_flatten fun p hp => ?_
  obtain ⟨x, -, rfl⟩ := List.mem_map.1 hp
  exact h x

/-- A piece is looked up in the whole list. -/
lemma getElem?_pieces {l : List α} {y : Nat} (h : y < count) :
    (pieces size count l)[y]? = some ((l.drop (size * y)).take size) := by
  induction count generalizing l y with
  | zero => exact absurd h (Nat.not_lt_zero y)
  | succ count ih =>
    cases y with
    | zero => simp [pieces]
    | succ y =>
      rw [pieces, List.getElem?_cons_succ, ih (by omega), List.drop_drop, Nat.mul_succ,
        Nat.add_comm]

end Png

/-! ## Pixels -/

namespace Layout

lemma toList_assemble {l : Layout} {samples : List Nat} (h : samples.length = l.channels) :
    (l.assemble samples).toList = samples := by
  refine List.ext_getElem (by simp [h]) fun i h₁ h₂ => ?_
  simp [assemble, h₂]

lemma assemble_toList (l : Layout) (v : Vector Nat l.channels) : l.assemble v.toList = v :=
  Vector.toList_inj.1 (toList_assemble (Vector.length_toList))

end Layout

namespace SampleBuffer

/-- **The samples of a picture make the picture again.** -/
lemma picture_buffer (p : Picture) : p.buffer.picture = p := by
  obtain ⟨l, w, h, ⟨cells⟩⟩ := p
  have hpieces : (Png.pieces l.channels (Shape.size [w, h])
      (cells.toList.flatMap Vector.toList)).map l.assemble = cells.toList := by
    rw [Png.pieces_flatMap (fun _ => Vector.length_toList) Vector.length_toList, List.map_map]
    exact (List.map_congr_left fun v _ => l.assemble_toList v).trans (List.map_id _)
  have hcells : (⟨((Png.pieces l.channels (Shape.size [w, h])
      (cells.toList.flatMap Vector.toList)).map l.assemble).toArray, by simp⟩ :
        Vector _ (Shape.size [w, h])) = cells :=
    Vector.toList_inj.1 hpieces
  exact congrArg (fun cells => Picture.mk l w h ⟨cells⟩) hcells

/-- **Samples that make a picture are the samples of that picture.** -/
lemma buffer_picture (b : SampleBuffer) : b.picture.buffer = b := by
  obtain ⟨l, w, h, samples, hlength⟩ := b
  have hall : samples.length = l.channels * Shape.size [w, h] := hlength.trans (Nat.mul_comm _ _)
  have hcells : ((Png.pieces l.channels (Shape.size [w, h]) samples).map l.assemble).flatMap
      Vector.toList = samples := by
    have hparts : ∀ p ∈ Png.pieces l.channels (Shape.size [w, h]) samples,
        (l.assemble p).toList = p := fun p hp =>
      Layout.toList_assemble (Png.length_of_mem_pieces hall hp)
    rw [List.flatMap_map, List.flatMap, List.map_congr_left hparts, List.map_id',
      Png.flatten_pieces_of_le (Nat.le_of_eq hall)]
  simp only [picture, Picture.buffer, Grid.toList, Vector.toList_mk, hcells]

lemma eq_of_buffer_eq {p q : Picture} (h : p.buffer = q.buffer) : p = q := by
  rw [← picture_buffer p, h, picture_buffer]

/-! ## Bytes -/

lemma length_bytes (order : ByteOrder) (count n : Nat) : (order.bytes count n).length = count := by
  cases order
  · exact Bytes.length_ofLittleEndian count n
  · exact Bytes.length_ofBigEndian count n

lemma number_bytes (order : ByteOrder) {count n : Nat} (h : n < 1 <<< (8 * count)) :
    order.number (order.bytes count n) = n := by
  cases order
  · exact Bytes.littleEndian_ofLittleEndian h
  · exact Bytes.bigEndian_ofBigEndian h

lemma lt_of_le_top {l : Layout} {v : Nat} (h : v ≤ l.top) : v < 1 <<< (8 * l.sampleBytes) := by
  have hpos : 0 < 1 <<< (8 * l.sampleBytes) := by simp
  rw [Layout.top] at h
  omega

/-- **Samples in range are read from their bytes.** -/
lemma ofBytes_bytes (order : ByteOrder) {b : SampleBuffer} (h : b.IsInRange) :
    ofBytes order b.layout b.width b.height (b.bytes order) = b := by
  obtain ⟨l, w, height, samples, hlength⟩ := b
  have hsamples : (Png.pieces l.sampleBytes (Shape.size [w, height] * l.channels)
      (samples.flatMap (order.bytes l.sampleBytes))).map order.number = samples := by
    rw [Png.pieces_flatMap (length_bytes order l.sampleBytes) hlength, List.map_map]
    refine (List.map_congr_left fun v hv => ?_).trans (List.map_id _)
    exact number_bytes order (lt_of_le_top (h v hv))
  simp only [ofBytes, bytes, hsamples]

end SampleBuffer

end Raster
