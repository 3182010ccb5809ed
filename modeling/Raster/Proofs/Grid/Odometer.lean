import Mathlib.Data.Set.Function
import Raster.Grid.Odometer
import Raster.Proofs.Grid.Lines
/-!
# The odometer runs through the places

Taking a coordinate on takes its place on by one (`Shape.advance_coordinate`), so the odometer
comes to the coordinates of all places, in their order (`Shape.walk_origin`).  Reading a grid that
was made on the way gives back what was put at each coordinate.
-/

namespace Raster

namespace Shape

variable {s : Shape} {c : List Nat}

lemma origin_eq (s : Shape) : s.origin = s.coordinate 0 := by
  induction s with
  | nil => rfl
  | cons n s ih =>
    show 0 :: origin s = 0 % n :: coordinate s (0 / n)
    rw [ih, Nat.zero_mod, Nat.zero_div]

/-- The next coordinate has the next place. -/
lemma advance_coordinate {i : Nat} (h : i < s.size) :
    s.advance (s.coordinate i) = s.coordinate (i + 1) := by
  induction s generalizing i with
  | nil => rfl
  | cons n s ih =>
    have hn : 0 < n := Nat.pos_of_mul_pos_right (Nat.zero_lt_of_lt h)
    have hi : i / n < size s := Nat.div_lt_of_lt_mul h
    have hmod : i % n < n := Nat.mod_lt i hn
    have hsplit : n * (i / n) + i % n = i := Nat.div_add_mod i n
    show (if i % n + 1 < n then (i % n + 1) :: coordinate s (i / n)
      else 0 :: advance s (coordinate s (i / n))) = (i + 1) % n :: coordinate s ((i + 1) / n)
    by_cases hnext : i % n + 1 < n
    · have hstep : i + 1 = (i % n + 1) + n * (i / n) := by omega
      rw [if_pos hnext, hstep, Nat.add_mul_mod_self_left, Nat.mod_eq_of_lt hnext,
        Nat.add_mul_div_left _ _ hn, Nat.div_eq_of_lt hnext, Nat.zero_add]
    · -- the component has come to its end, and the others are taken on
      have hstep : i + 1 = n * (i / n + 1) := by
        rw [Nat.mul_add, Nat.mul_one]
        omega
      rw [if_neg hnext, hstep, Nat.mul_mod_right, Nat.mul_div_cancel_left _ hn, ih hi]

/-- A walk visits the coordinates of the places that follow each other. -/
lemma walk_coordinate {σ ι : Type} (visit : σ → ι → List Nat → σ) {items : List ι} {i : Nat}
    (h : i + items.length ≤ s.size) (state : σ) :
    s.walk visit items (s.coordinate i) state =
      (items.zipIdx i).foldl (fun state item => visit state item.1 (s.coordinate item.2))
        state := by
  induction items generalizing i state with
  | nil => rfl
  | cons item items ih =>
    rw [List.length_cons] at h
    rw [walk, advance_coordinate (by omega), ih (by omega), List.zipIdx_cons, List.foldl_cons]

lemma walk_origin {σ ι : Type} (visit : σ → ι → List Nat → σ) {items : List ι}
    (h : items.length = s.size) (state : σ) :
    s.walk visit items s.origin state =
      items.zipIdx.foldl (fun state item => visit state item.1 (s.coordinate item.2)) state := by
  rw [origin_eq]
  exact walk_coordinate visit (by omega) state

/-! ## Places of coordinates -/

lemma locateFrom_eq (s : Shape) (c : List Nat) (axis place distance : Nat) :
    s.locateFrom c axis place distance =
      match s.misplaced? c axis with
      | none => .ok (place + distance * s.flatIndex c)
      | some fault => .error fault := by
  induction s generalizing c axis place distance with
  | nil => simp [locateFrom, misplaced?, flatIndex]
  | cons n s ih =>
    cases c with
    | nil => simp [locateFrom, misplaced?, flatIndex]
    | cons k c =>
      rw [locateFrom, misplaced?]
      by_cases hk : k < n
      · rw [if_pos hk, if_pos hk, ih]
        have hplace : place + k * distance + distance * n * flatIndex s c =
            place + distance * flatIndex (n :: s) (k :: c) := by
          rw [flatIndex]
          ring
        rw [hplace]
      · rw [if_neg hk, if_neg hk]

lemma locate_eq_index? (s : Shape) (c : List Nat) : s.locate c = s.index? c := by
  rw [locate, index?]
  by_cases hlength : c.length = s.length
  · rw [if_pos hlength, if_pos hlength, locateFrom_eq]
    cases s.misplaced? c 0 with
    | none => exact congrArg Except.ok (by rw [Nat.zero_add, Nat.one_mul])
    | some fault => rfl
  · rw [if_neg hlength, if_neg hlength]

lemma exists_of_misplaced? {d : List Nat} {fault : Fault} {axis : Nat}
    (h : s.misplaced? d axis = some fault) :
    ∃ b k n, d[b]? = some k ∧ s[b]? = some n ∧ n ≤ k ∧
      fault = .coordinateRange k (axis + b) n := by
  induction s generalizing d axis with
  | nil => simp [misplaced?] at h
  | cons n s ih =>
    cases d with
    | nil => simp [misplaced?] at h
    | cons k d =>
      rw [misplaced?] at h
      split at h
      · obtain ⟨b, k', n', hk', hn', hle, rfl⟩ := ih h
        exact ⟨b + 1, k', n', hk', hn', hle, by rw [Nat.add_right_comm, Nat.add_assoc]⟩
      · cases h
        exact ⟨0, k, n, rfl, rfl, by omega, rfl⟩

/-- What is wrong with a coordinate outside the array: its rank, or one of its components. -/
lemma index?_error {d : List Nat} (h : ¬s.Contains d) :
    d.length ≠ s.length ∧ s.index? d = .error (.coordinateRank d.length s.length) ∨
      ∃ axis k n, d[axis]? = some k ∧ s[axis]? = some n ∧ n ≤ k ∧
        s.index? d = .error (.coordinateRange k axis n) := by
  rw [index?]
  by_cases hlength : d.length = s.length
  · right
    rw [if_pos hlength]
    cases hmisplaced : s.misplaced? d 0 with
    | none => exact absurd (contains_of_misplaced? hlength hmisplaced) h
    | some fault =>
      obtain ⟨b, k, n, hk, hn, hle, rfl⟩ := exists_of_misplaced? hmisplaced
      exact ⟨b, k, n, hk, hn, hle, by rw [Nat.zero_add]⟩
  · exact Or.inl ⟨hlength, if_neg hlength⟩

lemma bijOn_flatIndex (s : Shape) : Set.BijOn s.flatIndex {c | s.Contains c} (Set.Iio s.size) := by
  refine ⟨fun c hc => hc.flatIndex_lt, fun c hc d hd h => ?_, fun i hi => ?_⟩
  · rw [← hc.coordinate_flatIndex, ← hd.coordinate_flatIndex, h]
  · exact ⟨s.coordinate i, contains_coordinate hi, flatIndex_coordinate hi⟩

end Shape

/-! ## Grids made cell by cell -/

namespace Grid

variable {s : Shape} {α β : Type}

lemma ofArray?_eq_ok {cells : Array α} {g : Grid s α} (h : g.cells.toArray = cells) :
    ofArray? s cells = .ok g := by
  obtain ⟨⟨_, hsize⟩⟩ := g
  subst h
  exact dif_pos hsize

lemma build_eq (s : Shape) (f : List Nat → α) : build s f = .ok (ofFn s f) := by
  refine ofArray?_eq_ok ?_
  rw [Shape.walk_origin _ (List.length_range), List.foldl_push_eq_append]
  refine Array.ext (by simp [ofFn]) fun i _ _ => ?_
  simp [ofFn]

lemma rebuild_eq (f : α → List Nat → β) (g : Grid s α) :
    g.rebuild f = .ok (g.mapWithCoordinates f) := by
  refine ofArray?_eq_ok ?_
  rw [Shape.walk_origin _ (by simp [toList]), List.foldl_push_eq_append]
  refine Array.ext (by simp [mapWithCoordinates, toList]) fun i _ _ => ?_
  simp only [mapWithCoordinates, Vector.toArray_ofFn, Array.getElem_ofFn, toList,
    List.append_toArray, List.nil_append, List.getElem_toArray, List.getElem_map,
    List.getElem_zipIdx, Vector.getElem_toList, Nat.zero_add]
  rfl

lemma get?_ofFn {c : List Nat} (h : s.Contains c) (f : List Nat → α) :
    (ofFn s f).get? c = .ok (f c) := by
  rw [get?_eq_ok _ h, ofFn, get_ofFn, h.coordinate_flatIndex]

lemma get?_mapWithCoordinates {c : List Nat} {v : α} {g : Grid s α} (h : g.get? c = .ok v)
    (f : α → List Nat → β) : (g.mapWithCoordinates f).get? c = .ok (f v c) := by
  by_cases hc : s.Contains c
  · rw [get?_eq_ok _ hc] at h ⊢
    rw [mapWithCoordinates, get_ofFn, hc.coordinate_flatIndex, Except.ok.inj h]
  · obtain ⟨fault, hindex⟩ := Shape.exists_index?_error hc
    rw [get?, hindex] at h
    cases h

end Grid

/-- **The coordinates of an array are numbered by their places.**  Each coordinate in the array has
one place in the buffer, and none outside it has a place; going through the coordinates like an
odometer comes to them in the order of their places, whatever is done on the way.  So a grid that
is made cell by cell has at each coordinate what was computed for it. -/
theorem coordinates_numbered (s : Shape) :
    Set.BijOn s.flatIndex {d | s.Contains d} (Set.Iio s.size) ∧
    (∀ d, s.locate d = s.index? d) ∧
    (∀ d, s.Contains d → s.index? d = .ok (s.flatIndex d)) ∧
    (∀ d, ¬s.Contains d →
      d.length ≠ s.length ∧ s.index? d = .error (.coordinateRank d.length s.length) ∨
        ∃ axis k n, d[axis]? = some k ∧ s[axis]? = some n ∧ n ≤ k ∧
          s.index? d = .error (.coordinateRange k axis n)) ∧
    (∀ i < s.size, s.Contains (s.coordinate i) ∧ s.flatIndex (s.coordinate i) = i) ∧
    (∀ {σ ι : Type} (visit : σ → ι → List Nat → σ) (items : List ι) (state : σ),
      items.length = s.size →
        s.walk visit items s.origin state =
          items.zipIdx.foldl (fun state item => visit state item.1 (s.coordinate item.2)) state) ∧
    (∀ {α : Type} (f : List Nat → α), Grid.build s f = .ok (Grid.ofFn s f) ∧
      ∀ d, s.Contains d → (Grid.ofFn s f).get? d = .ok (f d)) ∧
    ∀ {α β : Type} (f : α → List Nat → β) (g : Grid s α),
      g.rebuild f = .ok (g.mapWithCoordinates f) ∧
        ∀ d v, g.get? d = .ok v → (g.mapWithCoordinates f).get? d = .ok (f v d) := by
  refine ⟨s.bijOn_flatIndex, s.locate_eq_index?, fun _ => Shape.Contains.index?,
    fun _ => Shape.index?_error,
    fun i hi => ⟨Shape.contains_coordinate hi, Shape.flatIndex_coordinate hi⟩,
    fun visit _ state h => Shape.walk_origin visit h state, fun f => ?_, fun f g => ?_⟩
  · exact ⟨Grid.build_eq s f, fun _ hc => Grid.get?_ofFn hc f⟩
  · exact ⟨Grid.rebuild_eq f g, fun _ _ h => Grid.get?_mapWithCoordinates h f⟩

/-- In an array of two by three the first component turns fastest. -/
theorem coordinates_numbered_two_by_three :
    Shape.locate [2, 3] [1, 2] = .ok 5 ∧
    (∃ fault, Shape.index? [2, 3] [1, 3] = .error fault) ∧
    Shape.walk [2, 3] (fun seen (_ : Nat) c => seen ++ [c]) (List.range 6)
      (Shape.origin [2, 3]) [] = [[0, 0], [1, 0], [0, 1], [1, 1], [0, 2], [1, 2]] ∧
    (Grid.ofFn [2, 3] List.sum).get? [1, 2] = .ok 3 ∧
    ((Grid.ofFn [2, 3] List.sum).mapWithCoordinates fun v c => v * c.length).get? [1, 2] =
      .ok 6 := by
  obtain ⟨-, hlocate, hinside, houtside, -, hwalk, hofFn, hmap⟩ := coordinates_numbered [2, 3]
  have hcontains : Shape.Contains [2, 3] [1, 2] := by simp [Shape.Contains]
  have hread := (hofFn List.sum).2 [1, 2] hcontains
  refine ⟨(hlocate [1, 2]).trans (hinside [1, 2] hcontains), ?_, hwalk _ _ _ rfl, hread,
    (hmap (fun v c => v * c.length) _).2 [1, 2] 3 hread⟩
  rcases houtside [1, 3] (by simp [Shape.Contains]) with ⟨-, herror⟩ | ⟨_, _, _, -, -, -, herror⟩
  · exact ⟨_, herror⟩
  · exact ⟨_, herror⟩

end Raster
