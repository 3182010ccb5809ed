import Mathlib.Data.List.Nodup
import Raster.Proofs.Grid.Lines
import Raster.Proofs.Traversal
/-!
# Going through the lines replaces each of them

Going through the lines of a grid comes down to a sequence of writes (`Grid.sweep_eq`), and each
place of the buffer is written once (`Grid.perm_lineWrites`).  So the grid that is written has in
each cell what the new line through the cell has there.  Writing over the grid that is read makes
no difference: when a line is reached none of its places has been written.
-/

namespace Raster

/-- Reading at some places, none of which is missing. -/
lemma vector_mapM_ofFn {ε α β : Type} {n : Nat} {f : α → Except ε β} {u : Fin n → α}
    {v : Fin n → β} (h : ∀ p, f (u p) = .ok (v p)) :
    (Vector.ofFn u).mapM f = .ok (Vector.ofFn v) := by
  refine except_map_injective (fun _ _ => Vector.toList_inj.1) ?_
  rw [toList_vector_mapM, Vector.toList_ofFn, List.ofFn_eq_map, List.mapM_map]
  show _ = Except.ok (Vector.ofFn v).toList
  rw [Vector.toList_ofFn, List.ofFn_eq_map]
  exact mapM_eq_map fun p _ => h p

lemma vector_mapM_range {ε β : Type} {n : Nat} {f : Nat → Except ε β} {v : Fin n → β}
    (h : ∀ p : Fin n, f p = .ok (v p)) : (Vector.range n).mapM f = .ok (Vector.ofFn v) := by
  have hplaces : Vector.range n = Vector.ofFn fun p : Fin n => p.val :=
    Vector.ext fun i hi => by simp
  rw [hplaces]
  exact vector_mapM_ofFn h

namespace Grid

variable {s : Shape} {α β : Type} {axis : Fin s.length}
  {f : Vector α (s.get axis) → Vector β (s.get axis)}

lemma flat?_eq_ok (g : Grid s α) (i : Fin s.size) : g.flat? i = .ok (g.cells.get i) :=
  dif_pos i.isLt

lemma setFlat_eq_ok (g : Grid s α) {i : Nat} (h : i < s.size) (v : α) :
    g.setFlat i v = .ok ⟨g.cells.set i v h⟩ :=
  dif_pos h

lemma get_line_place (g : Grid s α) (l : Fin (lineCount s axis)) (p : Fin (s.get axis)) :
    (g.line axis l).get p = g.cells.get (s.place axis l p) :=
  get_ofFn _ p

lemma readLine_placesOf (g : Grid s α) (l : Fin (lineCount s axis)) :
    g.readLine (s.placesOf axis l) = .ok (g.line axis l) :=
  vector_mapM_ofFn fun p => g.flat?_eq_ok (s.place axis l p)

/-! ## A sequence of writes -/

/-- What is written to the places of a line. -/
def writesOf (axis : Fin s.length) (l : Fin (lineCount s axis)) (line : Vector β (s.get axis)) :
    List (Fin s.size × β) :=
  (List.finRange (s.get axis)).map fun p => (s.place axis l p, line.get p)

lemma writeLine_placesOf {σ : Type} (write : σ → Nat → β → Except Fault σ)
    (l : Fin (lineCount s axis)) (line : Vector β (s.get axis)) (out : σ) :
    writeLine write (s.placesOf axis l) line out =
      (writesOf axis l line).foldlM (fun out w => write out w.1 w.2) out := by
  rw [writeLine, writesOf, List.foldlM_map]
  simp only [Shape.placesOf, get_ofFn]

/-- What is written, in this order, when every line is replaced. -/
def lineWrites (axis : Fin s.length) (f : Vector α (s.get axis) → Vector β (s.get axis))
    (g : Grid s α) : List (Fin s.size × β) :=
  (List.finRange (lineCount s axis)).flatMap fun l => writesOf axis l (f (g.line axis l))

/-- Going through the lines is a sequence of writes. -/
lemma sweep_eq {σ : Type} (write : σ → Nat → β → Except Fault σ) (g : Grid s α) (out : σ) :
    g.sweep write axis f out =
      (g.lineWrites axis f).foldlM (fun out w => write out w.1 w.2) out := by
  rw [sweep, Shape.linesAlong_eq, lineWrites]
  induction List.finRange (lineCount s axis) generalizing out with
  | nil => rfl
  | cons l ls ih =>
    rw [List.map_cons, List.foldlM_cons, List.flatMap_cons, List.foldlM_append,
      readLine_placesOf, ← writeLine_placesOf]
    show writeLine write (s.placesOf axis l) (f (g.line axis l)) out >>= _ = _
    exact bind_congr fun out => ih out

lemma map_fst_writesOf (l : Fin (lineCount s axis)) (line : Vector β (s.get axis)) :
    (writesOf axis l line).map Prod.fst = (List.finRange (s.get axis)).map (s.place axis l) := by
  rw [writesOf, List.map_map]
  rfl

lemma nodup_places (l : Fin (lineCount s axis)) :
    ((List.finRange (s.get axis)).map (s.place axis l)).Nodup := by
  refine (List.nodup_finRange _).map fun p q h => ?_
  have hcomponent := congrArg (s.component axis) h
  rwa [Shape.component_place, Shape.component_place] at hcomponent

/-- Every place is written, and none is written twice. -/
lemma perm_lineWrites (g : Grid s α) :
    ((g.lineWrites axis f).map Prod.fst).Perm (List.finRange s.size) := by
  have hplaces : (g.lineWrites axis f).map Prod.fst = (List.finRange (lineCount s axis)).flatMap
      fun l => (List.finRange (s.get axis)).map (s.place axis l) := by
    rw [lineWrites, List.map_flatMap]
    exact congrArg (List.flatMap · _) (funext fun l => map_fst_writesOf l _)
  have hnodup : ((g.lineWrites axis f).map Prod.fst).Nodup := by
    rw [hplaces, List.nodup_flatMap]
    refine ⟨fun l _ => nodup_places l, (List.nodup_finRange _).imp fun {l m} hne => ?_⟩
    -- a place on both lines would say that they are the same
    intro i hl hm
    obtain ⟨p, -, rfl⟩ := List.mem_map.1 hl
    obtain ⟨q, -, hq⟩ := List.mem_map.1 hm
    have hline := congrArg (s.lineThrough axis) hq
    rw [Shape.lineThrough_place, Shape.lineThrough_place] at hline
    exact hne hline.symm
  rw [List.perm_ext_iff_of_nodup hnodup (List.nodup_finRange _)]
  refine fun i => iff_of_true ?_ (List.mem_finRange i)
  rw [hplaces, List.mem_flatMap]
  refine ⟨s.lineThrough axis i, List.mem_finRange _, List.mem_map.2 ?_⟩
  exact ⟨s.component axis i, List.mem_finRange _, Shape.moved_component axis i⟩

/-- Where the places are different, each has in the end what was written to it, and the other
cells are as before. -/
lemma exists_written (writes : List (Fin s.size × β)) (h : (writes.map Prod.fst).Nodup)
    (out : Grid s β) :
    ∃ out', writes.foldlM (fun out w => out.setFlat w.1 w.2) out = .ok out' ∧
      (∀ w ∈ writes, out'.cells.get w.1 = w.2) ∧
      ∀ i, i ∉ writes.map Prod.fst → out'.cells.get i = out.cells.get i := by
  induction writes generalizing out with
  | nil => exact ⟨out, rfl, by simp, fun _ _ => rfl⟩
  | cons w writes ih =>
    rw [List.map_cons, List.nodup_cons] at h
    obtain ⟨out', hout', hnew, hold⟩ := ih h.2 ⟨out.cells.set w.1 w.2⟩
    refine ⟨out', ?_, ?_, fun i hi => ?_⟩
    · rw [List.foldlM_cons, setFlat_eq_ok _ w.1.isLt]
      exact hout'
    · rw [List.forall_mem_cons]
      refine ⟨?_, hnew⟩
      rw [hold w.1 h.1, get_set, if_pos rfl]
    · rw [List.map_cons, List.mem_cons, not_or] at hi
      rw [hold i hi.2, get_set, if_neg (Ne.symm hi.1)]

/-! ## The new grid -/

/-- A grid that is made line by line has the new lines. -/
lemma sweepInto_eq (blank : β) (g : Grid s α) :
    g.sweepInto blank axis f = .ok (g.mapLines axis f) := by
  have hperm := perm_lineWrites (f := f) g
  obtain ⟨out, hout, hnew, -⟩ := exists_written (g.lineWrites axis f)
    (hperm.nodup_iff.2 (List.nodup_finRange _)) (fill s blank)
  rw [sweepInto, sweep_eq, hout]
  refine congrArg Except.ok (ext_get fun i => ?_)
  have hwritten : (i, (f (g.line axis (s.lineThrough axis i))).get (s.component axis i)) ∈
      g.lineWrites axis f := by
    refine List.mem_flatMap.2 ⟨s.lineThrough axis i, List.mem_finRange _, List.mem_map.2 ?_⟩
    exact ⟨s.component axis i, List.mem_finRange _,
      Prod.ext (Shape.moved_component axis i) rfl⟩
  rw [hnew _ hwritten, get_mapLines]

/-- Writing over one line leaves the others as they are. -/
lemma exists_line_written (l : Fin (lineCount s axis)) (line : Vector α (s.get axis))
    (g : Grid s α) :
    ∃ g', writeLine setFlat (s.placesOf axis l) line g = .ok g' ∧ g'.line axis l = line ∧
      ∀ m, m ≠ l → g'.line axis m = g.line axis m := by
  have hnodup : ((writesOf axis l line).map Prod.fst).Nodup := by
    rw [map_fst_writesOf]
    exact nodup_places l
  obtain ⟨g', hg', hnew, hold⟩ := exists_written _ hnodup g
  refine ⟨g', by rw [writeLine_placesOf, hg'], ?_, fun m hm => ?_⟩
  · refine Vector.ext fun p hp => ?_
    have hwritten := hnew (s.place axis l ⟨p, hp⟩, line.get ⟨p, hp⟩)
      (List.mem_map.2 ⟨⟨p, hp⟩, List.mem_finRange _, rfl⟩)
    exact (get_line_place g' l ⟨p, hp⟩).trans hwritten
  · refine Vector.ext fun p hp => ?_
    have hkept := hold (s.place axis m ⟨p, hp⟩) fun hmem => by
      rw [map_fst_writesOf] at hmem
      obtain ⟨q, -, hq⟩ := List.mem_map.1 hmem
      have hline := congrArg (s.lineThrough axis) hq
      rw [Shape.lineThrough_place, Shape.lineThrough_place] at hline
      exact hm hline.symm
    exact (get_line_place g' m ⟨p, hp⟩).trans (hkept.trans (get_line_place g m ⟨p, hp⟩).symm)

/-- Going through some lines in place replaces these and leaves the others as they are. -/
lemma exists_swept {f : Vector α (s.get axis) → Vector α (s.get axis)}
    {ls : List (Fin (lineCount s axis))} (h : ls.Nodup) (g : Grid s α) :
    ∃ g', (ls.map (s.placesOf axis)).foldlM (fun g places => do
        let line ← g.readLine places
        writeLine setFlat places (f line) g) g = .ok g' ∧
      ∀ l, g'.line axis l = if l ∈ ls then f (g.line axis l) else g.line axis l := by
  induction ls generalizing g with
  | nil => exact ⟨g, rfl, fun l => (if_neg (List.not_mem_nil)).symm⟩
  | cons l ls ih =>
    rw [List.nodup_cons] at h
    obtain ⟨g₁, hg₁, hself, hothers⟩ := exists_line_written l (f (g.line axis l)) g
    obtain ⟨g₂, hg₂, hlines⟩ := ih h.2 g₁
    refine ⟨g₂, ?_, fun m => ?_⟩
    · rw [List.map_cons, List.foldlM_cons, readLine_placesOf]
      show writeLine setFlat (s.placesOf axis l) (f (g.line axis l)) g >>= _ = _
      rw [hg₁]
      exact hg₂
    · rw [hlines]
      by_cases hm : m = l
      · subst hm
        rw [if_neg h.1, if_pos List.mem_cons_self, hself]
      · rw [hothers m hm]
        simp only [List.mem_cons, hm, false_or]

/-- A grid that is written over line by line has the new lines. -/
lemma sweepInPlace_eq (f : Vector α (s.get axis) → Vector α (s.get axis)) (g : Grid s α) :
    g.sweepInPlace axis f = .ok (g.mapLines axis f) := by
  obtain ⟨g', hg', hlines⟩ := exists_swept (f := f) (List.nodup_finRange (lineCount s axis)) g
  rw [sweepInPlace, Shape.linesAlong_eq, hg']
  refine congrArg Except.ok (ext_get fun i => ?_)
  have hcell := get_line g' axis i (s.component axis i)
  rw [Shape.moved_component, hlines, if_pos (List.mem_finRange _)] at hcell
  rw [← hcell, get_mapLines]

/-- The lines of a grid with new lines. -/
lemma line_mapLines (g : Grid s α) (l : Fin (lineCount s axis)) :
    (g.mapLines axis f).line axis l = f (g.line axis l) := by
  refine Vector.ext fun p hp => ?_
  show ((g.mapLines axis f).line axis l).get ⟨p, hp⟩ = _
  rw [get_line_place, get_mapLines, Shape.lineThrough_place, Shape.component_place]
  rfl

lemma mapLines_mapLines {γ : Type} (f' : Vector β (s.get axis) → Vector γ (s.get axis))
    (g : Grid s α) : (g.mapLines axis f).mapLines axis f' = g.mapLines axis (f' ∘ f) := by
  refine ext_get fun i => ?_
  rw [get_mapLines, get_mapLines, line_mapLines]
  rfl

lemma mapLines_id (axis : Fin s.length) (g : Grid s α) : g.mapLines axis id = g := by
  refine ext_get fun i => ?_
  rw [get_mapLines, id, get_line, Shape.moved_component]

/-- A visit that notes the places comes to all of them, each once. -/
lemma exists_journal (g : Grid s α) :
    ∃ journal, g.sweep (fun journal place (_ : β) => .ok (journal ++ [place])) axis f [] =
      .ok journal ∧ journal.Perm (List.range s.size) := by
  have hnote : ∀ (writes : List (Fin s.size × β)) (journal : List Nat),
      (writes.foldlM (fun journal w => .ok (journal ++ [w.1.val])) journal :
        Except Fault (List Nat)) = .ok (journal ++ writes.map (·.1.val)) := by
    intro writes
    induction writes with
    | nil => exact fun journal => congrArg Except.ok (List.append_nil journal).symm
    | cons w writes ih =>
      intro journal
      refine (ih (journal ++ [w.1.val])).trans (congrArg Except.ok ?_)
      rw [List.map_cons, List.append_assoc, List.singleton_append]
  refine ⟨_, (sweep_eq _ g []).trans (hnote _ []), ?_⟩
  have hplaces := (perm_lineWrites (f := f) g).map Fin.val
  rwa [List.map_map, List.map_coe_finRange_eq_range] at hplaces

/-- A cell of a grid with new lines, found by its coordinate. -/
lemma exists_get?_mapLines {a : List Nat} (h : s.Contains a) (axis : Fin s.length)
    (f : Vector α (s.get axis) → Vector β (s.get axis)) (g : Grid s α) :
    ∃ (line : Vector α (s.get axis)) (p : Fin (s.get axis)), a[axis.val]? = some p.val ∧
      (∀ q : Fin (s.get axis), g.get? (a.set axis q) = .ok (line.get q)) ∧
      (g.mapLines axis f).get? a = .ok ((f line).get p) := by
  have hcomponent := Shape.getElem_coordinate_component axis ⟨s.flatIndex a, h.flatIndex_lt⟩
    (by simp)
  simp only [h.coordinate_flatIndex] at hcomponent
  refine ⟨_, _, List.getElem?_eq_some_iff.2 ⟨_, hcomponent⟩, g.get?_set_eq_ok h axis, ?_⟩
  rw [get?_eq_ok _ h, get_mapLines]

end Grid

/-! ## Lines and the buffer -/


namespace Shape

variable {s : Shape} {axis : Fin s.length}

lemma pairwise_linesAlong (s : Shape) (axis : Fin s.length) :
    (s.linesAlong axis).Pairwise fun l m => ∀ i ∈ l, i ∉ m := by
  rw [linesAlong_eq, List.pairwise_map]
  refine (List.nodup_finRange _).imp fun {l m} hne i hl hm => ?_
  obtain ⟨p, rfl⟩ := mem_placesOf.1 hl
  obtain ⟨q, hq⟩ := mem_placesOf.1 hm
  have hline := congrArg (s.lineThrough axis) (Fin.ext hq)
  rw [lineThrough_place, lineThrough_place] at hline
  exact hne hline.symm

lemma exists_mem_linesAlong_iff {i : Nat} :
    (∃ l ∈ s.linesAlong axis, i ∈ l) ↔ i < s.size := by
  rw [linesAlong_eq]
  constructor
  · rintro ⟨_, hl, hi⟩
    obtain ⟨l, -, rfl⟩ := List.mem_map.1 hl
    obtain ⟨p, rfl⟩ := mem_placesOf.1 hi
    exact (s.place axis l p).isLt
  · intro hi
    refine ⟨_, List.mem_map.2 ⟨s.lineThrough axis ⟨i, hi⟩, List.mem_finRange _, rfl⟩, ?_⟩
    exact mem_placesOf.2 ⟨s.component axis ⟨i, hi⟩,
      congrArg Fin.val (moved_component axis ⟨i, hi⟩)⟩

/-- Two coordinates are on one line exactly if they agree off its axis. -/
lemma on_one_line_iff {a d : List Nat} (ha : s.Contains a) (hd : s.Contains d) :
    (∃ l ∈ s.linesAlong axis, s.flatIndex a ∈ l ∧ s.flatIndex d ∈ l) ↔
      ∀ b, b ≠ axis.val → a[b]? = d[b]? := by
  constructor
  · rintro ⟨l, hl, hal, hdl⟩ b hb
    obtain ⟨e, he, rfl⟩ := mem_linesAlong_iff.1 hl
    have hset {a : List Nat} (ha : s.Contains a)
        (hal : s.flatIndex a ∈ Vector.ofFn fun p : Fin (s.get axis) =>
          s.flatIndex (e.set axis p)) : a[b]? = e[b]? := by
      obtain ⟨p, hp⟩ := Vector.mem_ofFn.1 hal
      rw [← ha.coordinate_flatIndex, ← hp,
        (he.set axis.isLt p.isLt).coordinate_flatIndex, List.getElem?_set_ne (Ne.symm hb)]
    rw [hset ha hal, hset hd hdl]
  · intro h
    have haxis {a : List Nat} (ha : s.Contains a) : ∃ p : Fin (s.get axis),
        a[axis.val]? = some p.val := by
      obtain ⟨-, p, hp, -⟩ := Grid.exists_get?_mapLines ha axis id (Grid.fill s ())
      exact ⟨p, hp⟩
    -- a coordinate that agrees with `a` off the axis is `a` with another component
    have hset {e : List Nat} {p : Fin (s.get axis)} (hp : e[axis.val]? = some p.val)
        (he : ∀ b, b ≠ axis.val → a[b]? = e[b]?) : a.set axis p = e := by
      refine List.ext_getElem? fun b => ?_
      by_cases hb : b = axis.val
      · subst hb
        have hlt : axis.val < a.length := by
          rw [ha.length_eq]
          exact axis.isLt
        rw [List.getElem?_set_self hlt, hp]
      · rw [List.getElem?_set_ne (Ne.symm hb), he b hb]
    obtain ⟨p, hp⟩ := haxis ha
    obtain ⟨q, hq⟩ := haxis hd
    refine ⟨_, mem_linesAlong_iff.2 ⟨a, ha, rfl⟩, ?_, ?_⟩
    · exact Vector.mem_ofFn.2 ⟨p, congrArg _ (hset hp fun _ _ => rfl)⟩
    · exact Vector.mem_ofFn.2 ⟨q, congrArg _ (hset hq h)⟩

end Shape

/-- **The lines along an axis make up the buffer.**  No place is on two lines and every place is on
one; a line is what the coordinates that agree off the axis make up, in the order of their
component on the axis.  So replacing the lines one after the other, in a new grid or in place,
writes every place once and leaves in the cell at a coordinate what the new line through it has
there; and reversing the lines twice gives back the grid. -/
theorem lines_partition_buffer (s : Shape) (axis : Fin s.length) :
    ((s.linesAlong axis).Pairwise fun l m => ∀ i ∈ l, i ∉ m) ∧
    (∀ i, (∃ l ∈ s.linesAlong axis, i ∈ l) ↔ i < s.size) ∧
    (∀ l, l ∈ s.linesAlong axis ↔
      ∃ a, s.Contains a ∧ l = Vector.ofFn fun p => s.flatIndex (a.set axis p)) ∧
    (∀ a d, s.Contains a → s.Contains d →
      ((∃ l ∈ s.linesAlong axis, s.flatIndex a ∈ l ∧ s.flatIndex d ∈ l) ↔
        ∀ b, b ≠ axis.val → a[b]? = d[b]?)) ∧
    (∀ {α β : Type} (blank : β) (f : Vector α (s.get axis) → Vector β (s.get axis))
      (g : Grid s α),
      g.sweepInto blank axis f = .ok (g.mapLines axis f) ∧
      (∃ journal, g.sweep (fun journal place (_ : β) => .ok (journal ++ [place])) axis f [] =
        .ok journal ∧ journal.Perm (List.range s.size)) ∧
      ∀ a, s.Contains a →
        ∃ (line : Vector α (s.get axis)) (p : Fin (s.get axis)), a[axis.val]? = some p.val ∧
          (∀ q : Fin (s.get axis), g.get? (a.set axis q) = .ok (line.get q)) ∧
          (g.mapLines axis f).get? a = .ok ((f line).get p)) ∧
    (∀ {α : Type} (f : Vector α (s.get axis) → Vector α (s.get axis)) (g : Grid s α),
      g.sweepInPlace axis f = .ok (g.mapLines axis f)) ∧
    ∀ {α : Type} (blank : α) (g : Grid s α),
      (do (← g.sweepInto blank axis Vector.reverse).sweepInto blank axis Vector.reverse) =
        .ok g := by
  refine ⟨s.pairwise_linesAlong axis, fun _ => Shape.exists_mem_linesAlong_iff,
    fun _ => Shape.mem_linesAlong_iff, fun _ _ => Shape.on_one_line_iff, fun blank f g => ?_,
    fun f g => Grid.sweepInPlace_eq f g, fun blank g => ?_⟩
  · exact ⟨Grid.sweepInto_eq blank g, Grid.exists_journal g,
      fun _ hc => Grid.exists_get?_mapLines hc axis f g⟩
  · rw [Grid.sweepInto_eq]
    show (g.mapLines axis Vector.reverse).sweepInto blank axis Vector.reverse = _
    rw [Grid.sweepInto_eq, Grid.mapLines_mapLines]
    refine congrArg Except.ok (Eq.trans ?_ (g.mapLines_id axis))
    exact congrArg (g.mapLines axis) (funext fun line => line.reverse_reverse)

/-- The second axis of a grid of two by three has two lines, and reversing them takes the last
cell of a line to its front. -/
theorem lines_partition_two_by_three :
    let lines : List (Vector Nat 3) := Shape.linesAlong [2, 3] ⟨1, by decide⟩
    let grid : Grid [2, 3] Nat := Grid.ofFn [2, 3] fun c => 10 * c.getD 0 0 + c.getD 1 0
    lines = [#v[0, 2, 4], #v[1, 3, 5]] ∧
    ((∃ l ∈ lines, 1 ∈ l ∧ 5 ∈ l) ↔ ∀ b, b ≠ 1 → [1, 0][b]? = [1, 2][b]?) ∧
    ∃ line : Vector Nat 3, (∀ q : Fin 3, grid.get? [1, q] = .ok (line.get q)) ∧
      (grid.mapLines ⟨1, by decide⟩ Vector.reverse).get? [1, 0] = .ok (line.reverse.get 0) := by
  intro lines grid
  obtain ⟨-, -, -, hline, hsweep, -⟩ := lines_partition_buffer [2, 3] ⟨1, by decide⟩
  refine ⟨by decide, ?_, ?_⟩
  · exact hline [1, 0] [1, 2] (by simp [Shape.Contains]) (by simp [Shape.Contains])
  · obtain ⟨-, -, hcell⟩ := hsweep 0 Vector.reverse grid
    obtain ⟨line, p, hp, hread, hnew⟩ := hcell [1, 0] (by simp [Shape.Contains])
    obtain rfl : p = (0 : Fin 3) := Fin.ext (Option.some.inj hp).symm
    exact ⟨line, hread, hnew⟩

end Raster
