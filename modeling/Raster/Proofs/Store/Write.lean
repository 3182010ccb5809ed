import Raster.Proofs.Grid.Edit
import Raster.Proofs.Grid.Lines
import Raster.Proofs.Store.Run
/-!
# Writing through a handle

In a well-formed store a pixel can be written through each handle at each coordinate of its
array.  It is then seen there through every handle on the buffer; nothing else that any handle
sees changes (`Store.WellFormed.step_set`).  Writing elsewhere fails, and leaves the store as it
is.  When lines are edited, every handle on the buffer sees in each cell what the edits of its line
leave there, up to the first edit that does not fit (`Store.WellFormed.step_editLines`).  A copy
has a buffer of its own.
-/

namespace Raster.Store

variable {s : Store} {source : String} {h : Handle}

/-- The pixel that a handle sees at a coordinate, with its type. -/
def pixel? (s : Store) (h : Handle) (c : List Nat) : Option ((t : PixelType) × t.Pixel) :=
  (s.image? h).bind fun image => (image.grid.get? c).toOption.map (Sigma.mk image.type)

lemma pixel?_eq {image : Image} (hsee : s.image? h = some image) (c : List Nat) :
    s.pixel? h c = (image.grid.get? c).toOption.map (Sigma.mk image.type) := by
  rw [pixel?, hsee]
  rfl

lemma pixel?_congr {s' : Store} {k : Handle} (hsee : s'.image? k = s.image? h) (c : List Nat) :
    s'.pixel? k c = s.pixel? h c := by
  rw [pixel?, pixel?, hsee]

/-! ## One change -/

/-- What is changed through a handle is what it sees. -/
lemma modify_eq (hsource : s.handle? source = some h) {g : Grid h.shape h.type.Pixel}
    (hsee : s.image? h = some ⟨h.type, h.shape, g⟩)
    (change : (shape : Shape) → Grid shape h.type.Pixel → Grid shape h.type.Pixel × Option Fault) :
    s.modify source h.type change =
      (s.write h ⟨h.type, h.shape, (change h.shape g).1⟩, (change h.shape g).2) := by
  rw [modify, find_eq_ok_iff.2 ⟨hsource, hsee⟩]
  simp only [Image.view_self]

/-- Through a handle of another type nothing is changed. -/
lemma modify_of_ne (hsource : s.handle? source = some h) {image : Image}
    (hsee : s.image? h = some image) {type : PixelType} (htype : h.type ≠ type)
    (change : (shape : Shape) → Grid shape type.Pixel → Grid shape type.Pixel × Option Fault) :
    s.modify source type change = (s, some (.view h.type type)) := by
  have himage : image.type = h.type := (image?_eq_some_iff.1 hsee).2.1
  have hview : image.view type = .error (.view h.type type) := by
    rw [Image.view, dif_neg (by rwa [himage]), himage]
  rw [modify, find_eq_ok_iff.2 ⟨hsource, hsee⟩]
  simp only [hview]

namespace WellFormed

lemma exists_grid (hs : s.WellFormed) (hsource : s.handle? source = some h) :
    ∃ g : Grid h.shape h.type.Pixel, s.image? h = some ⟨h.type, h.shape, g⟩ := by
  obtain ⟨⟨t, u, g⟩, hsee⟩ := hs.sees hsource
  obtain ⟨n, t', u'⟩ := h
  obtain ⟨-, htype, hshape⟩ := image?_eq_some_iff.1 hsee
  cases htype
  cases hshape
  exact ⟨g, hsee⟩

/-- What is written through a handle is seen through all handles on its buffer. -/
lemma image?_write_of_eq (hs : s.WellFormed) (hsource : s.handle? source = some h)
    (g : Grid h.shape h.type.Pixel) {m : String} {k : Handle} (hm : s.handle? m = some k)
    (hbuffer : k.buffer = h.buffer) :
    (s.write h ⟨h.type, h.shape, g⟩).image? k = some ⟨h.type, h.shape, g⟩ :=
  image?_write (hs.buffer_lt hsource) hbuffer (hs.type_eq hsource hm hbuffer.symm)
    (hs.shape_eq hsource hm hbuffer.symm)

/-- A change that fails and keeps the cells leaves the store as it is. -/
lemma modify_of_error (hs : s.WellFormed) (hsource : s.handle? source = some h) {type : PixelType}
    {f : (shape : Shape) → Grid shape type.Pixel → Except Fault (Grid shape type.Pixel)}
    (hf : ∀ g, ∃ fault, f h.shape g = .error fault) :
    ∃ fault, s.modify source type (fun shape g => orUnchanged g (f shape g)) =
      (s, some fault) := by
  obtain ⟨g, hsee⟩ := hs.exists_grid hsource
  by_cases htype : h.type = type
  · subst htype
    obtain ⟨fault, hfault⟩ := hf g
    refine ⟨fault, ?_⟩
    rw [modify_eq hsource hsee, hfault]
    exact congrArg (·, some fault) (write_self hsee)
  · exact ⟨_, modify_of_ne hsource hsee htype _⟩

/-! ## Setting a pixel -/

/-- A pixel that is set is seen through the handles on its buffer, and nothing else changes. -/
lemma step_set (hs : s.WellFormed) (hsource : s.handle? source = some h) {c : List Nat}
    (hc : h.shape.Contains c) (v : h.type.Pixel) :
    ∃ s', s.step (.set source c h.type v) = (s', none) ∧ s'.handles = s.handles ∧
      ∀ {m k}, s.handle? m = some k → ∀ d, s'.pixel? k d =
        if k.sharesWith h ∧ d = c then some ⟨h.type, v⟩ else s.pixel? k d := by
  obtain ⟨g, hsee⟩ := hs.exists_grid hsource
  obtain ⟨g', hset, hread⟩ := g.exists_set hc v
  refine ⟨s.write h ⟨h.type, h.shape, g'⟩, ?_, rfl, fun {m k} hm d => ?_⟩
  · rw [Store.step, modify_eq hsource hsee, hset]
    rfl
  · by_cases hbuffer : k.buffer = h.buffer
    · have hnew := hs.image?_write_of_eq hsource g' hm hbuffer
      have hold := (hs.image?_eq hm hsource hbuffer).trans hsee
      have hshares : k.sharesWith h = true := decide_eq_true hbuffer
      rw [pixel?_eq hnew, pixel?_eq hold, hread]
      by_cases hd : d = c
      · rw [if_pos hd, if_pos ⟨hshares, hd⟩]
        rfl
      · rw [if_neg hd, if_neg fun hboth => hd hboth.2]
    · have hshares : k.sharesWith h = false := decide_eq_false hbuffer
      rw [if_neg (by simp [hshares]), pixel?_congr (image?_write_of_ne _ hbuffer)]

/-- Outside the array nothing can be set. -/
lemma step_set_of_not_contains (hs : s.WellFormed) (hsource : s.handle? source = some h)
    {c : List Nat} (hc : ¬h.shape.Contains c) (type : PixelType) (v : type.Pixel) :
    ∃ fault, s.step (.set source c type v) = (s, some fault) :=
  hs.modify_of_error hsource (f := fun _ g => g.set c v) fun g => g.exists_set_error hc v

/-- Setting a pixel by its place is setting it by its coordinate. -/
lemma step_setFlat (hs : s.WellFormed) (hsource : s.handle? source = some h) {c : List Nat}
    (hc : h.shape.Contains c) (v : h.type.Pixel) :
    s.step (.setFlat source (h.shape.flatIndex c) h.type v) =
      s.step (.set source c h.type v) := by
  obtain ⟨g, hsee⟩ := hs.exists_grid hsource
  rw [Store.step, Store.step, modify_eq hsource hsee, modify_eq hsource hsee,
    g.setFlat_flatIndex hc]

/-- Setting an element of a line is setting the pixel by its coordinate. -/
lemma step_setOnLine (hs : s.WellFormed) (hsource : s.handle? source = some h) {c : List Nat}
    (hc : h.shape.Contains c) (v : h.type.Pixel) (axis : Fin h.shape.length) {i : Fin h.shape.size}
    (hi : i.val = h.shape.flatIndex c) :
    s.step (.editLines source axis h.type
        (Grid.setOnLine (h.shape.lineThrough axis i) (h.shape.component axis i) v)) =
      s.step (.set source c h.type v) := by
  obtain ⟨g, hsee⟩ := hs.exists_grid hsource
  have haxis : h.shape.axis? axis = .ok axis := dif_pos axis.isLt
  have hset : g.set c v = .ok ⟨g.cells.set i v⟩ := by
    rw [← g.setFlat_flatIndex hc, ← hi]
    exact dif_pos i.isLt
  rw [Store.step, Store.step, modify_eq hsource hsee, modify_eq hsource hsee, hset]
  simp only [editAxis, haxis, Grid.editLines_setOnLine]
  rfl

lemma step_setFlat_of_le (hs : s.WellFormed) (hsource : s.handle? source = some h) {i : Nat}
    (hi : h.shape.size ≤ i) (type : PixelType) (v : type.Pixel) :
    ∃ fault, s.step (.setFlat source i type v) = (s, some fault) :=
  hs.modify_of_error hsource (f := fun _ g => g.setFlat i v)
    fun _ => ⟨.outOfBounds, dif_neg (Nat.not_lt.2 hi)⟩

/-! ## Editing lines -/

/-- Lines that are edited are seen, through all handles on the buffer, as the edits leave them. -/
lemma step_editLines (hs : s.WellFormed) (hsource : s.handle? source = some h)
    (axis : Fin h.shape.length) (edits : Nat → List (LineEdit h.type.Pixel)) :
    ∃ g s', s.image? h = some ⟨h.type, h.shape, g⟩ ∧
      s.step (.editLines source axis h.type edits) =
        (s', LineEdit.failure? (h.shape.get axis)
          ((List.range (Grid.lineCount h.shape axis)).flatMap edits)) ∧
      s'.handles = s.handles ∧
      ∀ {m k}, s.handle? m = some k → k.sharesWith h → ∀ i : Fin h.shape.size,
        s'.pixel? k (h.shape.coordinate i) =
          some ⟨h.type, (LineEdit.made (h.shape.get axis) edits (h.shape.lineThrough axis i)).foldl
            LineEdit.after (g.line axis (h.shape.lineThrough axis i)).get
              (h.shape.component axis i)⟩ := by
  obtain ⟨g, hsee⟩ := hs.exists_grid hsource
  refine ⟨g, s.write h ⟨h.type, h.shape, (g.editLines axis edits).1⟩, hsee, ?_, rfl,
    fun {m k} hm hshares i => ?_⟩
  · have haxis : h.shape.axis? axis = .ok axis := dif_pos axis.isLt
    rw [Store.step, modify_eq hsource hsee]
    simp only [editAxis, haxis, Grid.editLines_snd]
  · have hnew := hs.image?_write_of_eq hsource (g.editLines axis edits).1 hm
      (of_decide_eq_true hshares)
    have hplace := Grid.get?_coordinate (g.editLines axis edits).1 i
    rw [pixel?_eq hnew, hplace, Grid.get_editLines]
    rfl

/-- Lines of pixels of another type, or along an axis that is not there, are not edited. -/
lemma step_editLines_of_ne (hs : s.WellFormed) (hsource : s.handle? source = some h) {axis : Nat}
    {type : PixelType} (hne : h.type ≠ type ∨ h.shape.length ≤ axis)
    (edits : Nat → List (LineEdit type.Pixel)) :
    ∃ fault, s.step (.editLines source axis type edits) = (s, some fault) := by
  obtain ⟨g, hsee⟩ := hs.exists_grid hsource
  by_cases htype : h.type = type
  · subst htype
    have haxis : h.shape.axis? axis = .error (.noSuchAxis axis h.shape.length) :=
      dif_neg (Nat.not_lt.2 (hne.resolve_left fun hne => hne rfl))
    refine ⟨.noSuchAxis axis h.shape.length, ?_⟩
    rw [Store.step, modify_eq hsource hsee]
    simp only [editAxis, haxis, write_self hsee]
  · exact ⟨_, modify_of_ne hsource hsee htype fun _ g => editAxis axis edits g⟩

/-! ## Copying -/

/-- A copy has the same pixels, in a buffer that nothing else leads to. -/
lemma step_copy (hs : s.WellFormed) (hsource : s.handle? source = some h) (name : String) :
    ∃ s' h' image, s.step (.copy name source) = (s', none) ∧ s'.handle? name = some h' ∧
      s.image? h = some image ∧ s'.image? h' = some image ∧
        ∀ {m k}, s.handle? m = some k → h'.sharesWith k = false ∧ s'.image? k = s.image? k := by
  obtain ⟨image, hsee⟩ := hs.sees hsource
  refine ⟨s.new name image, s.nextHandle image, image, ?_, ?_, hsee,
    image?_new_nextHandle name, fun {m k} hm => ⟨?_, image?_new name image (hs.buffer_lt hm)⟩⟩
  · rw [Store.step, makeFrom, find_eq_ok_iff.2 ⟨hsource, hsee⟩]
    rfl
  · rw [handle?_new, if_pos rfl]
  · exact decide_eq_false (Nat.ne_of_gt (hs.buffer_lt hm))

end WellFormed

/-! ## Runs -/

/-- What can be relied on where handles share buffers. -/
structure Coherent (s : Store) : Prop where
  /-- A handle leads to a buffer of its type, with as many cells as its shape has places. -/
  fits : ∀ {name h}, s.handle? name = some h → ∃ b, s.buffers[h.buffer]? = some b ∧
    b.type = h.type ∧ b.cells.size = h.shape.size
  /-- Handles on one buffer have the same type and the same shape. -/
  agree : ∀ {m n h k}, s.handle? m = some h → s.handle? n = some k → h.sharesWith k →
    h.type = k.type ∧ h.shape = k.shape
  /-- A pixel that is set at a coordinate of the array, by its place or on a line just as well,
  is seen there through all handles on the buffer, and no handle sees another change. -/
  set : ∀ {name h}, s.handle? name = some h → ∀ {c : List Nat}, h.shape.Contains c →
    ∀ v : h.type.Pixel, ∃ s', s.step (.set name c h.type v) = (s', none) ∧
      s.step (.setFlat name (h.shape.flatIndex c) h.type v) = (s', none) ∧
      (∀ (axis : Fin h.shape.length) (i : Fin h.shape.size), i.val = h.shape.flatIndex c →
        s.step (.editLines name axis h.type (Grid.setOnLine (h.shape.lineThrough axis i)
          (h.shape.component axis i) v)) = (s', none)) ∧
      s'.handles = s.handles ∧ ∀ {m k}, s.handle? m = some k → ∀ d, s'.pixel? k d =
        if k.sharesWith h ∧ d = c then some ⟨h.type, v⟩ else s.pixel? k d
  /-- Setting a pixel elsewhere leaves the store as it is. -/
  set_outside : ∀ {name h}, s.handle? name = some h → ∀ (type : PixelType) (v : type.Pixel),
    (∀ c, ¬h.shape.Contains c → ∃ fault, s.step (.set name c type v) = (s, some fault)) ∧
      ∀ i, h.shape.size ≤ i → ∃ fault, s.step (.setFlat name i type v) = (s, some fault)
  /-- When lines are edited, each cell has what the edits of its line leave at its position, as it
  is seen through all handles on the buffer.  The first edit that does not fit its line, such as a
  row of another length, is the last thing that is tried, and what the operation fails with. -/
  edit : ∀ {name h}, s.handle? name = some h → ∀ (axis : Fin h.shape.length)
    (edits : Nat → List (LineEdit h.type.Pixel)), ∃ g s',
      s.image? h = some ⟨h.type, h.shape, g⟩ ∧
      s.step (.editLines name axis h.type edits) =
        (s', LineEdit.failure? (h.shape.get axis)
          ((List.range (Grid.lineCount h.shape axis)).flatMap edits)) ∧
      s'.handles = s.handles ∧
      ∀ {m k}, s.handle? m = some k → k.sharesWith h → ∀ i : Fin h.shape.size,
        s'.pixel? k (h.shape.coordinate i) =
          some ⟨h.type, (LineEdit.made (h.shape.get axis) edits (h.shape.lineThrough axis i)).foldl
            LineEdit.after (g.line axis (h.shape.lineThrough axis i)).get
              (h.shape.component axis i)⟩
  /-- Lines of pixels of another type, or along an axis that is not there, are not edited. -/
  edit_outside : ∀ {name h}, s.handle? name = some h → ∀ {axis : Nat} {type : PixelType},
    h.type ≠ type ∨ h.shape.length ≤ axis → ∀ edits : Nat → List (LineEdit type.Pixel),
      ∃ fault, s.step (.editLines name axis type edits) = (s, some fault)
  /-- A copy has the pixels of its source, and shares its buffer with no handle that was there
  before. -/
  copy : ∀ {source h}, s.handle? source = some h → ∀ name, ∃ s' h' image,
    s.step (.copy name source) = (s', none) ∧ s'.handle? name = some h' ∧
      s.image? h = some image ∧ s'.image? h' = some image ∧
      ∀ {m k}, s.handle? m = some k → h'.sharesWith k = false ∧ s'.image? k = s.image? k
  /-- No operation changes what a handle sees whose buffer it does not write to. -/
  unwritten : ∀ (operation : StoreOperation) {m k}, s.handle? m = some k →
    (∀ {source h}, operation.written? = some source → s.handle? source = some h →
      k.sharesWith h = false) → (s.step operation).1.image? k = s.image? k

lemma WellFormed.coherent (hs : s.WellFormed) : s.Coherent where
  fits hname := by
    obtain ⟨g, hsee⟩ := hs.exists_grid hname
    exact ⟨_, (image?_eq_some_iff.1 hsee).1, rfl, g.cells.size_toArray⟩
  agree hm hn hshares := by
    have hbuffer := of_decide_eq_true hshares
    exact ⟨hs.type_eq hm hn hbuffer, hs.shape_eq hm hn hbuffer⟩
  set hname c hc v := by
    obtain ⟨s', hset, hhandles, hread⟩ := hs.step_set hname hc v
    exact ⟨s', hset, (hs.step_setFlat hname hc v).trans hset,
      fun axis i hi => (hs.step_setOnLine hname hc v axis hi).trans hset, hhandles, hread⟩
  set_outside hname type v :=
    ⟨fun _ hc => hs.step_set_of_not_contains hname hc type v,
      fun _ hi => hs.step_setFlat_of_le hname hi type v⟩
  edit hname := hs.step_editLines hname
  edit_outside hname _ _ hne := hs.step_editLines_of_ne hname hne
  copy hsource := hs.step_copy hsource
  unwritten operation _ _ := hs.image?_of_change (change_step s operation)

/-- **Handles on one buffer agree and see each other's writes, after any run of operations,**
those included that fail. -/
theorem run_coherent (operations : List StoreOperation) : (Store.empty.run operations).Coherent :=
  (WellFormed.empty.run operations).coherent

/-- Two handles on one buffer and a copy: what is set through one of the two is seen through the
other and not in the copy; and if the second of three rows is too short, the first one is written
and rotated, and the second one stays. -/
theorem run_coherent_three_handles :
    let s := Store.empty.run [.zeros "a" .rgb [2, 3], .share "b" "a", .copy "c" "a"]
    let rows (l : Nat) : List (LineEdit Rgb) :=
      if l = 1 then [.write []] else [.write [⟨1, 1, 1⟩, ⟨2, 2, 2⟩], .rotateLeft 1]
    (∃ s', s.step (.set "b" [1, 2] .rgb ⟨7, 8, 9⟩) = (s', none) ∧
      s'.pixel? ⟨0, .rgb, [2, 3]⟩ [1, 2] = some ⟨.rgb, ⟨7, 8, 9⟩⟩ ∧
      s'.pixel? ⟨1, .rgb, [2, 3]⟩ [1, 2] = s.pixel? ⟨1, .rgb, [2, 3]⟩ [1, 2]) ∧
    ∃ s', s.step (.editLines "b" 0 .rgb rows) = (s', some .lineLength) ∧
      s'.pixel? ⟨0, .rgb, [2, 3]⟩ [0, 0] = some ⟨.rgb, ⟨2, 2, 2⟩⟩ ∧
      s'.pixel? ⟨0, .rgb, [2, 3]⟩ [0, 1] = some ⟨.rgb, ⟨0, 0, 0⟩⟩ := by
  intro s rows
  have hs : s.Coherent := run_coherent [.zeros "a" .rgb [2, 3], .share "b" "a", .copy "c" "a"]
  have ha : s.handle? "a" = some ⟨0, .rgb, [2, 3]⟩ := rfl
  have hb : s.handle? "b" = some ⟨0, .rgb, [2, 3]⟩ := rfl
  have hc : s.handle? "c" = some ⟨1, .rgb, [2, 3]⟩ := rfl
  have hcontains : Shape.Contains [2, 3] [1, 2] := by simp [Shape.Contains]
  constructor
  · obtain ⟨s', hstep, -, -, -, hread⟩ := hs.set hb hcontains ⟨7, 8, 9⟩
    exact ⟨s', hstep, hread ha [1, 2], hread hc [1, 2]⟩
  · obtain ⟨g, s', hsee, hstep, -, hread⟩ := hs.edit hb (0 : Fin 2) rows
    cases hsee
    exact ⟨s', hstep, hread ha rfl (0 : Fin 6), hread ha rfl (2 : Fin 6)⟩

end Raster.Store
