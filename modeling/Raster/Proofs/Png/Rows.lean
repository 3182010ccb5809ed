import Raster.Proofs.Deflate.Stored
import Raster.Proofs.Grid.Place
import Raster.Proofs.Png.Chunks
/-!
# Reading a picture that was written

The bytes of samples are read as the samples (`unpack_samples`), rows without prediction as they
stand (`restoreRows_plain`), and the pixels of a row in their order (`rowPixels_bytes`).  The one
pass over a picture therefore has its pixels (`readPass_rowsOf`), and reading what was written
gives the picture (`decode_encode`).
-/

namespace Raster.Png

/-! ## Samples -/

lemma wideNumbers_samples {samples : List Nat} (h : ∀ v ∈ samples, v < 65536) :
    wideNumbers (samples.flatMap (Bytes.ofBigEndian 2)) = samples := by
  induction samples with
  | nil => rfl
  | cons v samples ih =>
    have hv : v < 65536 := h v List.mem_cons_self
    have hbytes : Bytes.ofBigEndian 2 v = [BitVec.ofNat 8 (v / 256), BitVec.ofNat 8 v] := rfl
    have hnumber : 256 * (v / 256 % 256) + v % 256 = v := by omega
    rw [List.flatMap_cons, hbytes, List.cons_append, List.cons_append, List.nil_append, wideNumbers,
      ih fun v hv => h v (List.mem_cons_of_mem _ hv)]
    simpa using hnumber

lemma narrowNumbers_samples {samples : List Nat} (h : ∀ v ∈ samples, v < 256) :
    (samples.flatMap (Bytes.ofBigEndian 1)).flatMap (fun b => unpackNumber 8 b.toNat 1) =
      samples := by
  induction samples with
  | nil => rfl
  | cons v samples ih =>
    have hv : v < 256 := h v List.mem_cons_self
    have hnumber : unpackNumber 8 (BitVec.ofNat 8 v).toNat 1 = [v] := by
      simp [unpackNumber, Nat.mod_eq_of_lt hv]
    have hbytes : Bytes.ofBigEndian 1 v = [BitVec.ofNat 8 v] := rfl
    rw [List.flatMap_cons, hbytes, List.singleton_append, List.flatMap_cons, hnumber,
      ih fun v hv => h v (List.mem_cons_of_mem _ hv), List.singleton_append]

/-- The samples of a picture have one or two bytes each. -/
lemma unpack_samples {l : Layout} {samples : List Nat} (h : ∀ v ∈ samples, v ≤ l.top) :
    unpack (8 * l.sampleBytes) (samples.flatMap (Bytes.ofBigEndian l.sampleBytes)) = samples := by
  have hlt : ∀ v ∈ samples, v < 1 <<< (8 * l.sampleBytes) := fun v hv =>
    SampleBuffer.lt_of_le_top (h v hv)
  obtain ⟨hasColour, hasOpacity, isWide⟩ := l
  cases isWide with
  | true => exact wideNumbers_samples hlt
  | false =>
    have hone : Layout.sampleBytes ⟨hasColour, hasOpacity, false⟩ = 1 := rfl
    rw [hone, unpack, if_neg (by decide)]
    exact narrowNumbers_samples hlt

/-! ## Pixels -/

section

variable (p : Picture)

lemma channels_modelOf (l : Layout) : (modelOf l).channels = l.channels := by
  obtain ⟨hasColour, hasOpacity, isWide⟩ := l
  cases hasColour <;> cases hasOpacity <;> rfl

lemma layout_preambleOf : (preambleOf p).layout = p.layout := by
  obtain ⟨⟨hasColour, hasOpacity, isWide⟩, w, h, pixels⟩ := p
  cases hasColour <;> cases hasOpacity <;> cases isWide <;> rfl

/-- Without a palette and without transparent colours the samples in a file are those of the
picture. -/
lemma pixelSamples_preambleOf (samples : List Nat) :
    (preambleOf p).pixelSamples samples = samples := by
  have hdepth : ¬(preambleOf p).header.depth < 8 := by
    show ¬8 * p.layout.sampleBytes < 8
    rw [Layout.sampleBytes]
    split <;> decide
  have hscaled : samples.map (preambleOf p).scaled = samples :=
    (List.map_congr_left fun v _ => if_neg hdepth).trans (List.map_id' samples)
  obtain ⟨⟨hasColour, hasOpacity, isWide⟩, w, h, pixels⟩ := p
  cases hasColour <;> cases hasOpacity
  · exact hscaled
  · rfl
  · exact hscaled
  · rfl

/-- A pixel as it is read. -/
def reread (v : Vector Nat p.layout.channels) : Vector Nat (preambleOf p).layout.channels :=
  (preambleOf p).pixel v.toList

lemma toList_reread (v : Vector Nat p.layout.channels) : (reread p v).toList = v.toList := by
  have hlength : v.toList.length = (preambleOf p).layout.channels := by
    rw [layout_preambleOf, Vector.length_toList]
  have hpixel : reread p v = (preambleOf p).layout.assemble v.toList := by
    rw [reread, Preamble.pixel, pixelSamples_preambleOf]
    rfl
  rw [hpixel, Layout.toList_assemble hlength]

/-- A picture whose pixels have been read is the picture. -/
lemma map_reread :
    ⟨(preambleOf p).layout, p.width, p.height, p.pixels.map (reread p)⟩ = p := by
  refine SampleBuffer.eq_of_buffer_eq ?_
  have hsamples : (p.pixels.map (reread p)).toList.flatMap Vector.toList =
      p.pixels.toList.flatMap Vector.toList := by
    rw [Grid.toList, Grid.map, Vector.toList_map, List.flatMap_map, List.flatMap, List.flatMap,
      List.map_congr_left fun v _ => toList_reread p v, Grid.toList]
  simp only [Picture.buffer, hsamples, layout_preambleOf]

end

/-! ## Rows -/

/-- The induction is on the rows; each of them is as long as the one above. -/
lemma restoreRows_plain (short : Rejection) {stride n : Nat} (hstride : 0 < stride)
    {rows : List (List Byte)} (hrows : ∀ row ∈ rows, row.length = n) {aboves : List Byte}
    (haboves : aboves.length = n) (tail : List Byte) :
    restoreRows short stride n rows.length aboves (rows.flatMap (0 :: ·) ++ tail) =
      .ok (rows, tail) := by
  induction rows generalizing aboves with
  | nil => rfl
  | cons row rows ih =>
    have hrow : row.length = n := hrows row List.mem_cons_self
    have hcut : Bytes.cut? n (row ++ (rows.flatMap (0 :: ·) ++ tail)) =
        some (row, rows.flatMap (0 :: ·) ++ tail) := by
      have := Bytes.cut?_append row (rows.flatMap (0 :: ·) ++ tail)
      rwa [hrow] at this
    have hplain : RowFilter.ofByte? 0 = some .plain := rfl
    have hrestore : RowFilter.plain.restore stride aboves row = row :=
      RowFilter.restoreFrom_plain _ _ _ _ (by simpa using hstride) (by simpa using hstride)
        (by omega)
    have hbelow := ih (fun row h => hrows row (List.mem_cons_of_mem _ h)) hrow
    rw [List.flatMap_cons, List.length_cons, List.cons_append, List.cons_append, List.append_assoc,
      restoreRows]
    simp only [hcut, hplain, hrestore, hbelow, bind, Except.bind]
    rfl

variable {p : Picture}

/-- The bytes of a row. -/
def rowBytesOf (l : Layout) (row : List (Vector Nat l.channels)) : List Byte :=
  row.flatMap (pixelBytes l)

lemma length_pixelBytes (l : Layout) (v : Vector Nat l.channels) :
    (pixelBytes l v).length = l.channels * l.sampleBytes := by
  simp [pixelBytes, List.length_flatMap, List.map_const']

lemma length_rowBytesOf (p : Picture) {row : List (Vector Nat p.layout.channels)} :
    (rowBytesOf p.layout row).length = (headerOf p).rowBytes row.length := by
  have hbits : (headerOf p).pixelBits = 8 * (p.layout.channels * p.layout.sampleBytes) := by
    rw [Header.pixelBits, headerOf, channels_modelOf]
    ring
  have hlength : (rowBytesOf p.layout row).length =
      p.layout.channels * p.layout.sampleBytes * row.length := by
    rw [rowBytesOf, List.length_flatMap, funext (length_pixelBytes p.layout), List.map_const',
      List.sum_replicate_nat, Nat.mul_comm]
  rw [hlength, Header.rowBytes, hbits, Nat.mul_assoc 8]
  omega

/-- **The pixels of a row are read in their order.** -/
lemma rowPixels_bytes {row : List (Vector Nat p.layout.channels)}
    (h : ∀ v ∈ row.flatMap Vector.toList, v ≤ p.layout.top) :
    (preambleOf p).rowPixels row.length (rowBytesOf p.layout row) = row.map (reread p) := by
  have hsamples : unpack (8 * p.layout.sampleBytes) (rowBytesOf p.layout row) =
      row.flatMap Vector.toList := by
    have hbytes : rowBytesOf p.layout row =
        (row.flatMap Vector.toList).flatMap (Bytes.ofBigEndian p.layout.sampleBytes) :=
      List.flatMap_assoc.symm
    rw [hbytes, unpack_samples h]
  have hpieces : pieces (modelOf p.layout).channels row.length (row.flatMap Vector.toList) =
      row.map Vector.toList := by
    rw [channels_modelOf]
    exact pieces_flatMap (fun _ => Vector.length_toList) rfl
  show (pieces (modelOf p.layout).channels row.length
    (unpack (8 * p.layout.sampleBytes) (rowBytesOf p.layout row))).map (preambleOf p).pixel = _
  rw [hsamples, hpieces, List.map_map]
  rfl

/-! ## The pass over the picture -/

/-- The rows of the picture. -/
def rowsIn (p : Picture) : List (List (Vector Nat p.layout.channels)) :=
  pieces p.width p.height p.pixels.toList

lemma length_of_mem_rowsIn {row : List (Vector Nat p.layout.channels)} (h : row ∈ rowsIn p) :
    row.length = p.width := by
  refine length_of_mem_pieces ?_ h
  rw [Grid.toList, Vector.length_toList]
  simp [Shape.size]

lemma mem_of_mem_rowsIn {row : List (Vector Nat p.layout.channels)} (h : row ∈ rowsIn p)
    {v : Vector Nat p.layout.channels} (hv : v ∈ row) : v ∈ p.pixels.toList := by
  have hflatten := flatten_pieces p.width p.height p.pixels.toList
  exact List.mem_of_mem_take (hflatten ▸ List.mem_flatten.2 ⟨row, h, hv⟩)

lemma restoreRows_rowsOf (p : Picture) (short : Rejection) :
    restoreRows short (headerOf p).stride ((headerOf p).rowBytes p.width) (rowsIn p).length
      (List.replicate ((headerOf p).rowBytes p.width) 0) (rowsOf p) =
        .ok ((rowsIn p).map (rowBytesOf p.layout), []) := by
  have hrows : rowsOf p = ((rowsIn p).map (rowBytesOf p.layout)).flatMap (0 :: ·) ++ [] := by
    rw [List.append_nil, List.flatMap_map]
    rfl
  have hlengths : ∀ row ∈ (rowsIn p).map (rowBytesOf p.layout),
      row.length = (headerOf p).rowBytes p.width := by
    intro row hrow
    obtain ⟨row, hmem, rfl⟩ := List.mem_map.1 hrow
    rw [length_rowBytesOf, length_of_mem_rowsIn hmem]
  have hstride : 0 < (headerOf p).stride := Nat.lt_of_lt_of_le Nat.one_pos (Nat.le_max_left _ _)
  have hrestored := restoreRows_plain short hstride hlengths
    (List.length_replicate (n := (headerOf p).rowBytes p.width) (a := 0)) []
  rwa [← hrows, List.length_map] at hrestored

lemma rowPixels_of_mem_rowsIn (hrange : p.buffer.IsInRange)
    {row : List (Vector Nat p.layout.channels)} (h : row ∈ rowsIn p) :
    (preambleOf p).rowPixels p.width (rowBytesOf p.layout row) = row.map (reread p) := by
  rw [← length_of_mem_rowsIn h]
  refine rowPixels_bytes fun v hv => ?_
  obtain ⟨pixel, hpixel, hmem⟩ := List.mem_flatMap.1 hv
  exact hrange v (List.mem_flatMap.2 ⟨pixel, mem_of_mem_rowsIn h hpixel, hmem⟩)

/-- **The pass over a picture has its rows.** -/
lemma readPass_rowsOf (hw : 0 < p.width) (hrange : p.buffer.IsInRange) (short : Rejection) :
    readPass (preambleOf p) short Pass.whole (rowsOf p) =
      .ok (((rowsIn p).map fun row => (row.map (reread p)).toArray).toArray, []) := by
  have hcolumns : Pass.whole.columns (preambleOf p).header.width = p.width := by
    show (p.width - 0 + 0) / 1 = p.width
    simp
  have hheight : Pass.whole.rows (preambleOf p).header.height = (rowsIn p).length := by
    show (p.height - 0 + 0) / 1 = (rowsIn p).length
    simp [rowsIn]
  have hheader : (preambleOf p).header = headerOf p := rfl
  rw [readPass]
  simp only [hcolumns, hheight, if_neg (Nat.pos_iff_ne_zero.1 hw)]
  rw [hheader, restoreRows_rowsOf]
  simp only [bind, Except.bind, List.map_map, pure, Except.pure]
  rw [List.map_congr_left (g := fun row => (row.map (reread p)).toArray) fun row hrow => ?_]
  exact congrArg List.toArray (rowPixels_of_mem_rowsIn hrange hrow)

/-! ## Reading what was written -/

/-- A pixel of a picture is found where its coordinate says. -/
lemma getElem?_rowsIn (i : Fin (Shape.size [p.width, p.height])) :
    ∃ row, (rowsIn p)[i / p.width % p.height]? = some row ∧
      row[i % p.width]? = some (p.pixels.cells.get i) := by
  have hi : (i : Nat) < p.width * p.height := by
    have := i.isLt
    simpa [Shape.size] using this
  have hw : 0 < p.width := Nat.pos_of_mul_pos_right (Nat.zero_lt_of_lt hi)
  have hy : i / p.width < p.height := Nat.div_lt_of_lt_mul hi
  rw [Nat.mod_eq_of_lt hy]
  refine ⟨_, getElem?_pieces hy, ?_⟩
  rw [List.getElem?_take_of_lt (Nat.mod_lt _ hw), List.getElem?_drop, Nat.div_add_mod,
    List.getElem?_eq_getElem (by simp [Grid.toList])]
  rfl

lemma pixelAt_whole {l : Layout} (rows : List (List (Vector Nat l.channels))) {x y : Nat}
    {row : List (Vector Nat l.channels)} {v : Vector Nat l.channels} (hrow : rows[y]? = some row)
    (hv : row[x]? = some v) :
    pixelAt l [(Pass.whole, (rows.map List.toArray).toArray)] x y = v := by
  have htakes : Pass.whole.takes x y = true := by
    simp [Pass.takes, Pass.whole, Nat.mod_one]
  have hfind : [(Pass.whole, (rows.map List.toArray).toArray)].find?
      (fun (pass, _) => pass.takes x y) = some (Pass.whole, (rows.map List.toArray).toArray) :=
    List.find?_cons_of_pos htakes
  rw [pixelAt, hfind]
  simp [Pass.whole, Array.getD_eq_getD_getElem?, hrow, hv]

lemma lacksPalette_preambleOf (p : Picture) : (preambleOf p).lacksPalette = false := by
  have hmodel : modelOf p.layout ≠ .indexed := by
    rw [modelOf]
    split <;> decide
  rw [Preamble.lacksPalette, Bool.and_eq_false_iff]
  exact Or.inl (decide_eq_false hmodel)

/-- The rows as they are read. -/
def rowsRead (p : Picture) : List (List (Vector Nat (preambleOf p).layout.channels)) :=
  (rowsIn p).map (List.map (reread p))

/-- The pixels of the pass are those of the picture. -/
lemma ofFn_pixelAt (p : Picture) :
    (Grid.ofFn [p.width, p.height] fun c =>
      pixelAt (preambleOf p).layout [(Pass.whole, ((rowsRead p).map List.toArray).toArray)]
        (c.getD 0 0) (c.getD 1 0)) = p.pixels.map (reread p) := by
  refine Grid.ext_get fun i => ?_
  obtain ⟨row, hrow, hv⟩ := getElem?_rowsIn i
  have hread : (rowsRead p)[i / p.width % p.height]? = some (row.map (reread p)) := by
    rw [rowsRead, List.getElem?_map, hrow]
    rfl
  have hcell : pixelAt (preambleOf p).layout
      [(Pass.whole, ((rowsRead p).map List.toArray).toArray)] (i % p.width)
        (i / p.width % p.height) = reread p (p.pixels.cells.get i) :=
    pixelAt_whole _ hread (by rw [List.getElem?_map, hv]; rfl)
  rw [Grid.get_map, ← hcell]
  exact get_ofFn _ i

/-- **Reading what was written gives the picture.** -/
lemma decode_encode (hw : 0 < p.width ∧ p.width < UInt32.size)
    (hh : 0 < p.height ∧ p.height < UInt32.size) (hrange : p.buffer.IsInRange) :
    decode (encode p) = .ok p := by
  have hjoined : joinedData [] (dataAndEnd p) = (Deflate.wrap (rowsOf p), .complete) :=
    joinedData_dataChunks [] _ (by decide)
  have hpass (short : Rejection) : readPasses (preambleOf p) short (headerOf p).passes (rowsOf p) =
      .ok [(Pass.whole, ((rowsRead p).map List.toArray).toArray)] := by
    have hone : (headerOf p).passes = [Pass.whole] := rfl
    rw [hone, readPasses, readPass_rowsOf hw.1 hrange short, rowsRead, List.map_map]
    rfl
  have hheader : (preambleOf p).header = headerOf p := rfl
  rw [decode, openFile_encode (fits_headerOf hw hh)]
  simp only [bind, Except.bind, lacksPalette_preambleOf, hjoined, Deflate.unwrap_wrap, hheader,
    hpass]
  exact congrArg Except.ok
    ((congrArg (Picture.mk (preambleOf p).layout p.width p.height) (ofFn_pixelAt p)).trans
      (map_reread p))

end Raster.Png
