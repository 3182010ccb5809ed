import Raster.Png.Encode
import Raster.Proofs.Format.Samples
/-!
# The chunks of a file that was written

A file that was written is cut into the chunks that it was made of, with nothing left behind
them (`splitChunks_bytes`).  The header is read from the first (`ofBytes?_bytes`), and the data
are joined from those that follow (`joinedData_dataChunks`).  Together they say what is known of
the file before its rows are looked at (`openFile_encode`).
-/

namespace Raster.Png

/-! ## Cutting a file into chunks -/

namespace Chunk

/-- The parts of a chunk have lengths that can be read back. -/
structure Fits (c : Chunk) : Prop where
  kind : c.kind.length = 4
  checksum : c.checksum.length = 4
  data : c.data.length < UInt32.size

lemma Fits.ofData {kind data : List Byte} (hkind : kind.length = 4)
    (hdata : data.length < UInt32.size) : (ofData kind data).Fits :=
  ⟨hkind, Bytes.length_ofBigEndian 4 _, hdata⟩

lemma Fits.length_le {c : Chunk} (h : c.Fits) : 12 ≤ c.bytes.length := by
  simp only [bytes, List.length_append, Bytes.length_ofBigEndian, h.kind, h.checksum]
  omega

end Chunk

/-- The induction is on the chunks that were written. -/
lemma cutChunks_bytes {cs : List Chunk} (h : ∀ c ∈ cs, c.Fits) {count : Nat}
    (hcount : cs.length ≤ count) : cutChunks count (cs.flatMap Chunk.bytes) = (cs, []) := by
  induction cs generalizing count with
  | nil =>
    cases count with
    | zero => rfl
    | succ count => rfl
  | cons c cs ih =>
    obtain ⟨count, rfl⟩ := Nat.exists_eq_succ_of_ne_zero (n := count) (by
      rw [List.length_cons] at hcount
      omega)
    have hc := h c List.mem_cons_self
    have hrest := ih (fun c hc => h c (List.mem_cons_of_mem _ hc)) (Nat.le_of_succ_le_succ hcount)
    rw [List.flatMap_cons, cutChunks, cutChunk?_bytes c _ hc.kind hc.checksum hc.data]
    simp only [hrest]

lemma length_le_of_fits {cs : List Chunk} (h : ∀ c ∈ cs, c.Fits) :
    12 * cs.length ≤ (cs.flatMap Chunk.bytes).length := by
  induction cs with
  | nil => simp
  | cons c cs ih =>
    have hc := (h c List.mem_cons_self).length_le
    have hcs := ih fun c hc => h c (List.mem_cons_of_mem _ hc)
    rw [List.flatMap_cons, List.length_append, List.length_cons]
    omega

/-- **A file is cut into the chunks that it was made of.** -/
lemma splitChunks_bytes {cs : List Chunk} (h : ∀ c ∈ cs, c.Fits) :
    splitChunks (cs.flatMap Chunk.bytes) = (cs, []) := by
  have hlength := length_le_of_fits h
  exact cutChunks_bytes h (by omega)

/-! ## The header -/

/-- The numbers of a header are in range. -/
structure Header.Fits (h : Header) : Prop where
  width_pos : 0 < h.width
  width_lt : h.width < UInt32.size
  height_pos : 0 < h.height
  height_lt : h.height < UInt32.size
  depth : h.depth ∈ h.model.depths

lemma Header.Fits.depth_lt {h : Header} (hf : h.Fits) : h.depth < 256 := by
  have hdepth : ∀ m : Model, ∀ d ∈ m.depths, d < 256 := by
    intro m
    cases m <;> decide
  exact hdepth h.model h.depth hf.depth

/-- A header is read back. -/
lemma Header.ofBytes?_bytes {h : Header} (hf : h.Fits) : Header.ofBytes? h.bytes = some h := by
  set tail : List Byte :=
    [BitVec.ofNat 8 h.depth, BitVec.ofNat 8 h.model.code, 0, 0, if h.isInterlaced then 1 else 0]
    with htail
  have hwidth : Bytes.cut? 4 h.bytes =
      some (Bytes.ofBigEndian 4 h.width, Bytes.ofBigEndian 4 h.height ++ tail) := by
    have := Bytes.cut?_append (Bytes.ofBigEndian 4 h.width) (Bytes.ofBigEndian 4 h.height ++ tail)
    rwa [Bytes.length_ofBigEndian] at this
  have hheight : Bytes.cut? 4 (Bytes.ofBigEndian 4 h.height ++ tail) =
      some (Bytes.ofBigEndian 4 h.height, tail) := by
    have := Bytes.cut?_append (Bytes.ofBigEndian 4 h.height) tail
    rwa [Bytes.length_ofBigEndian] at this
  have hnumbers : tail.map BitVec.toNat =
      [h.depth, h.model.code, 0, 0, if h.isInterlaced then 1 else 0] := by
    have hcode : h.model.code < 256 := by cases h.model <;> decide
    have hdepth := hf.depth_lt
    cases hi : h.isInterlaced <;>
      simp [htail, hi, Nat.mod_eq_of_lt hcode, Nat.mod_eq_of_lt hdepth]
  have hw : Bytes.bigEndian (Bytes.ofBigEndian 4 h.width) = h.width :=
    Bytes.bigEndian_ofBigEndian hf.width_lt
  have hh : Bytes.bigEndian (Bytes.ofBigEndian 4 h.height) = h.height :=
    Bytes.bigEndian_ofBigEndian hf.height_lt
  have hinterlaced : decide ((if h.isInterlaced then 1 else 0) = 1) = h.isInterlaced := by
    cases h.isInterlaced <;> rfl
  have hle : (if h.isInterlaced then 1 else 0) ≤ 1 := by split <;> decide
  simp only [Header.ofBytes?, hwidth, hheight, hnumbers, hw, hh, Model.ofCode?_code, hinterlaced,
    bind, Option.bind]
  rw [if_pos ⟨hf.width_pos, hf.height_pos, hf.depth, trivial, trivial, hle⟩]

/-! ## The data -/

/-- The data of chunks that were written, up to one of another kind. -/
lemma joinedData_ofData (rest : List Byte) (ds : List (List Byte)) {c : Chunk}
    (hc : c.kind ≠ dataKind) (cs : List Chunk) :
    joinedData rest (ds.map (Chunk.ofData dataKind) ++ c :: cs) = (ds.flatten, .complete) := by
  induction ds with
  | nil => exact if_neg hc
  | cons d ds ih =>
    have hkind : (Chunk.ofData dataKind d).kind = dataKind := rfl
    rw [List.map_cons, List.cons_append, joinedData, if_pos hkind,
      if_pos (Chunk.isSound_ofData dataKind d), ih]
    rfl

lemma joinedData_dataChunks (rest bs : List Byte) {c : Chunk} (hc : c.kind ≠ dataKind) :
    joinedData rest (dataChunks bs ++ [c]) = (bs, .complete) := by
  have hle : bs.length ≤ dataSize * (bs.length / dataSize + 1) :=
    Nat.le_of_lt (Nat.lt_mul_div_succ bs.length (by decide : 0 < dataSize))
  rw [dataChunks, joinedData_ofData rest _ hc, flatten_pieces_of_le hle]

lemma exists_dataChunks_cons (bs : List Byte) :
    ∃ d cs, dataChunks bs = Chunk.ofData dataKind d :: cs :=
  ⟨_, _, rfl⟩

lemma fits_of_mem_dataChunks {bs : List Byte} {c : Chunk} (h : c ∈ dataChunks bs) : c.Fits := by
  obtain ⟨d, hd, rfl⟩ := List.mem_map.1 h
  exact .ofData rfl (Nat.lt_of_le_of_lt (length_le_of_mem_pieces hd) (by decide))

/-! ## Opening a file -/

/-- What a file with a picture says before its data. -/
def preambleOf (p : Picture) : Preamble := ⟨headerOf p, none, none⟩

/-- The chunks from the first one with data on. -/
def dataAndEnd (p : Picture) : List Chunk :=
  dataChunks (Deflate.wrap (rowsOf p)) ++ [Chunk.ofData endKind []]

lemma depth_mem_depths (l : Layout) : 8 * l.sampleBytes ∈ (modelOf l).depths := by
  obtain ⟨hasColour, hasOpacity, isWide⟩ := l
  cases hasColour <;> cases hasOpacity <;> cases isWide <;> decide

/-- The header of a picture that is neither empty nor too long. -/
lemma fits_headerOf {p : Picture} (hw : 0 < p.width ∧ p.width < UInt32.size)
    (hh : 0 < p.height ∧ p.height < UInt32.size) : (headerOf p).Fits :=
  ⟨hw.1, hw.2, hh.1, hh.2, depth_mem_depths p.layout⟩

/-- The first chunk with data ends what stands before the data. -/
lemma read_chunks {h : Header} (hf : h.Fits) (d : List Byte) (cs : List Chunk) :
    Preamble.read (Chunk.ofData headerKind h.bytes :: Chunk.ofData dataKind d :: cs) [] =
      .ok (⟨h, none, none⟩, Chunk.ofData dataKind d :: cs) := by
  have hkind : (Chunk.ofData headerKind h.bytes).kind = headerKind := rfl
  have hdata : (Chunk.ofData dataKind d).kind = dataKind := rfl
  have hheader : Header.ofBytes? (Chunk.ofData headerKind h.bytes).data = some h :=
    Header.ofBytes?_bytes hf
  rw [Preamble.read, if_pos ⟨hkind, Chunk.isSound_ofData _ _⟩, hheader]
  exact if_pos hdata

/-- **A file that was written is opened,** and its data follow. -/
lemma openFile_encode {p : Picture} (hf : (headerOf p).Fits) :
    openFile (encode p) = .ok ⟨preambleOf p, dataAndEnd p, []⟩ := by
  set cs := Chunk.ofData headerKind (headerOf p).bytes :: dataAndEnd p with hcs
  have hfits : ∀ c ∈ cs, c.Fits := by
    intro c hc
    simp only [hcs, dataAndEnd, List.mem_cons, List.mem_append, List.not_mem_nil, or_false] at hc
    rcases hc with rfl | hdata | rfl
    · refine .ofData rfl ?_
      simp [Header.bytes, UInt32.size]
    · exact fits_of_mem_dataChunks hdata
    · exact .ofData rfl (by decide)
  have hsignature : afterSignature (encode p) = .ok (cs.flatMap Chunk.bytes) := rfl
  obtain ⟨d, rest, hd⟩ := exists_dataChunks_cons (Deflate.wrap (rowsOf p))
  have hread : Preamble.read cs [] = .ok (preambleOf p, dataAndEnd p) := by
    rw [hcs, dataAndEnd, hd]
    exact read_chunks hf d _
  rw [openFile, hsignature]
  simp only [bind, Except.bind, splitChunks_bytes hfits, hread]
  rfl

end Raster.Png
