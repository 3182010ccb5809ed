import Raster.Proofs.Options.RoundTrip
import Raster.Schema.SchemaJson
/-!
# Schemas and back

Every node is read back from the members that are written for it (`Schema.ofNodes?_nodes`), so a
schema is read back from its text (`Schema.parse_write`), unless its lists and objects nest deeper
than a text may.  `Schema.depth_toJson` bounds that depth by the gates around each other.  The
library that documents are written and read with need only be faithful.
-/

namespace Raster

open Raster.Field

/-! ## Fields -/

section Fields

lemma range?_rangeJson {α : Type} {bound? : Json → Option α} {bound : α → Json}
    (h : ∀ b, bound? (bound b) = some b) (range : Option (α × α)) :
    range? bound? (rangeJson bound range) = some range := by
  cases range with
  | none => rfl
  | some r =>
    rw [rangeJson, range?, h, h]
    rfl

lemma help?_helpJson (help : Option String) : help? (helpJson help) = some help := by
  cases help <;> rfl

lemma int?_toInt (n : Int32) : Field.int? (.int n.toInt) = some n := int32?_toInt n

lemma double?_double (x : Float) : double? (.double x) = some x := rfl

lemma length?_toNat (n : UInt64) : length? (.int n.toNat) = some n := by
  have hlt : (n.toNat : Int) < UInt64.size := by exact_mod_cast n.toNat_lt_size
  rw [length?, if_pos ⟨Int.natCast_nonneg _, hlt⟩, Int.toNat_natCast, UInt64.ofNat_toNat]

lemma texts?_texts (values : List String) :
    texts? (.list (values.map Json.text)) = some values := by
  rw [texts?]
  induction values with
  | nil => rfl
  | cons v values ih =>
    rw [List.map_cons, List.mapM_cons, ih]
    rfl

end Fields

namespace Schema

/-- The node of a setting is read back. -/
lemma ofNode?_setting (gated : Bool) (s : Setting) :
    ofNode? gated (.object ([("type", .text s.kind.nodeKind.name), ("var_name", .text s.id),
      ("name", .text s.name)] ++ s.kind.members ++ [("help", helpJson s.help)])) =
        some (.setting s) := by
  obtain ⟨id, name, kind, help⟩ := s
  rw [ofNode?]
  cases kind with
  | int d range =>
    show (do
      let default ← Field.int? (.int d.toInt)
      let range ← range? Field.int? (rangeJson (fun b : Int32 => .int b.toInt) range)
      let help ← help? (helpJson help)
      return Schema.setting ⟨id, name, .int default range, help⟩) = _
    rw [int?_toInt, range?_rangeJson int?_toInt, help?_helpJson]
    rfl
  | double d range =>
    show (do
      let range ← range? double? (rangeJson Json.double range)
      let help ← help? (helpJson help)
      return Schema.setting ⟨id, name, .double d range, help⟩) = _
    rw [range?_rangeJson double?_double, help?_helpJson]
    rfl
  | text d range =>
    show (do
      let range ← range? length? (rangeJson (fun b : UInt64 => .int b.toNat) range)
      let help ← help? (helpJson help)
      return Schema.setting ⟨id, name, .text d range, help⟩) = _
    rw [range?_rangeJson length?_toNat, help?_helpJson]
    rfl
  | choice d values =>
    show (do
      let values ← texts? (.list (values.map Json.text))
      let help ← help? (helpJson help)
      return Schema.setting ⟨id, name, .choice d values, help⟩) = _
    rw [texts?_texts, help?_helpJson]
    rfl
  | checkbox d =>
    show (do
      let help ← help? (helpJson help)
      return Schema.setting ⟨id, name, .checkbox d, help⟩) = _
    rw [help?_helpJson]
    rfl

/-- The nodes of a schema are read back. -/
lemma ofNodes?_nodes (s : Schema) (gated : Bool) : ofNodes? gated s.nodes = some s := by
  induction s generalizing gated with
  | nil => rw [nodes, ofNodes?]
  | header name rest ih =>
    have hnode : ofNode? gated (.object [("type", .text NodeKind.header.name),
        ("name", .text name)]) = some (.header name) := by
      rw [ofNode?]
      rfl
    rw [nodes, ofNodes?, hnode, ih]
    rfl
  | setting s rest ih =>
    rw [nodes, ofNodes?, ofNode?_setting, ih]
    rfl
  | gated g inner rest ihinner ih =>
    have hinner : ofJson? true (.list inner.nodes) = some inner := by rw [ofJson?, ihinner]
    have hnode : ofNode? gated (.object [("type", .text NodeKind.subsection.name),
        ("var_name", .text g.id), ("name", .text g.name), ("default", .bool g.default),
        ("options", .list inner.nodes), ("help", helpJson g.help)]) = some (.gated g inner) := by
      rw [ofNode?]
      show (do
        let inner ← ofJson? true (.list inner.nodes)
        let help ← help? (helpJson g.help)
        return Schema.gated ⟨g.id, g.name, g.default, help⟩ inner) = _
      rw [hinner, help?_helpJson]
      rfl
    rw [nodes, ofNodes?, hnode, ih]
    rfl

lemma ofJson?_toJson (s : Schema) : ofJson? false s.toJson = some s := by
  rw [toJson, ofJson?, ofNodes?_nodes]

end Schema

/-! ## Numbers in a schema -/

/-- The doubles in a setting: its default, and the bounds of its range. -/
def SettingKind.doubles : SettingKind → List Float
  | double d (some (lo, hi)) => [d, lo, hi]
  | double d none => [d]
  | _ => []

/-- The doubles in a schema. -/
def Schema.doubles : Schema → List Float
  | nil => []
  | header _ rest => rest.doubles
  | setting s rest => s.kind.doubles ++ rest.doubles
  | gated _ inner rest => inner.doubles ++ rest.doubles

lemma isWord_uint64 (n : UInt64) : IsWord n.toNat := by
  have hmax : (maxExtent : Int) = 18446744073709551615 := rfl
  have hlt := n.toNat_lt
  constructor <;> omega

section Numbers

variable {Whole : Int → Prop} {Broken : Float → Prop}

lemma numbersIn_rangeJson {α : Type} {bound : α → Json} {range : Option (α × α)}
    (h : ∀ r ∈ range, (bound r.1).NumbersIn Whole Broken ∧ (bound r.2).NumbersIn Whole Broken) :
    (rangeJson bound range).NumbersIn Whole Broken := by
  cases range with
  | none => trivial
  | some r => exact ⟨(h r rfl).1, (h r rfl).2, trivial⟩

lemma numbersIn_helpJson (help : Option String) : (helpJson help).NumbersIn Whole Broken := by
  cases help <;> trivial

lemma numbersIn_texts (values : List String) :
    (Json.list (values.map Json.text)).NumbersIn Whole Broken := by
  show Json.ItemsIn Whole Broken (values.map Json.text)
  induction values with
  | nil => trivial
  | cons v values ih => exact ⟨trivial, ih⟩

lemma membersIn_append {ms ms' : List (String × Json)} (h : Json.MembersIn Whole Broken ms)
    (h' : Json.MembersIn Whole Broken ms') : Json.MembersIn Whole Broken (ms ++ ms') := by
  induction ms with
  | nil => exact h'
  | cons m ms ih => exact ⟨h.1, ih h.2⟩

end Numbers

lemma SettingKind.membersIn [JsonLibrary] {k : SettingKind} (h : ∀ x ∈ k.doubles, ReadsBack x) :
    Json.MembersIn IsWord ReadsBack k.members := by
  cases k with
  | int d range =>
    refine ⟨isWord_int32 d, numbersIn_rangeJson fun r _ => ?_, trivial⟩
    exact ⟨isWord_int32 r.1, isWord_int32 r.2⟩
  | double d range =>
    cases range with
    | none => exact ⟨h d (by simp [doubles]), trivial, trivial⟩
    | some r =>
      obtain ⟨lo, hi⟩ := r
      have hrange : lo ∈ (double d (some (lo, hi))).doubles ∧
          hi ∈ (double d (some (lo, hi))).doubles := by simp [doubles]
      exact ⟨h d (by simp [doubles]), ⟨h lo hrange.1, h hi hrange.2, trivial⟩, trivial⟩
  | text d range =>
    refine ⟨trivial, numbersIn_rangeJson fun r _ => ?_, trivial⟩
    exact ⟨isWord_uint64 r.1, isWord_uint64 r.2⟩
  | choice d values => exact ⟨trivial, numbersIn_texts values, trivial⟩
  | checkbox d => exact ⟨trivial, trivial⟩

lemma Schema.itemsIn_nodes [JsonLibrary] {s : Schema} (h : ∀ x ∈ s.doubles, ReadsBack x) :
    Json.ItemsIn IsWord ReadsBack s.nodes := by
  induction s with
  | nil => trivial
  | header name rest ih => exact ⟨⟨trivial, trivial, trivial⟩, ih h⟩
  | setting s rest ih =>
    rw [doubles, List.forall_mem_append] at h
    have hmembers := SettingKind.membersIn h.1
    exact ⟨⟨trivial, trivial, trivial,
      membersIn_append hmembers ⟨numbersIn_helpJson s.help, trivial⟩⟩, ih h.2⟩
  | gated g inner rest ihinner ih =>
    rw [doubles, List.forall_mem_append] at h
    exact ⟨⟨trivial, trivial, trivial, trivial, ihinner h.1, numbersIn_helpJson g.help,
      trivial⟩, ih h.2⟩

/-! ## How deep a schema nests -/

/-- How many gates stand around each other. -/
def Schema.nesting : Schema → Nat
  | nil => 0
  | header _ rest => rest.nesting
  | setting _ rest => rest.nesting
  | gated _ inner rest => max (inner.nesting + 1) rest.nesting

lemma depth_helpJson (help : Option String) : (helpJson help).depth = 0 := by
  cases help <;> rfl

lemma itemsDepth_of_leaves {items : List Json} (h : ∀ j ∈ items, j.depth = 0) :
    Json.itemsDepth items = 0 := by
  induction items with
  | nil => rfl
  | cons j js ih =>
    rw [List.forall_mem_cons] at h
    rw [Json.itemsDepth, h.1, ih h.2]
    rfl

lemma membersDepth_append (ms ms' : List (String × Json)) :
    Json.membersDepth (ms ++ ms') = max (Json.membersDepth ms) (Json.membersDepth ms') := by
  induction ms with
  | nil => exact (Nat.zero_max _).symm
  | cons m ms ih => rw [List.cons_append, Json.membersDepth, Json.membersDepth, ih, Nat.max_assoc]

lemma depth_rangeJson_le {α : Type} (bound : α → Json) (h : ∀ b, (bound b).depth = 0)
    (range : Option (α × α)) : (rangeJson bound range).depth ≤ 1 := by
  cases range with
  | none => exact Nat.zero_le 1
  | some r =>
    have hbounds : Json.itemsDepth [bound r.1, bound r.2] = 0 :=
      itemsDepth_of_leaves (by simp [h])
    rw [rangeJson, Json.depth]
    omega

/-- A setting has no lists within its lists. -/
lemma SettingKind.membersDepth_le (k : SettingKind) : Json.membersDepth k.members ≤ 1 := by
  cases k with
  | int d range =>
    have h := depth_rangeJson_le (fun b : Int32 => .int b.toInt) (fun _ => rfl) range
    simpa [members, Json.membersDepth, Json.depth] using h
  | double d range =>
    have h := depth_rangeJson_le Json.double (fun _ => rfl) range
    simpa [members, Json.membersDepth, Json.depth] using h
  | text d range =>
    have h := depth_rangeJson_le (fun b : UInt64 => .int b.toNat) (fun _ => rfl) range
    simpa [members, Json.membersDepth, Json.depth] using h
  | choice d values =>
    have h : Json.itemsDepth (values.map Json.text) = 0 :=
      itemsDepth_of_leaves (by simp [Json.depth])
    simp [members, Json.membersDepth, Json.depth, h]
  | checkbox d => exact Nat.zero_le 1

/-- Every gate adds an object and a list; a setting adds an object, and perhaps a list. -/
lemma Schema.itemsDepth_nodes (s : Schema) :
    2 * s.nesting ≤ Json.itemsDepth s.nodes ∧ Json.itemsDepth s.nodes ≤ 2 * s.nesting + 2 := by
  induction s with
  | nil => exact ⟨Nat.le_refl 0, Nat.zero_le 2⟩
  | header name rest ih =>
    have hdepth : Json.itemsDepth (header name rest).nodes =
        max 1 (Json.itemsDepth rest.nodes) := rfl
    rw [hdepth, nesting]
    omega
  | setting s rest ih =>
    have hkind := s.kind.membersDepth_le
    have hdepth : Json.itemsDepth (setting s rest).nodes =
        max (Json.membersDepth s.kind.members + 1) (Json.itemsDepth rest.nodes) := by
      rw [nodes, Json.itemsDepth, Json.depth, membersDepth_append, membersDepth_append]
      simp [Json.membersDepth, Json.depth, depth_helpJson]
    rw [hdepth, nesting]
    omega
  | gated g inner rest ihinner ih =>
    have hdepth : Json.itemsDepth (gated g inner rest).nodes =
        max (Json.itemsDepth inner.nodes + 2) (Json.itemsDepth rest.nodes) := by
      rw [nodes, Json.itemsDepth]
      simp [Json.membersDepth, Json.depth, depth_helpJson]
    rw [hdepth, nesting]
    omega

/-- The depth of the text of a schema. -/
lemma Schema.depth_toJson (s : Schema) :
    2 * s.nesting + 1 ≤ s.toJson.depth ∧ s.toJson.depth ≤ 2 * s.nesting + 3 := by
  have h := s.itemsDepth_nodes
  rw [toJson, Json.depth]
  omega

/-- A schema is read back from its text, if its doubles are, unless it nests too deep. -/
lemma Schema.parse_write [JsonLibrary] (hlib : JsonLibrary.IsFaithful) {s : Schema}
    (h : ∀ x ∈ s.doubles, ReadsBack x) :
    parse (JsonLibrary.write s.toJson) =
      if s.toJson.depth ≤ 127 then .ok s else .error (.config .schema) := by
  have hnumbers : s.toJson.NumbersIn IsWord ReadsBack := itemsIn_nodes h
  rw [parse, hlib.read_eq hnumbers]
  split_ifs with hdepth
  · rw [Option.bind_some, ofJson?_toJson]
  · rfl

/-! ## Both -/

/-- **Options and schemas survive their text.**  With a faithful library for documents, option maps
and schemas are read back from the text that is written for them, if each double in them comes back
by itself: an option map always, and a schema unless its lists and objects nest more than 127 deep;
then its text is refused.  Every gate around another takes two of these levels, so 62 gates inside
each other still come back, and 64 do not. -/
theorem options_and_schemas_read_back [JsonLibrary] (hlib : JsonLibrary.IsFaithful) :
    (∀ o : Options, (∀ x ∈ o.doubles, ReadsBack x) →
      Options.parse (JsonLibrary.write o.toJson) = .ok o) ∧
    (∀ s : Schema, (∀ x ∈ s.doubles, ReadsBack x) →
      Schema.parse (JsonLibrary.write s.toJson) =
        if s.toJson.depth ≤ 127 then .ok s else .error (.config .schema)) ∧
    ∀ s : Schema, 2 * s.nesting + 1 ≤ s.toJson.depth ∧ s.toJson.depth ≤ 2 * s.nesting + 3 :=
  ⟨fun _ h => Options.parse_write hlib h, fun _ h => Schema.parse_write hlib h,
    Schema.depth_toJson⟩

/-- Some whole and broken doubles, and a range behind a gate, written and read with the library of
this project. -/
theorem doubles_read_back :
    let o := Options.ofList [("a", .double 3.0), ("b", .int 3), ("c", .double (-0.25))]
    let s := Schema.gated ⟨"on", "On", true, none⟩
      (.setting ⟨"x", "X", .double 0.5 (some (0.0, 100.0)), some "\"how\" much\n"⟩ .nil) .nil
    JsonLibrary.IsFaithful ∧
    ((∀ x ∈ o.doubles, ReadsBack x) ∧ ∀ x ∈ s.doubles, ReadsBack x) ∧
      Options.parse o.toJson.render = .ok o ∧ Schema.parse s.toJson.render = .ok s := by
  intro o s
  have ho : ∀ x ∈ o.doubles, ReadsBack x := by
    have hdoubles : o.doubles = [3.0, -0.25] := rfl
    simp only [hdoubles, List.forall_mem_cons]
    exact ⟨rfl, rfl, by simp⟩
  have hs : ∀ x ∈ s.doubles, ReadsBack x := by
    have hdoubles : s.doubles = [0.5, 0.0, 100.0] := rfl
    simp only [hdoubles, List.forall_mem_cons]
    exact ⟨rfl, rfl, rfl, by simp⟩
  obtain ⟨hoptions, hschema, -⟩ := options_and_schemas_read_back JsonLibrary.isFaithful_render
  exact ⟨JsonLibrary.isFaithful_render, ⟨ho, hs⟩, hoptions o ho, hschema s hs⟩

/-- Gates inside each other. -/
def nestedGates : Nat → Schema
  | 0 => .nil
  | n + 1 => .gated ⟨"on", "On", true, none⟩ (nestedGates n) .nil

lemma doubles_nestedGates (n : Nat) : (nestedGates n).doubles = [] := by
  induction n with
  | zero => rfl
  | succ n ih => rw [nestedGates, Schema.doubles, ih, Schema.doubles, List.append_nil]

lemma nesting_nestedGates (n : Nat) : (nestedGates n).nesting = n := by
  induction n with
  | zero => rfl
  | succ n ih => rw [nestedGates, Schema.nesting, ih, Schema.nesting, Nat.max_zero]

/-- Sixty-four gates inside each other do not come back. -/
theorem sixtyFour_gates_lost :
    (∀ x ∈ (nestedGates 64).doubles, ReadsBack x) ∧
      Schema.parse (nestedGates 64).toJson.render = .error (.config .schema) := by
  have hnone : ∀ x ∈ (nestedGates 64).doubles, ReadsBack x := by simp [doubles_nestedGates]
  have hdepth := (nestedGates 64).depth_toJson
  rw [nesting_nestedGates] at hdepth
  refine ⟨hnone, ?_⟩
  exact (Schema.parse_write JsonLibrary.isFaithful_render hnone).trans (if_neg (by omega))

end Raster
