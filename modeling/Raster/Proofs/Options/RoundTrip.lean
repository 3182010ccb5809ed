import Raster.Options.OptionsJson
import Raster.Proofs.Json.Library
/-!
# Option maps and back

An option map is read back from its own text, with values of the same kinds, if every double in it
comes back (`Options.parse_write`).
-/

namespace Raster

lemma int32?_toInt (n : Int32) : int32? n.toInt = some n := by
  rw [int32?, if_pos ⟨n.minValue_le_toInt, n.toInt_le⟩, Int32.ofInt_toInt]

lemma isWord_int32 (n : Int32) : IsWord n.toInt := by
  have hmax : (maxExtent : Int) = 18446744073709551615 := rfl
  have hlow := n.le_toInt
  have hhigh := n.toInt_lt
  constructor <;> omega

namespace OptionValue

@[simp] lemma ofJson?_toJson (v : OptionValue) : ofJson? v.toJson = some v := by
  cases v with
  | int n =>
    rw [toJson, ofJson?, int32?_toInt]
  | bool | double | text => rfl

lemma depth_toJson (v : OptionValue) : v.toJson.depth = 0 := by
  cases v <;> rfl

lemma numbersIn_toJson [JsonLibrary] {v : OptionValue} (h : ∀ x, v = .double x → ReadsBack x) :
    v.toJson.NumbersIn IsWord ReadsBack := by
  cases v with
  | int n => exact isWord_int32 n
  | double x => exact h x rfl
  | bool | text => trivial

end OptionValue

namespace Options

/-- The doubles among the values. -/
def doubles (o : Options) : List Float :=
  o.entries.filterMap fun
    | (_, .double x) => some x
    | _ => none

lemma put_of_not_mem {key : String} {value : OptionValue} {l : List (String × OptionValue)}
    (h : key ∉ l.map (·.1)) : put key value l = l ++ [(key, value)] := by
  induction l with
  | nil => rfl
  | cons e l ih =>
    obtain ⟨k, v⟩ := e
    rw [List.map_cons, List.mem_cons, not_or] at h
    rw [put, if_neg (Ne.symm h.1), ih h.2, List.cons_append]

/-- Members with new keys are added at the end. -/
lemma ofMembers?_toJson (l : List (String × OptionValue)) (o : Options)
    (h : ((o.entries ++ l).map (·.1)).Nodup) :
    ofMembers? o (l.map fun (k, v) => (k, v.toJson)) = some ⟨o.entries ++ l, h⟩ := by
  induction l generalizing o with
  | nil =>
    obtain ⟨entries, hnodup⟩ := o
    simp [ofMembers?]
  | cons e l ih =>
    obtain ⟨k, v⟩ := e
    have hnew : k ∉ o.entries.map (·.1) := by
      intro hk
      rw [List.map_append, List.nodup_append] at h
      exact h.2.2 k hk k List.mem_cons_self rfl
    have hput : (o.insert k v).entries = o.entries ++ [(k, v)] := put_of_not_mem hnew
    have happend : (o.insert k v).entries ++ l = o.entries ++ (k, v) :: l := by
      rw [hput, List.append_assoc]
      rfl
    rw [List.map_cons, ofMembers?, OptionValue.ofJson?_toJson]
    show ofMembers? (o.insert k v) _ = _
    rw [ih (o.insert k v) (happend ▸ h)]
    simp only [happend]

lemma ofJson?_toJson (o : Options) : ofJson? o.toJson = some o :=
  ofMembers?_toJson o.entries empty o.nodup

lemma mem_doubles {o : Options} {x : Float} :
    x ∈ o.doubles ↔ ∃ k, (k, OptionValue.double x) ∈ o.entries := by
  rw [doubles, List.mem_filterMap]
  constructor
  · rintro ⟨⟨k, v⟩, hmem, hx⟩
    cases v with
    | double y =>
      obtain rfl := Option.some.inj hx
      exact ⟨k, hmem⟩
    | bool | int | text => cases hx
  · rintro ⟨k, hmem⟩
    exact ⟨_, hmem, rfl⟩

lemma membersDepth_toJson (l : List (String × OptionValue)) :
    Json.membersDepth (l.map fun (k, v) => (k, v.toJson)) = 0 := by
  induction l with
  | nil => rfl
  | cons e l ih =>
    rw [List.map_cons, Json.membersDepth, e.2.depth_toJson, ih]
    rfl

lemma membersIn_toJson [JsonLibrary] {l : List (String × OptionValue)}
    (h : ∀ k x, (k, OptionValue.double x) ∈ l → ReadsBack x) :
    Json.MembersIn IsWord ReadsBack (l.map fun (k, v) => (k, v.toJson)) := by
  induction l with
  | nil => trivial
  | cons e l ih =>
    obtain ⟨k, v⟩ := e
    refine ⟨OptionValue.numbersIn_toJson fun x hx => ?_, ih fun k' x hx => ?_⟩
    · exact h k x (hx ▸ List.mem_cons_self)
    · exact h k' x (List.mem_cons_of_mem _ hx)

/-- An option map is read back from its text, if its doubles are. -/
lemma parse_write [JsonLibrary] (hlib : JsonLibrary.IsFaithful) {o : Options}
    (h : ∀ x ∈ o.doubles, ReadsBack x) :
    parse (JsonLibrary.write o.toJson) = .ok o := by
  have hnumbers : o.toJson.NumbersIn IsWord ReadsBack :=
    membersIn_toJson fun k x hx => h x (mem_doubles.2 ⟨k, hx⟩)
  have hdepth : o.toJson.depth ≤ 127 := by
    have hone : o.toJson.depth = 1 := congrArg (· + 1) (membersDepth_toJson o.entries)
    rw [hone]
    decide
  rw [parse, hlib.read_write _ hnumbers hdepth, Option.bind_some, ofJson?_toJson]

end Options

end Raster
