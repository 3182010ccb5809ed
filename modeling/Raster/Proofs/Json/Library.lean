import Raster.Json.Library
import Raster.Proofs.Json.RoundTrip
/-!
# What is asked of a library for JSON

Options and schemas ask two things of the library that their documents are written and read with
(`JsonLibrary.IsFaithful`): a document comes back if its numbers do, and one whose lists and objects
nest too deep is refused.  Whether a double comes back is a question of its own (`ReadsBack`), since
it need not.  The library of this project is such a library (`JsonLibrary.isFaithful_render`).
-/

namespace Raster

/-- An integer fits into 64 bits, with a sign or without. -/
def IsWord (n : Int) : Prop := -(1 <<< 63 : Nat) ≤ n ∧ n ≤ maxExtent

/-- A document that is a single double comes back. -/
def ReadsBack [JsonLibrary] (x : Float) : Prop :=
  JsonLibrary.read? (JsonLibrary.write (.double x)) = some (.double x)

namespace JsonLibrary

/-- What is asked of a library, of documents whose integers are words and whose doubles come back.
Lists and objects may nest 127 deep. -/
structure IsFaithful [JsonLibrary] : Prop where
  read_write : ∀ j : Json, j.NumbersIn IsWord ReadsBack → j.depth ≤ 127 → read? (write j) = some j
  read_deep : ∀ j : Json, j.NumbersIn IsWord ReadsBack → 127 < j.depth → read? (write j) = none

lemma IsFaithful.read_eq [JsonLibrary] (h : IsFaithful) {j : Json}
    (hj : j.NumbersIn IsWord ReadsBack) :
    read? (write j) = if j.depth ≤ 127 then some j else none := by
  split
  · rename_i hdepth
    exact h.read_write j hj hdepth
  · rename_i hdepth
    exact h.read_deep j hj (Nat.lt_of_not_le hdepth)

/-- What is written for a double that comes back is the text of a number, and read as one. -/
lemma ofNumber?_of_readsBack {x : Float} (h : ReadsBack x) :
    Json.ofNumber? (Json.doubleText x).toList = some (.double x) := by
  have hparse : Json.parse? (Json.doubleText x) = some (.double x) := h
  have hnull (htext : Json.doubleText x = "null") : False := by
    have hread : Json.parse? "null" = some .null := rfl
    rw [htext, hread] at hparse
    cases hparse
  cases hx : Binary64.ofFloat x with
  | finite negative mantissa exponent =>
    exact (Json.parse?_of_isNumberText (Json.isNumberText_doubleText hx)).symm.trans hparse
  | infinite negative => exact (hnull (by rw [Json.doubleText, hx])).elim
  | nan => exact (hnull (by rw [Json.doubleText, hx])).elim

/-- **The library of this project is faithful.** -/
theorem isFaithful_render : IsFaithful := by
  have hread : Json.NumbersRead IsWord ReadsBack :=
    ⟨fun _ h => Json.ofNumber?_toString h.1 h.2, fun _ => ofNumber?_of_readsBack⟩
  exact
    { read_write := fun _ hj hdepth => (Json.parse?_render hread hj).trans (if_pos hdepth)
      read_deep := fun _ hj hdepth =>
        (Json.parse?_render hread hj).trans (if_neg (Nat.not_le.2 hdepth)) }

end JsonLibrary

end Raster
