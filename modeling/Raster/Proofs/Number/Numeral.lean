import Mathlib.Tactic.Common
import Raster.Number.Numeral
/-!
# Numerals

A numeral is a text of decimal digits, with or without a plus sign in front (`IsNumeral`).  Reading
a text as a number finds the numerals up to the bound and nothing else (`numeral?_eq_some_iff`);
the digits of a number are a numeral of it (`isNumeral_toDigits`).
-/

namespace Raster

/-- A text is a numeral of a number up to `max`: decimal digits, with or without a plus sign. -/
structure IsNumeral (max : Nat) (cs : List Char) (n : Nat) : Prop where
  exists_digits : ∃ digits, (cs = digits ∨ cs = '+' :: digits) ∧ digits ≠ [] ∧
    (∀ c ∈ digits, c.isDigit = true) ∧ Nat.ofDigitChars 10 digits 0 = n
  le : n ≤ max

variable {max n : Nat} {cs digits : List Char}

lemma ne_plus_of_isDigit {c : Char} (h : c.isDigit = true) : c ≠ '+' := by
  rintro rfl
  exact absurd h (by decide)

/-- What is left of a text without a plus sign in front of it. -/
def withoutPlus : List Char → List Char
  | '+' :: rest => rest
  | cs => cs

lemma withoutPlus_of_isDigit (h : ∀ c ∈ cs, c.isDigit = true) : withoutPlus cs = cs := by
  unfold withoutPlus
  split
  · exact absurd rfl (ne_plus_of_isDigit (h _ List.mem_cons_self))
  · rfl

lemma eq_withoutPlus_or (cs : List Char) : cs = withoutPlus cs ∨ cs = '+' :: withoutPlus cs := by
  unfold withoutPlus
  split
  · exact Or.inr rfl
  · exact Or.inl rfl

lemma numeral?_eq (max : Nat) (cs : List Char) :
    numeral? max cs =
      if (withoutPlus cs).isEmpty then none
      else if (withoutPlus cs).all Char.isDigit then
        if Nat.ofDigitChars 10 (withoutPlus cs) 0 ≤ max then
          some (Nat.ofDigitChars 10 (withoutPlus cs) 0)
        else none
      else none := rfl

/-- Reading a text as a number finds the numerals up to the bound. -/
lemma numeral?_eq_some_iff : numeral? max cs = some n ↔ IsNumeral max cs n := by
  rw [numeral?_eq]
  constructor
  · intro h
    split at h
    · cases h
    · rename_i hempty
      split at h
      · rename_i hall
        split at h
        · rename_i hle
          obtain rfl := Option.some.inj h
          refine ⟨⟨withoutPlus cs, eq_withoutPlus_or cs, ?_, ?_, rfl⟩, hle⟩
          · simpa using hempty
          · simpa using hall
        · cases h
      · cases h
  · rintro ⟨⟨digits, hcs, hne, hall, rfl⟩, hle⟩
    have hdigits : withoutPlus cs = digits := by
      rcases hcs with rfl | rfl
      · exact withoutPlus_of_isDigit hall
      · rfl
    have hempty : ¬digits.isEmpty = true := by simpa using hne
    rw [hdigits, if_neg hempty, if_pos (List.all_eq_true.2 hall), if_pos hle]

lemma IsNumeral.eq {m : Nat} (h : IsNumeral max cs n) (h' : IsNumeral max cs m) : n = m := by
  rw [← numeral?_eq_some_iff] at h h'
  exact Option.some.inj (h.symm.trans h')

/-- The digits of a number are a numeral of it. -/
lemma isNumeral_toDigits (h : n ≤ max) : IsNumeral max (Nat.toDigits 10 n) n :=
  ⟨⟨Nat.toDigits 10 n, Or.inl rfl, Nat.toDigits_ne_nil,
    fun _ hc => Nat.isDigit_of_mem_toDigits (by decide) (by decide) hc,
    Nat.ofDigitChars_ten_toDigits⟩, h⟩

/-- The digits of a number are a numeral of no other one. -/
lemma isNumeral_toDigits_iff {m : Nat} :
    IsNumeral max (Nat.toDigits 10 n) m ↔ n ≤ max ∧ n = m := by
  constructor
  · intro h
    have hlarge : IsNumeral (max + n) (Nat.toDigits 10 n) m :=
      ⟨h.exists_digits, Nat.le_add_right_of_le h.le⟩
    obtain rfl := hlarge.eq (isNumeral_toDigits (Nat.le_add_left n max))
    exact ⟨h.le, rfl⟩
  · rintro ⟨hle, rfl⟩
    exact isNumeral_toDigits hle

end Raster
