import Mathlib.Tactic.Common
import Raster.Json.Printer
import Raster.Json.Token
import Raster.Proofs.Number.Numeral
/-!
# Numbers in a document

A number is made of the characters of numbers and begins with a digit or a minus sign, if it is
read (`IsNumberText.of_ofNumber?`) and also if it is written (`isNumberText_doubleText`).  An
integer of 64 bits, with or without a sign, is read back from its decimal digits
(`ofNumber?_toString`).
-/

namespace Raster.Json

/-! ## Digits -/

lemma digit?_eq (c : Char) : digit? c = if c.isDigit then some (c.toNat - '0'.toNat) else none := by
  have h : ('0' ≤ c ∧ c ≤ '9') ↔ c.isDigit = true := by
    rw [Char.isDigit_iff_toNat]
    rfl
  rw [digit?, if_congr h rfl rfl]

lemma digit?_of_isDigit {c : Char} (h : c.isDigit = true) :
    digit? c = some (c.toNat - '0'.toNat) := by
  rw [digit?_eq, if_pos h]

/-- The digits that a text begins with are cut off. -/
lemma exists_of_spanDigits {cs rest : List Char} {ds : List Nat} (h : spanDigits cs = (ds, rest)) :
    ∃ front, cs = front ++ rest ∧ (∀ c ∈ front, (digit? c).isSome = true) ∧
      front.length = ds.length := by
  induction cs generalizing ds with
  | nil =>
    obtain ⟨rfl, rfl⟩ := Prod.mk.inj h
    exact ⟨[], rfl, by simp, rfl⟩
  | cons c cs ih =>
    rw [spanDigits] at h
    split at h
    · rename_i d hd
      obtain ⟨rfl, rfl⟩ := Prod.mk.inj h
      obtain ⟨front, hcs, hfront, hlength⟩ := ih rfl
      refine ⟨c :: front, congrArg (c :: ·) hcs, ?_, congrArg (· + 1) hlength⟩
      intro c' hc'
      rcases List.mem_cons.1 hc' with rfl | hc'
      · rw [hd]
        rfl
      · exact hfront c' hc'
    · obtain ⟨rfl, rfl⟩ := Prod.mk.inj h
      exact ⟨[], rfl, by simp, rfl⟩

lemma spanDigits_of_isDigit {cs : List Char} (h : ∀ c ∈ cs, c.isDigit = true) :
    spanDigits cs = (cs.map fun c => c.toNat - '0'.toNat, []) := by
  induction cs with
  | nil => rfl
  | cons c cs ih =>
    have htail := ih fun c' hc' => h c' (List.mem_cons_of_mem c hc')
    rw [spanDigits, digit?_of_isDigit (h c List.mem_cons_self)]
    dsimp only
    rw [htail, List.map_cons]

/-! ## The text of a number -/

/-- A text consists of characters of numbers and begins with a digit or a minus sign. -/
structure IsNumberText (cs : List Char) : Prop where
  exists_cons : ∃ c rest, cs = c :: rest ∧ ((digit? c).isSome = true ∨ c = '-')
  all : ∀ c ∈ cs, isNumberChar c = true

lemma isNumberChar_of_digit {c : Char} (h : (digit? c).isSome = true) : isNumberChar c = true := by
  simp [isNumberChar, h]

lemma isNumberChar_of_spanDigits {cs rest : List Char} {ds : List Nat}
    (h : spanDigits cs = (ds, rest)) (hrest : ∀ c ∈ rest, isNumberChar c = true) :
    ∀ c ∈ cs, isNumberChar c = true := by
  obtain ⟨front, rfl, hfront, -⟩ := exists_of_spanDigits h
  intro c hc
  rcases List.mem_append.1 hc with hc | hc
  · exact isNumberChar_of_digit (hfront c hc)
  · exact hrest c hc

lemma isNumberChar_of_exponentPart {negative : Bool} {n : Nat} {e : Int} {cs : List Char} {v : Json}
    (h : exponentPart negative n e cs = some v) : ∀ c ∈ cs, isNumberChar c = true := by
  cases cs with
  | nil => simp
  | cons letter cs =>
    rw [exponentPart.eq_def] at h
    dsimp only at h
    by_cases hletter : letter = 'e' ∨ letter = 'E'
    · rw [if_pos hletter] at h
      have hfirst : isNumberChar letter = true := by
        rcases hletter with rfl | rfl <;> rfl
      split at h
      · cases h
      · rename_i ds _ hspan
        have hdigits := isNumberChar_of_spanDigits hspan (by simp)
        -- what is left of the sign is digits
        refine List.forall_mem_cons.2 ⟨hfirst, ?_⟩
        split at hdigits
        · exact List.forall_mem_cons.2 ⟨rfl, hdigits⟩
        · exact List.forall_mem_cons.2 ⟨rfl, hdigits⟩
        · exact hdigits
      · cases h
    · rw [if_neg hletter] at h
      cases h

/-- What is read as a number is the text of one. -/
lemma IsNumberText.of_ofNumber? {cs : List Char} {v : Json} (h : ofNumber? cs = some v) :
    IsNumberText cs := by
  unfold ofNumber? at h
  split at h
  rename_i negative digits hsign
  have hdigits : IsNumberText digits := by
    split at h
    · cases h
    · cases h
    · rename_i ds rest hempty _ hspan
      obtain ⟨front, hfront, hdigit, hlength⟩ := exists_of_spanDigits hspan
      constructor
      · cases front with
        | nil =>
          rw [List.length_nil, eq_comm, List.length_eq_zero_iff] at hlength
          exact absurd hlength hempty
        | cons c front =>
          exact ⟨c, front ++ rest, hfront, Or.inl (hdigit c List.mem_cons_self)⟩
      · refine isNumberChar_of_spanDigits hspan ?_
        split at h
        · simp
        · rename_i places
          split at h
          · cases h
          · rename_i hspan'
            exact List.forall_mem_cons.2
              ⟨rfl, isNumberChar_of_spanDigits hspan' (isNumberChar_of_exponentPart h)⟩
        · exact isNumberChar_of_exponentPart h
  split at hsign <;> obtain ⟨-, rfl⟩ := Prod.mk.inj hsign
  · exact ⟨⟨_, _, rfl, Or.inr rfl⟩, List.forall_mem_cons.2 ⟨rfl, hdigits.all⟩⟩
  · exact hdigits

/-! ## Doubles -/

lemma isSome_digit?_of_mem_toDigits {n : Nat} {c : Char} (h : c ∈ Nat.toDigits 10 n) :
    (digit? c).isSome = true := by
  rw [digit?_of_isDigit (Nat.isDigit_of_mem_toDigits (by decide) (by decide) h)]
  rfl

lemma toList_toString_ofNat (n : Nat) :
    (toString (Int.ofNat n)).toList = Nat.toDigits 10 n := by
  show (Nat.repr n).toList = _
  simp [Nat.repr_eq_ofList_toDigits]

lemma toList_toString_negSucc (n : Nat) :
    (toString (Int.negSucc n)).toList = '-' :: Nat.toDigits 10 (n + 1) := by
  show ("-" ++ Nat.repr (n + 1)).toList = _
  simp [Nat.repr_eq_ofList_toDigits]

lemma isNumberChar_of_mem_toString {n : Int} {c : Char} (h : c ∈ (toString n).toList) :
    isNumberChar c = true := by
  cases n with
  | ofNat n =>
    rw [toList_toString_ofNat] at h
    exact isNumberChar_of_digit (isSome_digit?_of_mem_toDigits h)
  | negSucc n =>
    rw [toList_toString_negSucc] at h
    rcases List.mem_cons.1 h with rfl | h
    · rfl
    · exact isNumberChar_of_digit (isSome_digit?_of_mem_toDigits h)

namespace IsNumberText

variable {cs cs' : List Char}

lemma of_digits (hne : cs ≠ []) (h : ∀ c ∈ cs, (digit? c).isSome = true) : IsNumberText cs := by
  cases cs with
  | nil => exact absurd rfl hne
  | cons c cs =>
    exact ⟨⟨c, cs, rfl, Or.inl (h c List.mem_cons_self)⟩, fun c' hc' =>
      isNumberChar_of_digit (h c' hc')⟩

lemma append (h : IsNumberText cs) (h' : ∀ c ∈ cs', isNumberChar c = true) :
    IsNumberText (cs ++ cs') := by
  obtain ⟨⟨c, rest, rfl, hfirst⟩, hall⟩ := h
  exact ⟨⟨c, rest ++ cs', rfl, hfirst⟩, List.forall_mem_append.2 ⟨hall, h'⟩⟩

lemma cons_minus (h : IsNumberText cs) : IsNumberText ('-' :: cs) :=
  ⟨⟨'-', cs, rfl, Or.inr rfl⟩, List.forall_mem_cons.2 ⟨rfl, h.all⟩⟩

end IsNumberText

lemma isNumberText_decimalText (d : Decimal) : IsNumberText (decimalText d) := by
  have hdigit : ∀ c ∈ Nat.toDigits 10 d.digits, (digit? c).isSome = true :=
    fun _ => isSome_digit?_of_mem_toDigits
  have hzeros : ∀ n, ∀ c ∈ List.replicate n '0', isNumberChar c = true := by
    intro n c hc
    rw [List.eq_of_mem_replicate hc]
    rfl
  have hne : Nat.toDigits 10 d.digits ≠ [] := Nat.toDigits_ne_nil
  unfold decimalText
  dsimp only
  generalize Nat.toDigits 10 d.digits = digits at hdigit hne
  -- the digits before the point, and what follows them
  have htake : ∀ n, n ≠ 0 → IsNumberText (digits.take n) := fun n hn =>
    .of_digits (by simpa [hn] using hne) fun c hc => hdigit c (List.mem_of_mem_take hc)
  have hdrop : ∀ n, ∀ c ∈ digits.drop n, isNumberChar c = true := fun n c hc =>
    isNumberChar_of_digit (hdigit c (List.mem_of_mem_drop hc))
  split_ifs with hwhole hbroken hsmall hone
  · rw [List.append_assoc]
    refine (IsNumberText.of_digits hne hdigit).append (List.forall_mem_append.2 ⟨hzeros _, ?_⟩)
    exact List.forall_mem_cons.2 ⟨rfl, List.forall_mem_singleton.2 rfl⟩
  · exact (htake _ (by omega)).append (List.forall_mem_cons.2 ⟨rfl, hdrop _⟩)
  · have hzero := IsNumberText.of_digits (List.cons_ne_nil '0' []) (List.forall_mem_singleton.2 rfl)
    refine hzero.append ?_
    refine List.forall_mem_cons.2 ⟨rfl, List.forall_mem_append.2 ⟨hzeros _, fun c hc => ?_⟩⟩
    exact isNumberChar_of_digit (hdigit c hc)
  all_goals
    rw [List.append_assoc]
    refine (htake 1 Nat.one_ne_zero).append (List.forall_mem_append.2 ⟨?_, ?_⟩)
  · simp
  · exact List.forall_mem_cons.2 ⟨rfl, fun c => isNumberChar_of_mem_toString⟩
  · exact List.forall_mem_cons.2 ⟨rfl, hdrop 1⟩
  · exact List.forall_mem_cons.2 ⟨rfl, fun c => isNumberChar_of_mem_toString⟩

/-- The text of a finite double is the text of a number. -/
lemma isNumberText_doubleText {x : Float} {negative : Bool} {mantissa : Nat} {exponent : Int}
    (h : Binary64.ofFloat x = .finite negative mantissa exponent) :
    IsNumberText (doubleText x).toList := by
  rw [doubleText, h]
  dsimp only
  have hdigits : IsNumberText (if mantissa = 0 then ['0', '.', '0']
      else decimalText (Decimal.shortest mantissa exponent)) := by
    split
    · refine ⟨⟨'0', ['.', '0'], rfl, Or.inl rfl⟩, List.forall_mem_cons.2 ⟨rfl, ?_⟩⟩
      exact List.forall_mem_cons.2 ⟨rfl, List.forall_mem_singleton.2 rfl⟩
    · exact isNumberText_decimalText _
  rw [String.toList_ofList]
  split
  · exact hdigits.cons_minus
  · exact hdigits

/-! ## Integers -/

lemma Significand.take_eq {start : Nat} {ds : List Nat}
    (h : ds.foldl (fun n d => n * 10 + d) start ≤ maxExtent) :
    take start ds = ⟨ds.foldl (fun n d => n * 10 + d) start, 0⟩ := by
  induction ds generalizing start with
  | nil => rfl
  | cons d ds ih =>
    have hle : ∀ (ds : List Nat) (m : Nat), m ≤ ds.foldl (fun n d => n * 10 + d) m := by
      intro ds
      induction ds with
      | nil => exact fun m => Nat.le_refl m
      | cons d ds ih => exact fun m => Nat.le_trans (by omega) (ih (m * 10 + d))
    rw [take, if_pos (Nat.le_trans (hle ds _) h)]
    exact ih h

/-- The digits of a number other than zero do not begin with a zero. -/
lemma head_toDigits_ne_zero {n : Nat} (hn : n ≠ 0) : (Nat.toDigits 10 n).head? ≠ some '0' := by
  induction n using Nat.strongRecOn with
  | ind n ih =>
    rcases Nat.lt_or_ge n 10 with hlt | hge
    · rw [Nat.toDigits_of_lt_base hlt]
      have hdigit : ∀ d < 10, d ≠ 0 → [Nat.digitChar d].head? ≠ some '0' := by decide
      exact hdigit n hlt hn
    · rw [Nat.toDigits_of_base_le (by decide) hge]
      have hfirst := ih (n / 10) (by omega) (by omega)
      cases hdigits : Nat.toDigits 10 (n / 10) with
      | nil => exact absurd hdigits Nat.toDigits_ne_nil
      | cons c cs =>
        rw [hdigits] at hfirst
        exact hfirst

/-- What stands behind the sign of a number. -/
def unsigned : List Char → Bool × List Char
  | '-' :: cs => (true, cs)
  | cs => (false, cs)

/-- A number is read as an integer if it consists of digits, without a needless zero in front, and
fits into 64 bits. -/
lemma ofNumber?_of_digits {cs digits : List Char} {negative : Bool} {ds : List Nat}
    (hsign : unsigned cs = (negative, digits)) (hspan : spanDigits digits = (ds, []))
    (hne : ds ≠ []) (hzero : ∀ d ds', ds ≠ 0 :: d :: ds')
    (hfits : ds.foldl (fun n d => n * 10 + d) 0 ≤ maxExtent) :
    ofNumber? cs = some (wholeNumber negative (ds.foldl (fun n d => n * 10 + d) 0)) := by
  have hwhole := Significand.take_eq hfits
  unfold ofNumber?
  split
  rename_i negative' digits' hsign'
  obtain ⟨rfl, rfl⟩ := Prod.mk.inj (hsign.symm.trans hsign')
  rw [hspan]
  split
  · rename_i h
    exact absurd (Prod.mk.inj h).1 hne
  · rename_i h
    exact absurd (Prod.mk.inj h).1 (hzero _ _)
  · rename_i h
    obtain ⟨rfl, rfl⟩ := Prod.mk.inj h
    dsimp only
    rw [hwhole]
    rfl

lemma spanDigits_toDigits (n : Nat) : ∃ ds, spanDigits (Nat.toDigits 10 n) = (ds, []) ∧
    ds ≠ [] ∧ (∀ d ds', ds ≠ 0 :: d :: ds') ∧ ds.foldl (fun n d => n * 10 + d) 0 = n := by
  have hdigit : ∀ c ∈ Nat.toDigits 10 n, c.isDigit = true :=
    fun _ hc => Nat.isDigit_of_mem_toDigits (by decide) (by decide) hc
  refine ⟨_, spanDigits_of_isDigit hdigit, by simp, ?_, ?_⟩
  · intro d ds' h
    by_cases hn : n = 0
    · subst hn
      cases h
    · obtain ⟨c, cs, hcs, hc, -⟩ := List.map_eq_cons_iff.1 h
      have hfirst := Char.isDigit_iff_toNat.1 (hdigit c (hcs ▸ List.mem_cons_self))
      have hc' : c = '0' := Char.toNat_inj.1 (by
        have h48 : '0'.toNat = 48 := rfl
        omega)
      exact head_toDigits_ne_zero hn (by rw [hcs, hc']; rfl)
  · calc _ = Nat.ofDigitChars 10 (Nat.toDigits 10 n) 0 := by
          rw [List.foldl_map, Nat.ofDigitChars_eq_foldl]
          simp only [Nat.mul_comm]
      _ = n := Nat.ofDigitChars_ten_toDigits

/-- An integer that fits into 64 bits, signed or not, is read back from its text. -/
lemma ofNumber?_toString {n : Int} (hlow : -(1 <<< 63 : Nat) ≤ n) (hhigh : n ≤ maxExtent) :
    ofNumber? (toString n).toList = some (.int n) := by
  cases n with
  | ofNat n =>
    obtain ⟨ds, hspan, hne, hzero, hvalue⟩ := spanDigits_toDigits n
    have hle : n ≤ maxExtent := Int.ofNat_le.1 hhigh
    have hsign : unsigned (Nat.toDigits 10 n) = (false, Nat.toDigits 10 n) := by
      unfold unsigned
      split
      · rename_i h
        have hminus : '-'.isDigit = true :=
          Nat.isDigit_of_mem_toDigits (by decide) (by decide) (h ▸ List.mem_cons_self)
        exact absurd hminus (by decide)
      · rfl
    rw [toList_toString_ofNat, ofNumber?_of_digits hsign hspan hne hzero (hvalue ▸ hle), hvalue]
    rfl
  | negSucc n =>
    obtain ⟨ds, hspan, hne, hzero, hvalue⟩ := spanDigits_toDigits (n + 1)
    have hlow' : n + 1 ≤ 1 <<< 63 := by omega
    have hle : n + 1 ≤ maxExtent := Nat.le_trans hlow' (by decide)
    have hsmall : ¬(n + 1 = 0 ∨ 1 <<< 63 < n + 1) := by omega
    have hsign : unsigned ('-' :: Nat.toDigits 10 (n + 1)) = (true, Nat.toDigits 10 (n + 1)) := rfl
    rw [toList_toString_negSucc, ofNumber?_of_digits hsign hspan hne hzero (hvalue ▸ hle), hvalue,
      wholeNumber, if_pos rfl, if_neg hsmall]
    rfl

end Raster.Json
