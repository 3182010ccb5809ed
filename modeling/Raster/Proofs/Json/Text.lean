import Mathlib.Tactic.Common
import Raster.Json.Printer
import Raster.Json.Token
/-!
# Texts in a document

Whatever characters a text has, between its quotes it is cut out of a document as one token
(`tokensFrom_quoted`).
-/

namespace Raster.Json

lemma tokensFrom_cons {l l' : Lexeme} {c : Char} {ts : List Token}
    (h : l.step c = some (l', ts)) (cs : List Char) :
    tokensFrom l (c :: cs) = (tokensFrom l' cs).map (ts ++ ·) := by
  rw [tokensFrom, h]
  dsimp only [bind, Option.bind_some]
  cases tokensFrom l' cs <;> rfl

/-- A character that completes no token. -/
lemma tokensFrom_cons_silent {l l' : Lexeme} {c : Char} (h : l.step c = some (l', []))
    (cs : List Char) : tokensFrom l (c :: cs) = tokensFrom l' cs := by
  rw [tokensFrom_cons h]
  cases tokensFrom l' cs <;> rfl

lemma hexDigit?_toDigits {d : Nat} (h : d < 16) :
    ∃ c, Nat.toDigits 16 d = [c] ∧ hexDigit? c = some d := by
  have hdigit : ∀ d < 16, hexDigit? (Nat.digitChar d) = some d := by decide
  exact ⟨Nat.digitChar d, Nat.toDigits_of_lt_base h, hdigit d h⟩

/-- The code of a control character. -/
lemma tokensFrom_code {c : Char} (hc : c.toNat < 0x20) (read rest : List Char) :
    tokensFrom (.text read) (['\\', 'u', '0', '0'] ++ Nat.toDigits 16 (c.toNat / 16) ++
      Nat.toDigits 16 (c.toNat % 16) ++ rest) = tokensFrom (.text (c :: read)) rest := by
  obtain ⟨x, hx, hxdigit⟩ := hexDigit?_toDigits (d := c.toNat / 16) (by omega)
  obtain ⟨y, hy, hydigit⟩ := hexDigit?_toDigits (d := c.toNat % 16) (by omega)
  have hx' : (Lexeme.code read none [0, 0]).step x =
      some (.code read none [0, 0, c.toNat / 16], []) := by
    rw [Lexeme.step, hxdigit]
    rfl
  have hy' : (Lexeme.code read none [0, 0, c.toNat / 16]).step y =
      some (.text (c :: read), []) := by
    have hvalue : ((0 * 16 + 0) * 16 + c.toNat / 16) * 16 + c.toNat % 16 = c.toNat := by omega
    have hcode : afterCode read none c.toNat = some (.text (c :: read)) := by
      rw [afterCode, if_neg (by omega), if_neg (by omega), Char.ofNat_toNat]
    rw [Lexeme.step, hydigit]
    show (do return (← afterCode read none (((0 * 16 + 0) * 16 + c.toNat / 16) * 16 +
      c.toNat % 16), [])) = _
    rw [hvalue, hcode]
    rfl
  rw [hx, hy]
  show tokensFrom (.text read) ('\\' :: 'u' :: '0' :: '0' :: x :: y :: rest) = _
  calc _ = tokensFrom (.escape read) ('u' :: '0' :: '0' :: x :: y :: rest) :=
        tokensFrom_cons_silent rfl _
    _ = tokensFrom (.code read none []) ('0' :: '0' :: x :: y :: rest) :=
        tokensFrom_cons_silent rfl _
    _ = tokensFrom (.code read none [0]) ('0' :: x :: y :: rest) := tokensFrom_cons_silent rfl _
    _ = tokensFrom (.code read none [0, 0]) (x :: y :: rest) := tokensFrom_cons_silent rfl _
    _ = tokensFrom (.code read none [0, 0, c.toNat / 16]) (y :: rest) :=
        tokensFrom_cons_silent hx' _
    _ = tokensFrom (.text (c :: read)) rest := tokensFrom_cons_silent hy' _

/-- What stands for a character is read as this character. -/
lemma tokensFrom_escape (c : Char) (read rest : List Char) :
    tokensFrom (.text read) (escape c ++ rest) = tokensFrom (.text (c :: read)) rest := by
  unfold escape
  split
  · exact (tokensFrom_cons_silent rfl _).trans (tokensFrom_cons_silent rfl _)
  · exact (tokensFrom_cons_silent rfl _).trans (tokensFrom_cons_silent rfl _)
  · exact (tokensFrom_cons_silent rfl _).trans (tokensFrom_cons_silent rfl _)
  · exact (tokensFrom_cons_silent rfl _).trans (tokensFrom_cons_silent rfl _)
  · exact (tokensFrom_cons_silent rfl _).trans (tokensFrom_cons_silent rfl _)
  · exact (tokensFrom_cons_silent rfl _).trans (tokensFrom_cons_silent rfl _)
  · exact (tokensFrom_cons_silent rfl _).trans (tokensFrom_cons_silent rfl _)
  · rename_i hquote hbackslash _ _ _ _ _
    split
    · rename_i hcontrol
      exact tokensFrom_code hcontrol read rest
    · rename_i hplain
      refine tokensFrom_cons_silent ?_ rest
      rw [Lexeme.step, if_neg hquote, if_neg hbackslash, if_neg hplain]

lemma tokensFrom_escapes (cs read rest : List Char) :
    tokensFrom (.text read) (cs.flatMap escape ++ rest) =
      tokensFrom (.text (cs.reverse ++ read)) rest := by
  induction cs generalizing read with
  | nil => rfl
  | cons c cs ih =>
    rw [List.flatMap_cons, List.append_assoc, tokensFrom_escape, ih, List.reverse_cons,
      List.append_assoc]
    rfl

/-- A text between quotes is one token, whatever follows. -/
lemma tokensFrom_quoted (s : String) (rest : List Char) :
    tokensFrom .between ((quoted s).toList ++ rest) =
      (tokensFrom .between rest).map ([.leaf (.text s)] ++ ·) := by
  have hend : (Lexeme.text (s.toList.reverse ++ [])).step '"' =
      some (.between, [.leaf (.text s)]) := by
    rw [List.append_nil]
    show some (Lexeme.between, [Token.leaf (.text (String.ofList s.toList.reverse.reverse))]) = _
    rw [List.reverse_reverse, String.ofList_toList]
  rw [quoted, String.toList_ofList]
  show tokensFrom .between ('"' :: (s.toList.flatMap escape ++ ['"'] ++ rest)) = _
  have hstart : Lexeme.between.step '"' = some (.text [], []) := rfl
  rw [tokensFrom_cons_silent hstart, List.append_assoc, tokensFrom_escapes]
  exact tokensFrom_cons hend rest

end Raster.Json
