import Mathlib.Algebra.Group.Nat.Defs
import Mathlib.Data.List.TakeWhile
import BuildController.Text.Numeral

/-! Numerals that are written can be read. The digits of a number stand for the number, padded or
not, and where they end is seen from the first character that is no digit. -/
namespace BuildController.Text

theorem valueOfDigits_eq (cs : List Char) : valueOfDigits cs = Nat.ofDigitChars 10 cs 0 := by
  unfold valueOfDigits Nat.ofDigitChars digitValue
  simp only [Nat.mul_comm]

@[simp] theorem valueOfDigits_toDigits (n : Nat) : valueOfDigits (Nat.toDigits 10 n) = n := by
  rw [valueOfDigits_eq, Nat.ofDigitChars_ten_toDigits]

theorem isDigit_of_mem_toDigits {c : Char} (member : c ∈ Nat.toDigits 10 n) : isDigit c = true :=
  Nat.isDigit_of_mem_toDigits (by decide) (by decide) member

theorem isDigit_of_mem_padded {c : Char} (member : c ∈ padded width n) : isDigit c = true := by
  rcases List.mem_append.mp member with zero | digit
  · rw [List.eq_of_mem_replicate zero]
    rfl
  · exact isDigit_of_mem_toDigits digit

/-- Zeros in front do not count. -/
theorem valueOfDigits_replicate (k : Nat) (cs : List Char) :
    valueOfDigits (List.replicate k '0' ++ cs) = valueOfDigits cs := by
  induction k with
  | zero => rfl
  | succ k ih => exact ih

@[simp] theorem valueOfDigits_padded (width n : Nat) : valueOfDigits (padded width n) = n := by
  unfold padded
  rw [valueOfDigits_replicate, valueOfDigits_toDigits]

theorem length_padded (positive : 0 < width) (fits : n < 10 ^ width) :
    (padded width n).length = width := by
  have short := (Nat.length_toDigits_le_iff (by decide) positive).mpr fits
  simp only [padded, List.length_append, List.length_replicate]
  omega

theorem padded_ne_nil (width n : Nat) : padded width n ≠ [] := by
  simp [padded, Nat.toDigits_ne_nil]

theorem padded_cons (width n : Nat) : ∃ c rest, padded width n = c :: rest ∧ isDigit c = true := by
  obtain ⟨c, rest, same⟩ := List.exists_cons_of_ne_nil (padded_ne_nil width n)
  exact ⟨c, rest, same, isDigit_of_mem_padded (by rw [same]; exact List.mem_cons_self)⟩

theorem toDigits_cons (n : Nat) : ∃ c rest, Nat.toDigits 10 n = c :: rest ∧ isDigit c = true := by
  obtain ⟨c, rest, same⟩ := List.exists_cons_of_ne_nil (Nat.toDigits_ne_nil (n := n) (b := 10))
  exact ⟨c, rest, same, isDigit_of_mem_toDigits (by rw [same]; exact List.mem_cons_self)⟩

/-- The numeral of a positive number does not begin with a zero. -/
theorem toDigits_positive (n : Nat) (positive : 0 < n) :
    ∃ c rest, Nat.toDigits 10 n = c :: rest ∧ c ≠ '0' := by
  induction n using Nat.strongRecOn with
  | ind n ih =>
    by_cases single : n < 10
    · refine ⟨n.digitChar, [], Nat.toDigits_of_lt_base single, fun zero => ?_⟩
      exact absurd (Nat.digitChar_eq_zero.mp zero) (by omega)
    · obtain ⟨c, rest, front, nonzero⟩ := ih (n / 10) (by omega) (by omega)
      refine ⟨c, rest ++ [(n % 10).digitChar], ?_, nonzero⟩
      rw [Nat.toDigits_eq_if (by decide), if_neg single, front, List.cons_append]

/-- Digits are taken up to the first character that is none. -/
theorem takeWhile_digits {digits rest : List Char} (all : ∀ c ∈ digits, isDigit c = true)
    (ends : ∀ c, rest.head? = some c → isDigit c = false) :
    (digits ++ rest).takeWhile isDigit = digits := by
  rw [List.takeWhile_append_of_pos all]
  cases rest with
  | nil => simp
  | cons c rest => simp [ends c rfl]

end BuildController.Text
