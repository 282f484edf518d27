import FilePush.Text.Numeral
import Mathlib.Data.List.Basic
import Mathlib.Data.List.Induction
import Mathlib.Data.Nat.Digits.Defs

/-!
# Decimal numerals

What is read as an unsigned number is exactly an optional plus sign and decimal digits, whose value,
with the weights of their places, is not too large.  Zeros in front change nothing, and no text
spells two numbers.
-/

namespace FilePush

namespace Numeral

/-- The value of a decimal digit. -/
def digitValue (digit : Char) : Nat := digit.toNat - '0'.toNat

/--
A text spells a number that is at most `limit`: decimal digits, one at least, and perhaps a plus
sign before them.
-/
def Spells (limit : Nat) (text : String) (value : Nat) : Prop :=
  ∃ digits : List Char, digits ≠ [] ∧ (∀ digit ∈ digits, digit.isDigit) ∧
    (text.toList = digits ∨ text.toList = '+' :: digits) ∧
    value = Nat.ofDigits 10 (digits.reverse.map digitValue) ∧ value ≤ limit

theorem ofDigits?_concat (digits : List Char) (digit : Char) :
    ofDigits? (digits ++ [digit]) =
      if digit.isDigit then (ofDigits? digits).map fun value => value * 10 + digitValue digit
      else none :=
  List.foldl_concat _ _ _ _

/-- The digits from the left add up to the value that their places give them. -/
theorem ofDigits?_eq_some_iff {digits : List Char} {value : Nat} :
    ofDigits? digits = some value ↔ (∀ digit ∈ digits, digit.isDigit) ∧
      value = Nat.ofDigits 10 (digits.reverse.map digitValue) := by
  induction digits using List.reverseRecOn generalizing value with
  | nil =>
      rw [show ofDigits? [] = some 0 from rfl, Option.some.injEq, eq_comm]
      simp
  | append_singleton digits digit induction =>
      rw [ofDigits?_concat, List.reverse_append, List.reverse_singleton, List.singleton_append,
        List.map_cons, Nat.ofDigits_cons, List.forall_mem_append, List.forall_mem_singleton]
      split
      · next isDigit =>
          simp only [Option.map_eq_some_iff, induction]
          constructor
          · rintro ⟨front, ⟨all, rfl⟩, rfl⟩
            exact ⟨⟨all, isDigit⟩, by simp [Nat.add_comm, Nat.mul_comm]⟩
          · rintro ⟨⟨all, -⟩, rfl⟩
            exact ⟨_, ⟨all, rfl⟩, by simp [Nat.add_comm, Nat.mul_comm]⟩
      · next noDigit => simp [noDigit]

theorem plus_ne_of_digits {digits : List Char} (all : ∀ digit ∈ digits, digit.isDigit)
    (rest : List Char) : digits ≠ '+' :: rest := by
  rintro rfl
  exact absurd (all '+' List.mem_cons_self) (by decide)

/-- A number is read from a text exactly if the text spells it. -/
theorem parse?_eq_some_iff {limit value : Nat} {text : String} :
    parse? limit text = some value ↔ Spells limit text value := by
  have of_digits (digits : List Char) :
      (if digits.isEmpty then none else (ofDigits? digits).filter (· ≤ limit)) = some value ↔
        digits ≠ [] ∧ (∀ digit ∈ digits, digit.isDigit) ∧
          value = Nat.ofDigits 10 (digits.reverse.map digitValue) ∧ value ≤ limit := by
    simp only [List.isEmpty_iff, Option.ite_none_left_eq_some, Option.filter_eq_some_iff,
      ofDigits?_eq_some_iff, decide_eq_true_eq, and_assoc]
  rw [parse?]
  split
  · next rest signed =>
      rw [of_digits, Spells, signed]
      constructor
      · rintro ⟨some_digit, all, worth, small⟩
        exact ⟨rest, some_digit, all, .inr rfl, worth, small⟩
      · rintro ⟨digits, some_digit, all, same | same, worth, small⟩
        · exact absurd same.symm (plus_ne_of_digits all rest)
        · obtain rfl := List.tail_eq_of_cons_eq same
          exact ⟨some_digit, all, worth, small⟩
  · next unsigned =>
      rw [of_digits, Spells]
      constructor
      · rintro ⟨some_digit, all, worth, small⟩
        exact ⟨_, some_digit, all, .inl rfl, worth, small⟩
      · rintro ⟨digits, some_digit, all, same | same, worth, small⟩
        · subst same
          exact ⟨some_digit, all, worth, small⟩
        · exact absurd same (unsigned digits)

theorem parse?_eq_none_iff {limit : Nat} {text : String} :
    parse? limit text = none ↔ ∀ value, ¬Spells limit text value := by
  simp only [Option.eq_none_iff_forall_not_mem, Option.mem_def, parse?_eq_some_iff]

/-- No text spells two numbers. -/
theorem Spells.unique {limit one two : Nat} {text : String} (left : Spells limit text one)
    (right : Spells limit text two) : one = two :=
  Option.some.inj ((parse?_eq_some_iff.mpr left).symm.trans (parse?_eq_some_iff.mpr right))

theorem Spells.le {limit value : Nat} {text : String} (spells : Spells limit text value) :
    value ≤ limit := by
  obtain ⟨-, -, -, -, -, small⟩ := spells
  exact small

end Numeral

end FilePush
