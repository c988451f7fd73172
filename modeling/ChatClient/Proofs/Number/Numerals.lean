import ChatClient.Number.Reading
import Mathlib.Tactic.Common

/-!
# Numerals

A numeral is a run of decimal digits (`Reading.Numeral`), and an integer is written as a numeral with
or without a sign (`Reading.Signed`). An integer of at most 64 bits is read from exactly the texts
that write one (`Reading.signed64?_eq_some_iff`): leading zeros and the sign of zero do no harm, and
everything else is refused, the integers next to the range among them.
-/

namespace ChatClient.Reading

/-! ## Digits -/

/-- A run of decimal digits, most significant first, that stands for the number. -/
structure Numeral (s : List Char) (n : Nat) : Prop where
  ne_nil : s ≠ []
  digits : ∀ c ∈ s, c.isDigit = true
  value : Nat.ofDigitChars 10 s 0 = n

/-- The digits of a number are a numeral of it. -/
theorem numeral_toDigits (n : Nat) : Numeral (Nat.toDigits 10 n) n where
  ne_nil := Nat.toDigits_ne_nil
  digits _ among := Nat.isDigit_of_mem_toDigits (by decide) (by decide) among
  value := Nat.ofDigitChars_toDigits (by decide) (by decide)

theorem isDigit_iff {c : Char} : c.isDigit = true ↔ '0' ≤ c ∧ c ≤ '9' := by
  rw [Char.isDigit, Bool.and_eq_true, decide_eq_true_eq, decide_eq_true_eq]
  rfl

theorem digit?_of_isDigit {c : Char} (h : c.isDigit = true) :
    digit? c = some (c.toNat - '0'.toNat) := by
  rw [digit?, if_pos (isDigit_iff.1 h)]
  rfl

theorem isDigit_of_digit? {c : Char} {d : Nat} (h : digit? c = some d) : c.isDigit = true := by
  rw [digit?, Option.ite_none_right_eq_some] at h
  exact isDigit_iff.2 h.1

/-- A run of characters is read if all of them are digits, and then by its value. -/
theorem digitsFrom_eq_some_iff {acc n : Nat} {s : List Char} :
    digitsFrom acc s = some n ↔
      (∀ c ∈ s, c.isDigit = true) ∧ Nat.ofDigitChars 10 s acc = n := by
  induction s generalizing acc with
  | nil => simp [digitsFrom]
  | cons c s ih =>
      rw [digitsFrom, Option.bind_eq_some_iff, List.forall_mem_cons, Nat.ofDigitChars_cons]
      constructor
      · rintro ⟨d, read, rest⟩
        have digit := isDigit_of_digit? read
        cases (digit?_of_isDigit digit).symm.trans read
        obtain ⟨digits, value⟩ := ih.1 rest
        exact ⟨⟨digit, digits⟩, value⟩
      · rintro ⟨⟨digit, digits⟩, value⟩
        exact ⟨_, digit?_of_isDigit digit, ih.2 ⟨digits, value⟩⟩

theorem natural?_eq_some_iff {s : List Char} {n : Nat} : natural? s = some n ↔ Numeral s n := by
  cases s with
  | nil => exact ⟨nofun, fun numeral => absurd rfl numeral.ne_nil⟩
  | cons c s =>
      show digitsFrom 0 (c :: s) = some n ↔ _
      rw [digitsFrom_eq_some_iff]
      constructor
      · rintro ⟨digits, value⟩
        exact ⟨nofun, digits, value⟩
      · intro numeral
        exact ⟨numeral.digits, numeral.value⟩

/-! ## Signs -/

/-- A numeral with or without a sign that stands for the integer. -/
inductive Signed : List Char → Int → Prop
  | bare {s : List Char} {n : Nat} (numeral : Numeral s n) : Signed s n
  | plus {s : List Char} {n : Nat} (numeral : Numeral s n) : Signed ('+' :: s) n
  | minus {s : List Char} {n : Nat} (numeral : Numeral s n) : Signed ('-' :: s) (-n)

/-- The integer has at most 64 bits. -/
def IsInt64 (n : Int) : Prop := Int64.minValue.toInt ≤ n ∧ n ≤ Int64.maxValue.toInt

instance (n : Int) : Decidable (IsInt64 n) := inferInstanceAs (Decidable (_ ∧ _))

/-- A numeral begins with a digit, so no sign is taken for a part of it. -/
theorem Numeral.head_isDigit {c : Char} {s : List Char} {n : Nat} (numeral : Numeral (c :: s) n) :
    c.isDigit = true :=
  numeral.digits c List.mem_cons_self

theorem Signed.ne_nil {s : List Char} {n : Int} (written : Signed s n) : s ≠ [] := by
  cases written with
  | bare numeral => exact numeral.ne_nil
  | plus => exact List.cons_ne_nil _ _
  | minus => exact List.cons_ne_nil _ _

/-- The texts that write an integer, by their first character. -/
theorem signed_cons_iff {c : Char} {s : List Char} {n : Int} :
    Signed (c :: s) n ↔
      if c = '+' then (natural? s).map Int.ofNat = some n
      else if c = '-' then (natural? s).map (fun m : Nat => -(m : Int)) = some n
      else (natural? (c :: s)).map Int.ofNat = some n := by
  constructor
  · intro signed
    cases signed with
    | @bare _ m numeral =>
        -- a digit is neither of the signs
        have digit := numeral.head_isDigit
        rw [if_neg, if_neg, natural?_eq_some_iff.2 numeral]
        · rfl
        · rintro rfl
          cases digit
        · rintro rfl
          cases digit
    | plus numeral =>
        rw [if_pos rfl, natural?_eq_some_iff.2 numeral]
        rfl
    | minus numeral =>
        rw [if_neg (by decide), if_pos rfl, natural?_eq_some_iff.2 numeral]
        rfl
  · intro read
    split at read
    · next same =>
        obtain ⟨m, numeral, rfl⟩ := Option.map_eq_some_iff.1 read
        rw [same]
        exact .plus (natural?_eq_some_iff.1 numeral)
    · split at read
      · next same =>
          obtain ⟨m, numeral, rfl⟩ := Option.map_eq_some_iff.1 read
          rw [same]
          exact .minus (natural?_eq_some_iff.1 numeral)
      · obtain ⟨m, numeral, rfl⟩ := Option.map_eq_some_iff.1 read
        exact .bare (natural?_eq_some_iff.1 numeral)

/-- An integer of at most 64 bits is read from the texts that write one, and from no other. -/
theorem signed64?_eq_some_iff {s : List Char} {n : Int} :
    signed64? s = some n ↔ Signed s n ∧ IsInt64 n := by
  have range : (-(UInt64.size : Int) ≤ 2 * n ∧ 2 * n < UInt64.size) ↔ IsInt64 n := by
    have size : (UInt64.size : Int) = 18446744073709551616 := rfl
    have least : Int64.minValue.toInt = -9223372036854775808 := by decide
    have greatest : Int64.maxValue.toInt = 9223372036854775807 := by decide
    rw [IsInt64, size, least, greatest]
    omega
  unfold signed64?
  rw [Option.filter_eq_some_iff, decide_eq_true_eq, range]
  apply and_congr_left
  intro _
  -- the first character decides how the rest is read
  cases s with
  | nil =>
      constructor
      · nofun
      · intro written
        exact absurd rfl written.ne_nil
  | cons c s =>
      rw [signed_cons_iff]
      by_cases plus : c = '+'
      · subst plus
        rfl
      · rw [if_neg plus]
        by_cases minus : c = '-'
        · subst minus
          rw [if_pos rfl]
          show ((natural? s).bind fun m => some (m : Int)).map (fun n => -n) = some n ↔ _
          cases natural? s with
          | none => rfl
          | some m => rfl
        · rw [if_neg minus]
          split
          · next same => exact absurd (List.cons.inj same).1 plus
          · next same => exact absurd (List.cons.inj same).1 minus
          · rfl

end ChatClient.Reading
