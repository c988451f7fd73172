import ChatClient.Proofs.Text.Lines
import ChatClient.Text.Quoted

/-!
# Quoted text can be read back

A quoted text shows where it ends and which text it is, whatever stands after it
(`quoted_append_inj`). Between the quotes every character has one of three forms (`Text.Escape`), and
what a form begins with tells which one it is.
-/

namespace ChatClient

namespace Text

/-! ## Hexadecimal digits -/

theorem hexDigits_of_lt {n : Nat} (small : n < 16) : hexDigits n = [Nat.digitChar n] :=
  Nat.toDigits_of_lt_base small

theorem hexDigits_of_le {n : Nat} (large : 16 ≤ n) :
    hexDigits n = hexDigits (n / 16) ++ [Nat.digitChar (n % 16)] :=
  Nat.toDigits_of_base_le (by decide) large

theorem lt_of_hexDigits_eq_singleton {n : Nat} {c : Char} (single : hexDigits n = [c]) : n < 16 := by
  by_contra large
  rw [hexDigits_of_le (Nat.le_of_not_lt large)] at single
  have one := congrArg List.length single
  rw [List.length_append, List.length_singleton, List.length_singleton] at one
  have front : 0 < (hexDigits (n / 16)).length := Nat.length_toDigits_pos
  omega

theorem not_mem_hexDigits {c : Char} (other : ∀ d < 16, Nat.digitChar d ≠ c) (n : Nat) :
    c ∉ hexDigits n := by
  induction n using Nat.strongRecOn with
  | ind n ih =>
      by_cases small : n < 16
      · rw [hexDigits_of_lt small, List.mem_singleton]
        exact (other n small).symm
      · rw [hexDigits_of_le (Nat.le_of_not_lt small), List.mem_append, List.mem_singleton, not_or]
        exact ⟨ih _ (by omega), (other _ (by omega)).symm⟩

theorem digitChar_inj : ∀ m < 16, ∀ n < 16, Nat.digitChar m = Nat.digitChar n → m = n := by decide

theorem hexDigits_inj {m n : Nat} (same : hexDigits m = hexDigits n) : m = n := by
  induction m using Nat.strongRecOn generalizing n with
  | ind m ih =>
      -- only the numbers below 16 have a single digit
      by_cases m_small : m < 16
      · have n_small : n < 16 :=
          lt_of_hexDigits_eq_singleton (same.symm.trans (hexDigits_of_lt m_small))
        rw [hexDigits_of_lt m_small, hexDigits_of_lt n_small] at same
        exact digitChar_inj m m_small n n_small (List.singleton_inj.1 same)
      · have n_large : ¬n < 16 := fun n_small =>
          m_small (lt_of_hexDigits_eq_singleton (same.trans (hexDigits_of_lt n_small)))
        rw [hexDigits_of_le (Nat.le_of_not_lt m_small), hexDigits_of_le (Nat.le_of_not_lt n_large)]
          at same
        obtain ⟨front, last⟩ := List.append_inj' same rfl
        have quotient : m / 16 = n / 16 := ih _ (by omega) front
        have remainder : m % 16 = n % 16 :=
          digitChar_inj _ (by omega) _ (by omega) (List.singleton_inj.1 last)
        omega

/-! ## Characters between quotes -/

/-- The characters with a short escape, and the letter after the backslash. -/
def shortEscapes : List (Char × Char) :=
  [('"', '"'), ('\\', '\\'), ('\n', 'n'), ('\r', 'r'), ('\t', 't'), ('\x00', '0')]

/-- The forms that a character can have between quotes. -/
inductive Escape : Char → List Char → Prop
  | plain {c : Char} (no_quote : c ≠ '"') (no_backslash : c ≠ '\\') : Escape c [c]
  | short {c letter : Char} (listed : (c, letter) ∈ shortEscapes) : Escape c ['\\', letter]
  | long (c : Char) : Escape c ('\\' :: 'u' :: '{' :: hexDigits c.toNat ++ ['}'])

theorem escape_escapeChar (c : Char) : Escape c (escapeChar c) := by
  unfold escapeChar
  split
  · next quote =>
      subst quote
      exact .short (by decide)
  next no_quote =>
  split
  · next backslash =>
      subst backslash
      exact .short (by decide)
  next no_backslash =>
  split
  · next feed =>
      subst feed
      exact .short (by decide)
  split
  · next ret =>
      subst ret
      exact .short (by decide)
  split
  · next tab =>
      subst tab
      exact .short (by decide)
  split
  · next zero =>
      have null : c = '\x00' := Char.toNat_inj.1 zero
      subst null
      exact .short (by decide)
  split
  · exact .long c
  · exact .plain no_quote no_backslash

namespace Escape

variable {c d : Char} {s t r u : List Char}

theorem append_ne_quote (escape : Escape c s) : s ++ r ≠ '"' :: u := by
  intro same
  cases escape with
  | plain no_quote _ => exact no_quote (List.head_eq_of_cons_eq same)
  | short _ => cases List.head_eq_of_cons_eq same
  | long => cases List.head_eq_of_cons_eq same

theorem letters_inj : ∀ p ∈ shortEscapes, ∀ q ∈ shortEscapes, p.2 = q.2 → p.1 = q.1 := by decide

theorem letter_ne_u : ∀ p ∈ shortEscapes, p.2 ≠ 'u' := by decide

theorem long_append_inj
    (same : hexDigits c.toNat ++ '}' :: r = hexDigits d.toNat ++ '}' :: u) : c = d ∧ r = u := by
  have brace (n : Nat) : '}' ∉ hexDigits n := not_mem_hexDigits (by decide) n
  -- no digit is a brace, so the first brace ends the digits
  have pieces := congrArg (pieces '}') same
  rw [pieces_append_cons (brace _), pieces_append_cons (brace _)] at pieces
  have digits : hexDigits c.toNat = hexDigits d.toNat := List.head_eq_of_cons_eq pieces
  rw [digits] at same
  exact ⟨Char.toNat_inj.1 (hexDigits_inj digits), List.tail_eq_of_cons_eq (List.append_cancel_left same)⟩

/-- The form of a character is not the beginning of the form of another. -/
theorem append_inj (first : Escape c s) (second : Escape d t) (same : s ++ r = t ++ u) :
    c = d ∧ r = u := by
  -- the first character tells a plain form from an escape, the second a short escape from a long one
  cases first with
  | plain _ no_backslash =>
      cases second with
      | plain => exact List.cons.inj same
      | short => cases no_backslash (List.head_eq_of_cons_eq same)
      | long => cases no_backslash (List.head_eq_of_cons_eq same)
  | short listed =>
      cases second with
      | plain _ no_backslash => cases no_backslash (List.head_eq_of_cons_eq same).symm
      | short listed' =>
          obtain ⟨letter, rest⟩ := List.cons.inj (List.tail_eq_of_cons_eq same)
          exact ⟨letters_inj _ listed _ listed' letter, rest⟩
      | long =>
          cases letter_ne_u _ listed (List.head_eq_of_cons_eq (List.tail_eq_of_cons_eq same))
  | long =>
      cases second with
      | plain _ no_backslash => cases no_backslash (List.head_eq_of_cons_eq same).symm
      | short listed =>
          cases letter_ne_u _ listed (List.head_eq_of_cons_eq (List.tail_eq_of_cons_eq same)).symm
      | long =>
          apply long_append_inj
          simpa using same

end Escape

/-! ## Texts -/

theorem flatMap_escapeChar_append_inj {s t r u : List Char}
    (same : s.flatMap escapeChar ++ '"' :: r = t.flatMap escapeChar ++ '"' :: u) : s = t ∧ r = u := by
  induction s generalizing t with
  | nil =>
      cases t with
      | nil => exact ⟨rfl, List.tail_eq_of_cons_eq same⟩
      | cons d t =>
          rw [List.flatMap_cons, List.append_assoc] at same
          cases (escape_escapeChar d).append_ne_quote same.symm
  | cons c s ih =>
      rw [List.flatMap_cons, List.append_assoc] at same
      cases t with
      | nil => cases (escape_escapeChar c).append_ne_quote same
      | cons d t =>
          rw [List.flatMap_cons, List.append_assoc] at same
          obtain ⟨rfl, rest⟩ := (escape_escapeChar c).append_inj (escape_escapeChar d) same
          obtain ⟨rfl, rfl⟩ := ih rest
          exact ⟨rfl, rfl⟩

end Text

/-- What stands between the quotes, and what stands after them, can be told from the whole. -/
theorem quoted_append_inj {s t r u : String} (same : quoted s ++ r = quoted t ++ u) :
    s = t ∧ r = u := by
  have chars := congrArg String.toList same
  simp only [quoted, Text.quoteChars, String.toList_append, String.toList_ofList, List.cons_append,
    List.append_assoc, List.nil_append] at chars
  obtain ⟨text, rest⟩ := Text.flatMap_escapeChar_append_inj (List.tail_eq_of_cons_eq chars)
  exact ⟨String.toList_inj.1 text, String.toList_inj.1 rest⟩

theorem quotedOption_none_append_ne (s r u : String) :
    quotedOption none ++ r ≠ quotedOption (some s) ++ u := by
  intro same
  have chars := congrArg String.toList same
  simp [quotedOption] at chars

theorem quotedOption_append_inj {o p : Option String} {r u : String}
    (same : quotedOption o ++ r = quotedOption p ++ u) : o = p ∧ r = u := by
  cases o with
  | none =>
      cases p with
      | none => exact ⟨rfl, (String.append_right_inj _).1 same⟩
      | some t => cases quotedOption_none_append_ne t r u same
  | some s =>
      cases p with
      | none => cases quotedOption_none_append_ne s u r same.symm
      | some t =>
          simp only [quotedOption, String.append_assoc, String.append_right_inj] at same
          obtain ⟨rfl, rest⟩ := quoted_append_inj same
          exact ⟨rfl, (String.append_right_inj _).1 rest⟩

end ChatClient
