import ChatClient.Text.Encoding.DoubleByte
import ChatClient.Text.Encoding.Table.Gb18030

/-!
# Reading GB 18030

A code has one, two or four bytes; in one of four bytes the second and the fourth are digits. GBK is
read in the same way. Where a code has no character, its first byte is ill-formed; the byte after
it is read again if it is ASCII.
-/

namespace ChatClient.Encoding.Gb18030

open Utf8 (Bytes within)

/-- The character of a byte that stands alone. -/
def single? (b : UInt8) : Option Char := if b = 0x80 then some '€' else ascii? b

/-- The byte begins a longer code. -/
def isLead (b : UInt8) : Bool := within 0x81 0xFE b

/-- The byte is a digit. -/
def isDigit (b : UInt8) : Bool := within 0x30 0x39 b

/-- The character for private use with a number, if it is one. -/
def private? (n : Nat) : Option Char :=
  (gb18030PrivateRuns.find? fun (first, count, _) => first ≤ n && n < first + count).map
    fun (first, _, c) => Char.ofNat (c + (n - first))

/-- The character of a code of two bytes. -/
def double? (a b : UInt8) : Option Char :=
  (DoubleByte.trail? 0x80 0xFE b).bind fun t =>
    let n := (a.toNat - 0x81) * 190 + t
    (gb18030Table.get? n).or (private? n)

/-- The character with a number among those of four bytes. -/
def ofNumber? (n : Nat) : Option Char :=
  if (39419 < n ∧ n < 189000) ∨ 1237575 < n then none
  -- the letter of this place has a code of two bytes
  else if n = 7457 then some '\uE7C7'
  else (gb18030Runs.takeWhile (·.1 ≤ n)).getLast?.map fun (first, c) => Char.ofNat (c + (n - first))

/-- The character of a code of four bytes. -/
def quadruple? (a b c d : UInt8) : Option Char :=
  ofNumber? ((((a.toNat - 0x81) * 10 + (b.toNat - 0x30)) * 126 + (c.toNat - 0x81)) * 10 +
    (d.toNat - 0x30))

/-- The steps of a byte sequence. A longer code that the end cuts off is one ill-formed part. -/
def scan : Bytes → List (Option Char)
  | [] => []
  | [a] => [single? a]
  | a :: b :: r =>
      if !isLead a then single? a :: scan (b :: r)
      else if isDigit b then
        match r with
        | [] => [none]
        | c :: r₁ =>
            if isLead c then
              match r₁ with
              | [] => [none]
              | d :: r₂ =>
                  if isDigit d then quadruple? a b c d :: scan r₂
                  else none :: scan (b :: c :: d :: r₂)
            else none :: scan (b :: c :: r₁)
      else
        match double? a b with
        | some c => some c :: scan r
        | none => if b < 0x80 then none :: scan (b :: r) else none :: scan r

/-- An ASCII byte is a character of its own. -/
theorem scan_cons_ascii {a : UInt8} (r : Bytes) (h : a < 0x80) :
    scan (a :: r) = some (Char.ofNat a.toNat) :: scan r := by
  have ha : a.toNat < 0x80 := h
  have hs : single? a = some (Char.ofNat a.toNat) := by
    have : a ≠ 0x80 := by rintro rfl; exact absurd h (by decide)
    simp [single?, ascii?, this, h]
  have hl : isLead a = false := by
    simp only [isLead, within, Bool.and_eq_false_iff, decide_eq_false_iff_not]
    exact .inl fun h' => absurd (show (0x81 : UInt8).toNat ≤ a.toNat from h') (by simp; omega)
  cases r with
  | nil => simp [scan, hs]
  | cons b r => rw [scan.eq_def]; simp [hs, hl]

end ChatClient.Encoding.Gb18030
