import ChatClient.Text.Utf8

/-!
# Reading UTF-16

Two bytes make a unit, in one of two orders, and two surrogates make a character. As in UTF-8 a
byte sequence is cut into steps: characters, and ill-formed parts. An unpaired surrogate is such a
part, and so is what is left at the end when a unit or a pair is not complete.
-/

namespace ChatClient.Encoding.Utf16

open Utf8 (Bytes)

/-- The unit of two bytes. -/
def unit (bigEndian : Bool) (a b : UInt8) : Nat :=
  if bigEndian then 256 * a.toNat + b.toNat else 256 * b.toNat + a.toNat

/-- The first unit of a pair. -/
def isLead (u : Nat) : Bool := 0xD800 ≤ u && u < 0xDC00

/-- The second unit of a pair. -/
def isTrail (u : Nat) : Bool := 0xDC00 ≤ u && u < 0xE000

/-- The character of a pair of surrogates. -/
def ofPair (u v : Nat) : Char := Char.ofNat (0x10000 + (u - 0xD800) * 0x400 + (v - 0xDC00))

/-- The steps of a byte sequence. -/
def scan (bigEndian : Bool) : Bytes → List (Option Char)
  | [] => []
  | [_] => [none]
  | a :: b :: r =>
      let u := unit bigEndian a b
      if isLead u then
        match r with
        | c :: d :: r₁ =>
            let v := unit bigEndian c d
            if isTrail v then some (ofPair u v) :: scan bigEndian r₁
            else none :: scan bigEndian (c :: d :: r₁)
        -- a byte that is left over belongs to the broken pair
        | _ => [none]
      else if isTrail u then none :: scan bigEndian r
      else some (Char.ofNat u) :: scan bigEndian r

/-- An ASCII character takes two bytes, one of them zero. -/
theorem scan_ascii {a : UInt8} (r : Bytes) (h : a < 0x80) :
    scan false (a :: 0 :: r) = some (Char.ofNat a.toNat) :: scan false r := by
  have ha : a.toNat < 0x80 := h
  have hu : unit false a 0 = a.toNat := by simp [unit]
  have lead : isLead a.toNat = false := by simp [isLead]; omega
  have trail : isTrail a.toNat = false := by simp [isTrail]; omega
  rw [scan.eq_def]
  simp [hu, lead, trail]

end ChatClient.Encoding.Utf16
