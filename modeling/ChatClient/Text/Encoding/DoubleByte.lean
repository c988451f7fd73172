import ChatClient.Text.Encoding.Table.Big5
import ChatClient.Text.Encoding.Table.Hangul
import ChatClient.Text.Encoding.Table.Jis0208
import ChatClient.Text.Utf8

/-!
# Encodings of one or two bytes

A byte stands alone or leads a code of two bytes. Where such a code has no character, the lead byte
is ill-formed, and the byte after it too unless it is ASCII: an ASCII byte is never lost. Big5,
Shift JIS and the unified Hangul code are of this kind.
-/

namespace ChatClient.Encoding

open Utf8 (Bytes within)

/-- The character of an ASCII byte. -/
def ascii? (b : UInt8) : Option Char := if b < 0x80 then some (Char.ofNat b.toNat) else none

/-- The halfwidth katakana by number. -/
def halfwidthKatakana (n : Nat) : Char := Char.ofNat (0xFF61 + n)

/-- An encoding of one or two bytes. -/
structure DoubleByte where
  /-- The character of a byte that stands alone; a lead byte has none. -/
  single? : UInt8 → Option Char
  isLead : UInt8 → Bool
  /-- The characters of a code of two bytes. -/
  double? : UInt8 → UInt8 → Option (List Char)

namespace DoubleByte

/-- The steps of a byte sequence: characters, and `none` for each ill-formed part. -/
def scan (e : DoubleByte) : Bytes → List (Option Char)
  | [] => []
  | [a] => [e.single? a]
  | a :: b :: r =>
      if e.isLead a then
        match e.double? a b with
        | some s => s.map some ++ scan e r
        | none => if b < 0x80 then none :: scan e (b :: r) else none :: scan e r
      else e.single? a :: scan e (b :: r)

/-- The place of the second byte among those allowed, which form two runs: the first from 0x40 to
0x7E, the second between two bounds. -/
def trail? (lo hi b : UInt8) : Option Nat :=
  if within 0x40 0x7E b then some (b.toNat - 0x40)
  else if within lo hi b then some (b.toNat - lo.toNat + 63)
  else none

/-- The codes of Big5 that stand for a letter and a combining mark. -/
def big5Pairs : List (Nat × List Char) := [
  (1133, ['\u00CA', '\u0304']), (1135, ['\u00CA', '\u030C']),
  (1164, ['\u00EA', '\u0304']), (1166, ['\u00EA', '\u030C'])]

/-- The encoding Big5. -/
def big5 : DoubleByte where
  single? := ascii?
  isLead := within 0x81 0xFE
  double? a b := (trail? 0xA1 0xFE b).bind fun t =>
    let n := (a.toNat - 0x81) * 157 + t
    match big5Pairs.lookup n with
    | some s => some s
    | none => (big5Table.get? n).map ([·])

/-- The encoding Shift JIS. The rows that the character set leaves free are for private use. -/
def shiftJis : DoubleByte where
  single? b :=
    if b ≤ 0x80 then some (Char.ofNat b.toNat)
    else if within 0xA1 0xDF b then some (halfwidthKatakana (b.toNat - 0xA1))
    else none
  isLead b := within 0x81 0x9F b || within 0xE0 0xFC b
  double? a b := (trail? 0x80 0xFC b).bind fun t =>
    let n := (a.toNat - (if a < 0xA0 then 0x81 else 0xC1)) * 188 + t
    if 8836 ≤ n ∧ n ≤ 10715 then some [Char.ofNat (0xE000 + (n - 8836))]
    else (jis0208Table.get? n).map ([·])

/-- The unified Hangul code. -/
def hangul : DoubleByte where
  single? := ascii?
  isLead := within 0x81 0xFE
  double? a b :=
    if within 0x41 0xFE b then
      (hangulTable.get? ((a.toNat - 0x81) * 190 + (b.toNat - 0x41))).map ([·])
    else none

/-- A byte that leads no code is a step of its own. -/
theorem scan_cons_of_not_lead (e : DoubleByte) {a : UInt8} (r : Bytes) (h : e.isLead a = false) :
    e.scan (a :: r) = e.single? a :: e.scan r := by
  cases r with
  | nil => simp [scan]
  | cons b r => simp [scan, h]

end DoubleByte

end ChatClient.Encoding
