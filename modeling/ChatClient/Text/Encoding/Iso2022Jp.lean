import ChatClient.Text.Encoding.DoubleByte

/-!
# Reading ISO-2022-JP

A code of seven bits that switches between character sets: an escape byte and two more select the
set of what follows. A switch right after another is ill-formed, for nothing stands between them.
-/

namespace ChatClient.Encoding.Iso2022Jp

open Utf8 (Bytes within)

/-- The character sets. -/
inductive CharSet where
  | ascii
  /-- ASCII with a yen sign and an overline. -/
  | roman
  | katakana
  /-- The characters of JIS X 0208, two bytes each. -/
  | kanji
deriving DecidableEq, Repr

/-- The escape byte. -/
def escape : UInt8 := 0x1B

/-- The character set that the two bytes after an escape byte select. -/
def select? (a b : UInt8) : Option CharSet :=
  if a = 0x28 ∧ b = 0x42 then some .ascii
  else if a = 0x28 ∧ b = 0x4A then some .roman
  else if a = 0x28 ∧ b = 0x49 then some .katakana
  else if a = 0x24 ∧ (b = 0x40 ∨ b = 0x42) then some .kanji
  else none

/-- The ASCII character of a byte that shifts nothing. -/
def plain? (b : UInt8) : Option Char := if b = 0x0E ∨ b = 0x0F then none else ascii? b

/-- The character of a byte in a set of one byte. -/
def single? (s : CharSet) (b : UInt8) : Option Char :=
  match s with
  | .ascii => plain? b
  | .roman => if b = 0x5C then some '¥' else if b = 0x7E then some '‾' else plain? b
  | .katakana => if within 0x21 0x5F b then some (halfwidthKatakana (b.toNat - 0x21)) else none
  | .kanji => none

/-- The byte may belong to a code of two bytes. -/
def inRows (b : UInt8) : Bool := within 0x21 0x7E b

/-- The steps of a byte sequence that is read in the set `s`; `switched` says that a switch stands
right before it. -/
def scanIn (s : CharSet) (switched : Bool) : Bytes → List (Option Char)
  | [] => []
  | a :: r =>
      if a = escape then
        match r with
        | x :: y :: r₁ =>
            match select? x y with
            | some s => (if switched then [none] else []) ++ scanIn s true r₁
            | none => none :: scanIn s false (x :: y :: r₁)
        | r => none :: scanIn s false r
      else if s = .kanji ∧ inRows a then
        match r with
        | [] => [none]
        | b :: r₁ =>
            if b = escape then none :: scanIn s false (b :: r₁)
            else if inRows b then
              jis0208Table.get? ((a.toNat - 0x21) * 94 + (b.toNat - 0x21)) :: scanIn s false r₁
            else none :: scanIn s false r₁
      else single? s a :: scanIn s false r

/-- The steps of a byte sequence. The text begins in ASCII. -/
def scan (bs : Bytes) : List (Option Char) := scanIn .ascii false bs

end ChatClient.Encoding.Iso2022Jp
