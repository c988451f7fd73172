import ChatClient.Text.Encoding.DoubleByte
import ChatClient.Text.Encoding.Table.Jis0212

/-!
# Reading EUC-JP

A code of two bytes is a halfwidth katakana or a character of JIS X 0208; one of three bytes, the
first of which is 0x8F, is a character of JIS X 0212. Where a code has no character, its last byte
is read again if it is ASCII.
-/

namespace ChatClient.Encoding.EucJp

open Utf8 (Bytes within)

/-- The byte may belong to a code of a character set with rows of 94. -/
def inRows (b : UInt8) : Bool := within 0xA1 0xFE b

/-- The byte begins a longer code. -/
def isLead (b : UInt8) : Bool := b == 0x8E || b == 0x8F || inRows b

/-- The character in the row and the column of two bytes. -/
def ofRows? (t : CodeTable) (a b : UInt8) : Option Char :=
  if inRows a && inRows b then t.get? ((a.toNat - 0xA1) * 94 + (b.toNat - 0xA1)) else none

/-- The character of a code of two bytes. -/
def double? (a b : UInt8) : Option Char :=
  if a = 0x8E ∧ within 0xA1 0xDF b then some (halfwidthKatakana (b.toNat - 0xA1))
  else ofRows? jis0208Table a b

/-- The steps of a byte sequence. -/
def scan : Bytes → List (Option Char)
  | [] => []
  | [a] => [ascii? a]
  | a :: b :: r =>
      if !isLead a then ascii? a :: scan (b :: r)
      else if a = 0x8F ∧ inRows b then
        match r with
        | [] => [none]
        | c :: r₁ =>
            match ofRows? jis0212Table b c with
            | some x => some x :: scan r₁
            | none => if c < 0x80 then none :: scan (c :: r₁) else none :: scan r₁
      else
        match double? a b with
        | some x => some x :: scan r
        | none => if b < 0x80 then none :: scan (b :: r) else none :: scan r

end ChatClient.Encoding.EucJp
