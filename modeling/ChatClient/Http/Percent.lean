import ChatClient.Number.Reading
import ChatClient.Text.Utf8

/-!
# Percent encoding

A text is encoded by its UTF-8 bytes: a byte is kept, or written as a percent sign and two capital
hexadecimal digits. Which ASCII characters are kept depends on the place in a URL. Form encoding
differs from the others in that a space becomes a plus sign.
-/

namespace ChatClient.Http.Percent

/-- A capital hexadecimal digit. -/
def hexDigit (n : Nat) : Char := (Nat.digitChar n).toUpper

/-- A byte as a percent sign and two digits. -/
def encodeByte (b : UInt8) : List Char :=
  ['%', hexDigit (b.toNat / 16), hexDigit (b.toNat % 16)]

/-- A character: kept if ASCII and allowed, else all its bytes encoded. -/
def encodeChar (keep : Char → Bool) (c : Char) : List Char :=
  if c.toNat < 0x80 && keep c then [c] else (Utf8.encode [c]).flatMap encodeByte

/-- A text with all characters encoded that are not kept. -/
def encode (keep : Char → Bool) (s : List Char) : List Char := s.flatMap (encodeChar keep)

/-- The printable ASCII characters without the space. -/
def isGraphic (c : Char) : Bool := 0x20 < c.toNat && c.toNat < 0x7F

/-- The characters kept in a segment of a path. -/
def keptInPath (c : Char) : Bool :=
  isGraphic c && !"\"#<>?`\x7b\x7d".toList.contains c

/-- The characters kept in a query. -/
def keptInQuery (c : Char) : Bool :=
  isGraphic c && !"\"#<>'".toList.contains c

/-- The characters kept in a fragment. -/
def keptInFragment (c : Char) : Bool :=
  isGraphic c && !"\"<>`".toList.contains c

/-- The characters kept in a form, the space excepted. -/
def keptInForm (c : Char) : Bool :=
  c.isAlphanum || "*-._".toList.contains c

/-- A form value. -/
def encodeForm (s : List Char) : List Char :=
  s.flatMap fun c => if c = ' ' then ['+'] else encodeChar keptInForm c

/-- The bytes of a text after its encoded bytes are put back; a percent sign without two digits
stands for itself. -/
def decode : List Char → Utf8.Bytes
  | [] => []
  | '%' :: a :: b :: r =>
      match Reading.hexDigit? a, Reading.hexDigit? b with
      | some x, some y => UInt8.ofNat (16 * x + y) :: decode r
      | _, _ => 0x25 :: decode (a :: b :: r)
  | c :: r => Utf8.encode [c] ++ decode r

end ChatClient.Http.Percent
