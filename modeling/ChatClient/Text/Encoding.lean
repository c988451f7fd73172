import ChatClient.Text.Encoding.CodePage
import ChatClient.Text.Encoding.EucJp
import ChatClient.Text.Encoding.Gb18030
import ChatClient.Text.Encoding.Iso2022Jp
import ChatClient.Text.Encoding.Utf16

/-!
# Character encodings

The encodings in which a text may be sent. `Encoding.decode` reads a byte sequence; what is
ill-formed becomes U+FFFD. A byte order mark at the start of a body overrules the encoding that was
announced (`Encoding.decodeBody`).
-/

namespace ChatClient

open Utf8 (Bytes)

/-- A character encoding. -/
inductive Encoding where
  | utf8
  | utf16 (bigEndian : Bool)
  /-- Every byte is a character. -/
  | page (upper : Encoding.CodeTable)
  /-- One or two bytes are a character. -/
  | double (code : Encoding.DoubleByte)
  | gb18030
  | eucJp
  | iso2022Jp
  /-- The upper half is for private use. -/
  | userDefined
  /-- An encoding that is not read: it makes any text ill-formed as a whole. -/
  | replacement

namespace Encoding

/-- The character of a byte in the encoding whose upper half is for private use. -/
def userDefinedChar (b : UInt8) : Char :=
  if b < 0x80 then Char.ofNat b.toNat else Char.ofNat (0xF780 + (b.toNat - 0x80))

/-- The steps of a byte sequence: characters, and `none` for each ill-formed part. -/
def scan : Encoding → Bytes → List (Option Char)
  | .utf8, bs => Utf8.scan bs
  | .utf16 bigEndian, bs => Utf16.scan bigEndian bs
  | .page upper, bs => bs.map upper.ofByte?
  | .double code, bs => code.scan bs
  | .gb18030, bs => Gb18030.scan bs
  | .eucJp, bs => EucJp.scan bs
  | .iso2022Jp, bs => Iso2022Jp.scan bs
  | .userDefined, bs => bs.map fun b => some (userDefinedChar b)
  | .replacement, bs => if bs.isEmpty then [] else [none]

/-- The text of a byte sequence, with U+FFFD in the place of each ill-formed part. -/
def decode (e : Encoding) (bs : Bytes) : List Char :=
  (e.scan bs).map (·.getD (Char.ofNat 0xFFFD))

/-- The encoding that a byte order mark at the start announces, and the bytes after the mark. -/
def splitMark : Bytes → Option (Encoding × Bytes)
  | 0xEF :: 0xBB :: 0xBF :: r => some (.utf8, r)
  | 0xFF :: 0xFE :: r => some (.utf16 false, r)
  | 0xFE :: 0xFF :: r => some (.utf16 true, r)
  | _ => none

/-- The text of a whole body whose encoding was announced as `e`. -/
def decodeBody (e : Encoding) (bs : Bytes) : List Char :=
  match splitMark bs with
  | some (marked, r) => marked.decode r
  | none => e.decode bs

theorem decode_utf8 (bs : Bytes) : utf8.decode bs = Utf8.decodeLossy bs := rfl

/-- A mark counts whatever encoding was announced. -/
theorem decodeBody_of_mark (e : Encoding) {bs r : Bytes} {marked : Encoding}
    (h : splitMark bs = some (marked, r)) : e.decodeBody bs = marked.decode r := by
  simp [decodeBody, h]

/-- Without a mark the announced encoding is used. -/
theorem decodeBody_of_no_mark (e : Encoding) {bs : Bytes} (h : splitMark bs = none) :
    e.decodeBody bs = e.decode bs := by
  simp [decodeBody, h]

end Encoding

end ChatClient
