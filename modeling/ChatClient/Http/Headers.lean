import ChatClient.Http.MediaType
import ChatClient.Json.Basic
import ChatClient.Text.Encoding.Label

/-!
# Header fields

The header fields of an answer in the order in which they came, names in small letters, values as
bytes. A value counts only when it is visible ASCII. A look-up sees the first field of a name; the
map of all fields keeps the last.
-/

namespace ChatClient.Http

/-- The header fields of an answer. -/
abbrev Headers := List (String × Utf8.Bytes)

namespace Headers

/-- The field with its name in small letters. -/
def field (name : String) (value : Utf8.Bytes) : String × Utf8.Bytes :=
  (String.ofList (name.toList.map Char.toLower), value)

/-- Printable ASCII, or a tab. -/
def isVisible (b : UInt8) : Bool := (0x20 ≤ b && b < 0x7F) || b == 0x09

/-- The text of a value, if all of it is visible. -/
def text? (value : Utf8.Bytes) : Option String :=
  if value.all isVisible then some (String.ofList (value.map fun b => Char.ofNat b.toNat))
  else none

/-- The text of the first field of that name. -/
def get? (name : String) (h : Headers) : Option String :=
  (h.find? (·.1 == name)).bind fun f => text? f.2

/-- All fields with a text; of two fields of one name the later counts. -/
def toFields (h : Headers) : Fields String :=
  Fields.ofPairs (h.filterMap fun f => (text? f.2).map fun t => (f.1, t))

/-- The answer has a JSON body. -/
def isJson (h : Headers) : Bool :=
  match get? "content-type" h with
  | none => false
  | some t => "application/json".toList.isPrefixOf t.toList

/-- The encoding of the body: the one that the content type announces, else UTF-8. -/
def encoding (h : Headers) : Encoding :=
  (((get? "content-type" h).bind MediaType.charset?).bind Encoding.ofLabel?).getD .utf8

end Headers

end ChatClient.Http
