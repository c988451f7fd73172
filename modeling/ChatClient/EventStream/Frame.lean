import ChatClient.Error
import ChatClient.Json.Raw
import ChatClient.Text.Blank

/-!
# Frames of an event stream

A frame is the text between two blank lines. Its data lines, joined by line feeds and trimmed, are a
JSON payload. Comment lines and fields other than `data` do not count, but a line without any colon
does, as data of its own. A frame without data, or with the word that closes a stream, has no
payload.
-/

namespace ChatClient

/-- One result of decoding an event stream: a payload, or an error. -/
abbrev Event := Except Error Json

namespace Frame

/-- The name of the field that carries data, with its colon. -/
def dataField : List Char := ['d', 'a', 't', 'a', ':']

/-- The payload that says that the stream is over. -/
def closingWord : List Char := ['[', 'D', 'O', 'N', 'E', ']']

/-- The value of a field without the one space that may stand before it. -/
def fieldValue : List Char → List Char
  | ' ' :: r => r
  | r => r

/-- What a line adds to the payload. -/
def dataOf (line : List Char) : Option (List Char) :=
  if line = [] ∨ line.head? = some ':' then none
  else if dataField.isPrefixOf line then some (fieldValue (line.drop dataField.length))
  else if line.contains ':' then none
  else some line

/-- The lines of a frame, without the carriage returns at their ends. -/
def lines (frame : List Char) : List (List Char) :=
  (Text.pieces '\n' frame).map (Text.dropTrailing (· == '\r'))

/-- The text of the payload: empty when there is no data. -/
def payload (frame : List Char) : List Char :=
  Text.trim (Text.join '\n' ((lines frame).filterMap dataOf))

/-- The error for a payload that is not JSON. It keeps the payload. -/
def notJson (payload : List Char) : Error :=
  .malformedResponse "stream frame is not valid JSON"
    { details := some { words := "", unread := some (String.ofList payload) }
      origin := some "sse_decoder" }

/-- The value of a payload. -/
def readPayload (payload : List Char) : Event :=
  match Json.parse? payload with
  | some v => .ok v
  | none => .error (notJson payload)

/-- What a frame stands for; `none` when it has no payload. -/
def parse (frame : List Char) : Option Event :=
  let p := payload frame
  if p = [] ∨ p = closingWord then none else some (readPayload p)

/-- A frame without characters has no payload. -/
@[simp] theorem parse_nil : parse [] = none := by decide

end Frame

end ChatClient
