import ChatClient.Json.Printer
import ChatClient.Duration
import ChatClient.Error

/-!
# Envelopes

An envelope is one unit of model output: a whole reply, or one chunk of a streamed one. Its typed
fields are read off the raw payload, which it keeps. `Envelope.ofBody` states which payloads are
accepted and in which order their faults are reported; `Envelope.replaceResult` keeps field and
payload in step (`ofBody_replaceResult_body`).
-/

namespace ChatClient

/-- Timing facts of one exchange. -/
structure Statistics where
  /-- Length of the exchange, or for a chunk the time since the chunk before it. -/
  requestLatency : Option Duration := none
  /-- Time until the first chunk of a stream. -/
  firstTokenLatency : Option Duration := none
  /-- Time from dispatch until the envelope was made. -/
  totalLatency : Option Duration := none
  /-- Dispatch time in milliseconds since the epoch. -/
  startTimestamp : Option Nat := none
deriving DecidableEq, Repr, Inhabited

/-- One unit of model output. -/
structure Envelope where
  result : String
  isTruncated : Bool
  isEnd : Bool
  /-- The whole payload. -/
  body : Fields Json
  status : Nat := 200
  headers : Fields String := []
  statistics : Statistics := {}
deriving DecidableEq, Repr

namespace Envelope

/-- The error for a payload field that is absent or of the wrong kind. -/
def unusable (field expected : String) (found : Option Json) : Error :=
  let details : String := match found with
    | none => "missing"
    | some v => "expected " ++ expected ++ ", got " ++ v.kind
  .malformedResponse ("response has no usable `" ++ field ++ "`")
    { field := some ("body." ++ field)
      details := some details
      origin := some "response_envelope" }

/-- The reply text of a payload. -/
def readResult (body : Fields Json) : Except Error String :=
  match Fields.get? "result" body with
  | some (.string s) => .ok s
  | found => .error (unusable "result" "string" found)

/-- The truncation flag of a payload. -/
def readTruncated (body : Fields Json) : Except Error Bool :=
  match Fields.get? "is_truncated" body with
  | some (.bool b) => .ok b
  | found => .error (unusable "is_truncated" "bool" found)

/-- The end flag of a payload, true when absent or null. -/
def readEnd (body : Fields Json) : Except Error Bool :=
  match Fields.get? "is_end" body with
  | none => .ok true
  | some .null => .ok true
  | some (.bool b) => .ok b
  | found => .error (unusable "is_end" "bool" found)

/-- The envelope of a payload. -/
def ofBody (body : Fields Json) : Except Error Envelope := do
  let result ← readResult body
  let isTruncated ← readTruncated body
  let isEnd ← readEnd body
  return { result, isTruncated, isEnd, body }

/-- The envelope of a value, which must be an object. -/
def ofJson : Json → Except Error Envelope
  | .object body => ofBody body
  | found =>
      .error (.malformedResponse "response payload is not a JSON object"
        { details := some ("got " ++ found.kind : String), origin := some "response_envelope" })

/-- The envelope with another HTTP status. -/
def withStatus (e : Envelope) (status : Nat) : Envelope := { e with status }

/-- The envelope with other headers. -/
def withHeaders (e : Envelope) (headers : Fields String) : Envelope := { e with headers }

/-- The envelope with other statistics. -/
def withStatistics (e : Envelope) (statistics : Statistics) : Envelope := { e with statistics }

/-- The payload member under a key. -/
def get? (e : Envelope) (key : String) : Option Json := Fields.get? key e.body

/-- The envelope with another reply text, in the field and in the payload. -/
def replaceResult (e : Envelope) (text : String) : Envelope :=
  { e with result := text, body := Fields.insert "result" (.string text) e.body }

theorem readResult_insert (body : Fields Json) (text : String) :
    readResult (Fields.insert "result" (.string text) body) = .ok text := by
  simp [readResult, Fields.get?_insert]

theorem readTruncated_insert (body : Fields Json) (v : Json) :
    readTruncated (Fields.insert "result" v body) = readTruncated body := by
  simp [readTruncated, Fields.get?_insert]

theorem readEnd_insert (body : Fields Json) (v : Json) :
    readEnd (Fields.insert "result" v body) = readEnd body := by
  simp [readEnd, Fields.get?_insert]

/-- The payload of an envelope with a replaced text reads back as the envelope does, with that text:
what an accepted payload says of truncation and end stays as it was. -/
theorem ofBody_replaceResult_body {body : Fields Json} {e : Envelope} (text : String)
    (h : ofBody body = .ok e) :
    ofBody (e.replaceResult text).body = .ok (e.replaceResult text) := by
  simp only [ofBody, bind, Except.bind, pure, Except.pure] at h
  cases h1 : readResult body with
  | error _ => simp [h1] at h
  | ok r =>
      cases h2 : readTruncated body with
      | error _ => simp [h1, h2] at h
      | ok t =>
          cases h3 : readEnd body with
          | error _ => simp [h1, h2, h3] at h
          | ok f =>
              simp only [h1, h2, h3, Except.ok.injEq] at h
              subst h
              simp [ofBody, replaceResult, readResult_insert, readTruncated_insert, readEnd_insert,
                h2, h3, bind, Except.bind, pure, Except.pure]

/-- A duration that may be absent. -/
def describeDuration : Option Duration → String
  | none => "None"
  | some d => "Some(" ++ d.describe ++ ")"

/-- A full rendering of the envelope. -/
def inspect (e : Envelope) : String :=
  let flag (b : Bool) : String := if b then "true" else "false"
  let headers := e.headers.map fun h => quoted h.1 ++ ": " ++ quoted h.2
  let start := match e.statistics.startTimestamp with
    | none => "None"
    | some n => "Some(" ++ toString n ++ ")"
  "Response \x7b result: " ++ quoted e.result ++
    ", is_truncated: " ++ flag e.isTruncated ++
    ", is_end: " ++ flag e.isEnd ++
    ", body: \x7b" ++ String.intercalate ", " (Json.inspectFields e.body) ++
    "\x7d, status: " ++ toString e.status ++
    ", headers: \x7b" ++ String.intercalate ", " headers ++
    "\x7d, statistics: Statistics \x7b request_latency: " ++
      describeDuration e.statistics.requestLatency ++
    ", first_token_latency: " ++ describeDuration e.statistics.firstTokenLatency ++
    ", total_latency: " ++ describeDuration e.statistics.totalLatency ++
    ", start_timestamp: " ++ start ++ " \x7d \x7d"

end Envelope

end ChatClient
