import ChatClient.Message
import ChatClient.Settings
import ChatClient.Duration
import ChatClient.Envelope

/-!
# Requests and replies

A request is one call of a model: conversation, mode, options and further parameters. Its JSON body
is the parameters with the conversation and the mode written over them. A reply is one envelope or a
stream of items; taking it for the other of the two is a breach of the executor's contract.
-/

namespace ChatClient

/-- What the executor is told about one call beyond its content. -/
structure Options where
  /-- The number of attempts in all; zero counts as one. -/
  retryCount : Nat := 1
  timeout : Duration := .ofSeconds 60
  /-- The base of the exponential wait between attempts, in seconds. -/
  backoff : Float := 0.0
deriving Inhabited

/-- One call of a model. -/
structure Request where
  model : Option String := none
  endpoint : Option String := none
  stream : Bool := false
  messages : Conversation := []
  options : Options := {}
  /-- Further parameters, sent as they are. -/
  params : Fields Json := []
deriving Inhabited

namespace Request

/-- The parameters with the conversation written over them. -/
def paramsWithMessages (r : Request) : Fields Json :=
  Fields.insert "messages" (.array r.messages.toRecords) r.params

/-- The members of the JSON body. -/
def bodyFields (r : Request) : Fields Json :=
  Fields.insert "stream" (.bool r.stream) r.paramsWithMessages

/-- The JSON body. -/
def body (r : Request) : Json := .object r.bodyFields

/-- The same call with another conversation and mode. -/
def followUp (r : Request) (messages : Conversation) (stream : Bool) : Request :=
  { r with messages, stream }

end Request

/-- One item of a stream. -/
abbrev Item := Except Error Envelope

/-- The answer to a call: one envelope, or a stream. -/
inductive Reply (α : Type) where
  | single (e : Envelope)
  | stream (s : α)

namespace Reply

variable {α : Type}

/-- The error for a reply of the wrong shape. -/
def mismatch (message : String) : Error :=
  .contractViolation message { origin := some "request_executor" }

/-- The envelope of a reply that must be single. -/
def intoEnvelope : Reply α → Except Error Envelope
  | .single e => .ok e
  | .stream _ => .error (mismatch "expected a single response, got a stream")

/-- The stream of a reply that must be one. -/
def intoStream : Reply α → Except Error α
  | .stream s => .ok s
  | .single _ => .error (mismatch "expected a stream, got a single response")

/-- A full rendering of a single reply, and a short one of a stream. -/
def inspect : Reply α → String
  | .single e => "Single(" ++ e.inspect ++ ")"
  | .stream _ => "Stream(..)"

end Reply

/-- A call handed to the alternate backend. -/
structure AlternateCall where
  credentials : Credentials
  /-- The backend's name of the model. -/
  model : String
  stream : Bool
  /-- The parameters, with the conversation among them. -/
  params : Fields Json

end ChatClient
