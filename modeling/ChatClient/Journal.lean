import ChatClient.Request
import ChatClient.Http.Exchange

/-!
# The journal of a session

Everything that a session does to the outside, in order: calls of the executor and of the alternate
backend, requests sent to a server, and notices for the reader of a log.
-/

namespace ChatClient

/-- How much a notice matters. -/
inductive Level where
  | debug
  | info
  | warn
  | error
deriving DecidableEq, Repr

/-- The name of a level. -/
def Level.name : Level → String
  | .debug => "DEBUG"
  | .info => "INFO"
  | .warn => "WARN"
  | .error => "ERROR"

/-- What is worth telling the reader of a log. -/
inductive Notice where
  | undocumentedParams (model : String) (params : List String)
  | dispatching (model endpoint : Option String) (stream : Bool) (messages : Nat)
      (autoContinue : Bool)
  | delegating (model : String)
  | requestingContinuation (round messages : Nat)
  | replyCompleted (rounds : Nat)
  | streamCompleted (rounds : Nat)
  | sending (stream : Bool)
  | retrying (attempt : Nat) (delay : Duration)
  | failed (attempts : Nat)
deriving Repr

namespace Notice

/-- The level of a notice. -/
def level : Notice → Level
  | .undocumentedParams .. => .warn
  | .dispatching .. => .debug
  | .delegating .. => .debug
  | .requestingContinuation .. => .debug
  | .replyCompleted .. => .info
  | .streamCompleted .. => .info
  | .sending .. => .debug
  | .retrying .. => .warn
  | .failed .. => .error

/-- The fixed text of a notice. -/
def text : Notice → String
  | .undocumentedParams .. => "parameters not documented for this model are forwarded as-is"
  | .dispatching .. => "dispatching chat completion"
  | .delegating .. => "delegating chat completion to alternate backend"
  | .requestingContinuation .. => "requesting continuation of truncated reply"
  | .replyCompleted .. => "reply completed after continuation"
  | .streamCompleted .. => "streamed reply completed after continuation"
  | .sending .. => "sending chat request"
  | .retrying .. => "retrying chat request"
  | .failed .. => "chat request failed"

/-- A truth value as a word. -/
def word (b : Bool) : String := if b then "true" else "false"

/-- The particulars of a notice, by name. -/
def fields : Notice → Fields String
  | .undocumentedParams model params => [("model", model), ("params", quotedList params)]
  | .dispatching model endpoint stream messages autoContinue =>
      [("auto_concat_truncate", word autoContinue), ("endpoint", quotedOption endpoint),
        ("messages", toString messages), ("model", quotedOption model), ("stream", word stream)]
  | .delegating model => [("model", model)]
  | .requestingContinuation round messages =>
      [("messages", toString messages), ("round", toString round)]
  | .replyCompleted rounds => [("rounds", toString rounds)]
  | .streamCompleted rounds => [("rounds", toString rounds)]
  | .sending stream => [("stream", word stream)]
  | .retrying attempt delay =>
      [("attempt", toString attempt), ("delay_ms", toString (delay.millis % UInt64.size))]
  | .failed attempts => [("attempts", toString attempts)]

end Notice

/-- An entry of the journal. -/
inductive Entry where
  | invoked (request : Request)
  | delegated (call : AlternateCall)
  | sent (message : Http.Message)
  | noted (notice : Notice)

end ChatClient
