/-!
# Errors

What can go wrong in a call, by cause. Transport failures, HTTP failures and errors reported by the
API come from the executor and reach the caller as they are; the other errors are raised by the
client itself and carry a context that names the field, the details and the part of the client.

An error about a text that the JSON reader could not read keeps that text. What the reader says of it
is given when the error is shown.
-/

namespace ChatClient

/-- A text of an error. -/
structure Wording where
  words : String
  /-- A text that the JSON reader could not read. What the reader says of it follows the words. -/
  unread : Option String := none
deriving DecidableEq, Repr, Inhabited

instance : Coe String Wording := ⟨fun words => { words }⟩

/-- The whole text, if `complaint` is what the JSON reader says of a text that it cannot read. -/
def Wording.text (complaint : String → String) (w : Wording) : String :=
  w.words ++ (w.unread.map complaint).getD ""

/-- Where and why an error arose. -/
structure Context where
  field : Option String := none
  details : Option Wording := none
  origin : Option String := none
deriving DecidableEq, Repr, Inhabited

/-- Why an exchange with the server failed below HTTP. -/
inductive TransportFailure where
  /-- The request has no usable address. -/
  | invalidUrl
  /-- No connection to the host can be opened. -/
  | unreachable
  /-- No answer came. -/
  | noAnswer
  /-- The body of the answer broke off. -/
  | bodyBroken
deriving DecidableEq, Repr, Inhabited

/-- An error of the client. -/
inductive Error where
  | transport (failure : TransportFailure)
  | request (status : Nat) (bceCode : Option String) (message : Wording)
  | api (code : Int) (message : String)
  | malformedResponse (message : String) (context : Context)
  | contractViolation (message : String) (context : Context)
  | continuationLimitExceeded (rounds : Nat)
  | validation (message : String) (context : Context)
  | serialization (unread : String)
  | runtime (message : String) (context : Context)
deriving DecidableEq, Repr, Inhabited

/-- The parts of the context that are set, in parentheses after a space; nothing when none is. -/
def Context.text (complaint : String → String) (c : Context) : String :=
  let parts :=
    (c.field.map ("field: " ++ ·)).toList ++
      (c.details.map fun details => "details: " ++ details.text complaint).toList ++
      (c.origin.map ("source: " ++ ·)).toList
  if parts.isEmpty then "" else " (" ++ String.intercalate ", " parts ++ ")"

/-- Text of a transport failure. -/
def TransportFailure.text : TransportFailure → String
  | .invalidUrl => "invalid URL"
  | .unreachable => "no connection to the server"
  | .noAnswer => "no answer from the server"
  | .bodyBroken => "request or response body error"

namespace Error

/-- The text of an error, if `complaint` is what the JSON reader says of a text that it cannot
read. -/
def message (complaint : String → String) : Error → String
  | .transport failure => "Network transport error: " ++ failure.text
  | .request status _ message =>
      "Request failed with HTTP status " ++ toString status ++ ": " ++ message.text complaint
  | .api code message => "API error " ++ toString code ++ ": " ++ message
  | .malformedResponse message context =>
      "Malformed response: " ++ message ++ context.text complaint
  | .contractViolation message context =>
      "Executor contract violated: " ++ message ++ context.text complaint
  | .continuationLimitExceeded rounds =>
      "Reply still truncated after " ++ toString rounds ++ " continuation rounds"
  | .validation message context => "Validation error: " ++ message ++ context.text complaint
  | .serialization unread => "Serialization error: " ++ complaint unread
  | .runtime message context => "Runtime error: " ++ message ++ context.text complaint

/-- The context of an error raised by the client. -/
def context? : Error → Option Context
  | .malformedResponse _ context => some context
  | .contractViolation _ context => some context
  | .validation _ context => some context
  | .runtime _ context => some context
  | _ => none

/-- The code of an error reported by the API. -/
def apiCode? : Error → Option Int
  | .api code _ => some code
  | _ => none

end Error

end ChatClient
