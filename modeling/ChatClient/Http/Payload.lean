import ChatClient.Envelope
import ChatClient.Http.Exchange
import ChatClient.Json.Raw

/-!
# Payloads of answers

What the body of an answer means. A status that does not report success is a request error. A
payload with an error code is an error of the API, whatever else it holds; every other payload must
be an envelope. On a streaming call a JSON body in place of an event stream is an error in any case.
-/

namespace ChatClient.Http.Payload

/-- The error for a status that does not report success: the message of the gateway and the body, or
the one of the two that there is. -/
def statusError (status : Nat) (headers : Headers) (body : String) : Error :=
  let message : String := match Headers.get? "x-bce-error-message" headers with
    | some text => if body = "" then text else text ++ " (" ++ body ++ ")"
    | none => body
  .request status (Headers.get? "x-bce-error-code" headers) message

/-- The value of a body that must be JSON. The error for another body keeps it. -/
def parseBody (status : Nat) (text : String) : Except Error Json :=
  match Json.parse? text.toList with
  | some v => .ok v
  | none =>
      .error (.request status none { words := "invalid JSON response: ", unread := some text })

/-- The error that a payload reports: any error code makes one. -/
def apiError? (payload : Json) : Option Error :=
  match payload.get? "error_code" with
  | none => none
  | some code =>
      let message := ((payload.get? "error_msg").bind Json.string?).getD ""
      some (.api (code.int64?.getD 0) message)

/-- The envelope of a payload, unless it reports an error. -/
def read (payload : Json) : Except Error Envelope :=
  match apiError? payload with
  | some e => .error e
  | none => Envelope.ofJson payload

/-- The error for a JSON body on a streaming call. -/
def unexpectedJson (status : Nat) (text : String) : Error :=
  match parseBody status text with
  | .error e => e
  | .ok payload =>
      match apiError? payload with
      | some e => e
      | none =>
          .malformedResponse "expected an event stream, got a JSON body"
            { details := some (String.ofList (text.toList.take 200))
              origin := some "http_transport" }

/-- The envelope of a whole body. -/
def readText (status : Nat) (text : String) : Except Error Envelope :=
  match parseBody status text with
  | .error e => .error e
  | .ok payload => read payload

end ChatClient.Http.Payload
