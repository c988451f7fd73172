import ChatClient.Http.Exchange

/-!
# Answers of a server

What a server does with a connection on which a request has come: it stays silent, or it sends an
answer and closes the connection. It says in front of the given fields that it will close, and
behind them how long the body is, or that it comes in chunks. `Answer.toWire` writes the answer, and
`Answer.response?` is what the other side makes of it.
-/

namespace ChatClient.Http

open Utf8 (Bytes)

/-- The body of an answer as the server sends it. -/
inductive Content where
  /-- In one piece, with its length in front. -/
  | whole (bytes : Bytes)
  /-- In chunks; one of no bytes is left out, for it would be the last. -/
  | chunks (pieces : List Bytes)
deriving DecidableEq, Repr

namespace Content

/-- The field that announces the body. A server that means to cut the body short announces a byte
more than it sends. -/
def announcement (cut : Bool) : Content → String × Bytes
  | .whole bytes =>
      let length := if cut then bytes.length + 1 else bytes.length
      ("content-length", Utf8.encode (toString length).toList)
  | .chunks _ => ("transfer-encoding", Utf8.encode "chunked".toList)

/-- The body as it is sent. A body in chunks that is cut short lacks the last one. -/
def toWire (cut : Bool) : Content → Bytes
  | .whole bytes => bytes
  | .chunks pieces =>
      Chunks.encode (pieces.filter (!·.isEmpty)) ++ if cut then [] else Chunks.last

end Content

/-- What a request is met with. -/
inductive Answer where
  /-- The connection closes, or time runs out, before a word is said. -/
  | silence
  | sent (status : Nat) (fields : Headers) (content : Content) (cut : Bool)
deriving Repr

namespace Answer

/-- The bytes that come back before the connection closes. -/
def toWire : Answer → Bytes
  | .silence => []
  | .sent status fields content cut =>
      let head : Head :=
        { status
          headers := ("connection", Utf8.encode "close".toList) :: fields ++
            [content.announcement cut] }
      head.toWire ++ content.toWire cut

/-- The response that the answer is received as. -/
def response? (a : Answer) : Option Response := Response.ofWire? a.toWire

end Answer

end ChatClient.Http
