import ChatClient.Error
import ChatClient.Http.Framing

/-!
# Exchanges with a server

What is sent to the server and what comes back. `Response.ofWire?` reads a response off the bytes
that a connection delivers before it closes: heads that only announce that the response is still to
come, the head of the response, and its body. A server is known by the responses that it will give,
in order; a request may also stay without one. After the last one the server reports that it has no
more.

Redirects are followed before a response counts: the response to a request is the one at the end of
them, and a request whose redirects come to no end stays without one. A redirect that names no place
is a response like any other.
-/

namespace ChatClient.Http

open Utf8 (Bytes)

/-- A request as the server receives it. -/
structure Message where
  method : String
  target : String
  contentType : String
  requestId : String
  body : String
deriving DecidableEq, Repr

/-- A response as it is received, at the end of all redirects. -/
structure Response where
  status : Nat
  headers : Headers
  body : Body
deriving Repr

namespace Response

/-- The status reports success. -/
def isSuccess (r : Response) : Bool := 200 ≤ r.status && r.status < 300

/-- The text of the whole body. -/
def text (r : Response) : Except Error String :=
  if r.body.complete then
    .ok (String.ofList ((Headers.encoding r.headers).decodeBody r.body.bytes))
  else .error (.transport .bodyBroken)

/-- A head of that status is not yet that of the response. -/
def isInterim (status : Nat) : Bool := 100 ≤ status && status < 200 && status != 101

/-- The response that bytes stand for; none if its head does not come or is not well formed. -/
def ofWire? (bs : Bytes) : Option Response :=
  match _h : Head.read? bs with
  | none => none
  | some (head, rest) =>
      if isInterim head.status then ofWire? rest
      else
        (Framing.of? head).map fun framing =>
          { status := head.status, headers := head.headers, body := framing.body rest }
termination_by bs.length
decreasing_by exact Head.length_of_read? _h

/-- A connection that closes without a word gives no response. -/
theorem ofWire?_nil : ofWire? [] = none := by
  rw [ofWire?]
  rfl

/-- A head that announces the response is passed over, whatever its fields say. -/
theorem ofWire?_of_interim {bs rest : Bytes} {head : Head} (h : Head.read? bs = some (head, rest))
    (interim : isInterim head.status = true) : ofWire? bs = ofWire? rest := by
  rw [ofWire?]
  split
  · rename_i e
    rw [h] at e
    cases e
  · rename_i e
    rw [h] at e
    obtain ⟨rfl, rfl⟩ := Prod.mk.inj (Option.some.inj e)
    simp [interim]

end Response

/-- The responses that a server will give, in order; `none` where a request stays without one. -/
abbrev Server := List (Option Response)

namespace Server

/-- What a server answers that has no response left. -/
def exhausted : Response :=
  ⟨599, [], { pieces := [Utf8.encode "script exhausted".toList] }⟩

/-- The response of the server to its next request, and the server after it. -/
def next : Server → Option Response × Server
  | [] => (some exhausted, [])
  | response :: rest => (response, rest)

theorem length_next_le (s : Server) : s.next.2.length ≤ s.length := by
  cases s with
  | nil => exact Nat.le_refl _
  | cons _ rest => exact Nat.le_succ _

/-- A successful response uses up one of the server's. -/
theorem length_next_lt {s : Server} {r : Response} (h : s.next.1 = some r)
    (hs : r.isSuccess = true) : s.next.2.length < s.length := by
  cases s with
  | nil =>
      simp only [next, Option.some.injEq] at h
      subst h
      exact absurd hs (by decide)
  | cons _ rest => exact Nat.lt_succ_self _

end Server

end ChatClient.Http
