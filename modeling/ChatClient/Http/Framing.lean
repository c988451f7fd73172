import ChatClient.Http.Chunks

/-!
# Where a body ends

The head of an answer says where its body ends. Some statuses have no body. A transfer coding comes
before a length: when its last name is `chunked`, the body is in chunks, else it goes on until the
connection closes, as it does when the head says nothing. All lengths that a head announces must be
the same.
-/

namespace ChatClient.Http

open Utf8 (Bytes)

/-- How the end of a body is found. -/
inductive Framing where
  /-- There is no body. -/
  | absent
  | sized (length : Nat)
  | chunked
  /-- The body ends when the connection closes. -/
  | untilClose
deriving DecidableEq, Repr

namespace Framing

/-- The last coding of a value is `chunked`, in any case. -/
def isChunked (value : Bytes) : Bool :=
  match Headers.text? value with
  | none => false
  | some t =>
      (Text.pieces ',' t.toList).getLast?.any fun s =>
        Text.lowerAscii (Text.trim s) == "chunked".toList

/-- The lengths that a value announces, between commas. -/
def lengths? (value : Bytes) : Option (List Nat) :=
  (Headers.text? value).bind fun t =>
    (Text.pieces ',' t.toList).mapM fun s => Reading.natural? (Text.trim s)

/-- The values of all fields of that name. -/
def values (name : String) (h : Headers) : List Bytes :=
  (h.filter (·.1 == name)).map (·.2)

/-- The greatest length that may be announced: two less than the greatest number of 64 bits. -/
def maxLength : Nat := UInt64.size - 3

/-- The one length that is announced by all values. -/
def length? (announced : List Bytes) : Option Nat :=
  match (announced.mapM lengths?).map List.flatten with
  | some (n :: more) => if more.all (· == n) ∧ n ≤ maxLength then some n else none
  | _ => none

/-- An answer of that status has a body. -/
def hasBody (status : Nat) : Bool := !(status == 101 || status == 204 || status == 304)

/-- How the end of the body is found after a head; none when the head contradicts itself. -/
def of? (h : Head) : Option Framing :=
  if !hasBody h.status then some .absent
  else
    match (values "transfer-encoding" h.headers).getLast?, values "content-length" h.headers with
    | some coding, _ =>
        match h.version with
        | .v10 => none
        | .v11 => some (if isChunked coding then .chunked else .untilClose)
    | none, [] => some .untilClose
    | none, announced => (length? announced).map .sized

/-- The body at the front of what follows a head. -/
def body : Framing → Bytes → Body
  | .absent, _ => { pieces := [] }
  | .sized n, bs => { pieces := [bs.take n], complete := n ≤ bs.length }
  | .chunked, bs => Chunks.decode bs
  | .untilClose, bs => { pieces := [bs] }

/-- A body of an announced length has no more bytes than that. -/
theorem length_bytes_sized_le (n : Nat) (bs : Bytes) :
    ((Framing.sized n).body bs).bytes.length ≤ n := by
  simp only [body, Body.bytes, List.flatten_cons, List.flatten_nil, List.append_nil,
    List.length_take]
  exact Nat.min_le_left _ _

end Framing

end ChatClient.Http
