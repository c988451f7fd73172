import ChatClient.Proofs.EventStream.Writing
import ChatClient.Proofs.Http.Payload
import ChatClient.Proofs.Session.Modes
import Mathlib.Data.List.Forall2

/-!
# Streamed replies over HTTP

A server answers the calls of a streamed completion with event streams. What it says in one call is a
round, a list of pieces of text (`Http.Serves`). In both regimes the executor makes an item of each
piece (`Http.Transport.invoke_served`), and a continuation makes a call for each round
(`Http.Transport.exists_streamRun`). So a completion that is continued hands on all pieces of all
rounds, and each further call tells the server just what it has said in the rounds before
(`Http.Transport.yields_of_served_rounds`).

A frame must say all that an envelope needs in a form that an envelope accepts; a frame with another
`is_end` than a Boolean has no piece (`Http.Transport.yields_of_numeric_end`).
-/

namespace ChatClient

open Utf8 (encode)

/-! ## Messages in the journal -/

/-- The message of an entry for a request that was sent. -/
def Entry.message? : Entry → Option Http.Message
  | .sent m => some m
  | _ => none

namespace World

variable {σ : Type} (w : World σ)

/-- The messages that were sent, first to last. -/
def messages : List Http.Message := (w.journal.filterMap Entry.message?).reverse

theorem messages_note (n : Notice) : (w.note n).messages = w.messages := rfl

theorem messages_sent (m : Http.Message) : (w.record (.sent m)).messages = w.messages ++ [m] := by
  rw [messages, record, List.filterMap_cons]
  exact List.reverse_cons

/-- Notices leave everything but the journal alone, and no message is sent by them. -/
theorem foldl_note (ns : List Notice) :
    (ns.foldl note w).supplier = w.supplier ∧ (ns.foldl note w).serial = w.serial ∧
      (ns.foldl note w).messages = w.messages := by
  induction ns generalizing w with
  | nil => exact ⟨rfl, rfl, rfl⟩
  | cons n ns ih => exact ih (w.note n)

end World

/-! ## Pieces -/

/-- What a frame of a streamed reply says: a piece of text, and whether the reply is cut short after
it. -/
structure Piece where
  text : String
  truncated : Bool

/-- What an envelope says. -/
def Envelope.piece (e : Envelope) : Piece := ⟨e.result, e.isTruncated⟩

namespace Piece

/-- The text of a round. -/
def join (round : List Piece) : String := String.join (round.map text)

/-- The last piece of a round says whether the reply is cut short. -/
def EndsWith (truncated : Bool) (round : List Piece) : Prop :=
  round.getLast?.map Piece.truncated = some truncated

/-- An object says a piece, and reports no error. -/
structure SaidBy (body : Fields Json) (p : Piece) : Prop where
  result : Fields.get? "result" body = some (.string p.text)
  truncated : Fields.get? "is_truncated" body = some (.bool p.truncated)
  no_error : Fields.get? "error_code" body = none
  is_end : ∀ v ∈ Fields.get? "is_end" body, v = .null ∨ ∃ b, v = .bool b

/-- A JSON text says a piece. Data lines give it back. -/
structure WrittenIn (t : List Char) (p : Piece) : Prop where
  trimmed : Text.trim t = t
  ends : ∀ line ∈ Text.pieces '\n' t, line.getLast? ≠ some '\r'
  said : ∃ body, Json.parse? t = some (.object body) ∧ SaidBy body p

/-- A text of one line, as a server writes it. -/
theorem WrittenIn.line {t : List Char} {body : Fields Json} {p : Piece}
    (trimmed : Text.trim t = t) (free : '\n' ∉ t) (parsed : Json.parse? t = some (.object body))
    (said : SaidBy body p) : WrittenIn t p where
  trimmed := trimmed
  ends := by
    rw [Text.pieces_of_not_mem free, List.forall_mem_singleton]
    intro last
    have blank := Text.isBlank_getLast?_of_trim trimmed last
    revert blank
    decide
  said := ⟨body, parsed, said⟩

theorem isPayload_of_writtenIn {ts : List (List Char)} {round : List Piece}
    (h : List.Forall₂ WrittenIn ts round) : ∀ t ∈ ts, Frame.IsPayload t := by
  induction h with
  | nil => exact List.forall_mem_nil _
  | cons written _ ih =>
      obtain ⟨body, parsed, -⟩ := written.said
      exact List.forall_mem_cons.2
        ⟨Frame.IsPayload.of_parse? parsed written.trimmed written.ends, ih⟩

end Piece

section Pieces

variable {es : List Envelope} {round : List Piece}

theorem Continuation.streamText_map_ok (es : List Envelope) :
    Continuation.streamText (es.map .ok) = Piece.join (es.map Envelope.piece) := by
  rw [streamText, envelopes_map_ok, Piece.join, List.map_map]
  rfl

theorem Continuation.flagAfter_map_ok {truncated : Bool}
    (h : Piece.EndsWith truncated (es.map Envelope.piece)) (before : Bool) :
    Continuation.flagAfter before (es.map .ok) = truncated := by
  rw [Piece.EndsWith, List.getLast?_map, Option.map_map] at h
  have last : es.getLast?.map Envelope.isTruncated = some truncated := h
  rw [flagAfter, envelopes_map_ok, last, Option.getD_some]

end Pieces

/-- A whole run is read to its end without another message. -/
theorem Continuation.StreamRun.exists_yields {σ : Type} {k : Continuation} {E : Executor σ}
    {g : Regime} {first : List Item} {next : List (List Item)} {w w' : World σ}
    (run : k.StreamRun E g first next w w') (free : ErrorFree (next.getLastD first))
    (whole : truncatedAfter (first :: next).flatten = false) :
    ∃ v, (k.feed g first).Yields E w (first :: next).flatten v ∧ v.messages = w'.messages ∧
      v.supplier = w'.supplier := by
  refine ⟨_, run.yields_of_whole free whole, ?_, ?_⟩
  · split
    · rfl
    · rfl
  · split
    · rfl
    · rfl

/-- A run of attempts ends with the first success. -/
theorem RetryPolicy.run_of_ok {σ α : Type} {p : RetryPolicy} {chance : Nat → Float}
    {attempt : World σ → Except Error α × World σ} {n : Nat} {w w' : World σ} {a : α}
    (h : attempt w = (.ok a, w')) : p.run chance attempt n w = (.ok a, w') := by
  rw [run, h]

/-- A continued completion for a stream that the executor answers with one. -/
theorem Client.complete_of_stream {σ : Type} {c : Client σ} {g : Regime} {q : CompletionRequest}
    (native : c.alternateFor q.model = none) {conversation : Conversation}
    (normal : q.messages.normalize = .ok conversation) {w v : World σ} {items : List Item}
    (answered : c.executor.invoke g { q.request conversation with stream := true }
      (((q.continued true).notices conversation).foldl World.note w) = (.ok (.stream items), v)) :
    c.complete g (q.continued true) w =
      (.ok (.stream (Continuation.feed
        ⟨{ q.request conversation with stream := true }, c.cap q⟩ g items)), v) := by
  have understood : (q.continued true).messages.normalize = .ok conversation := normal
  have served : c.alternateFor ((q.continued true).request conversation).model = none := native
  rw [complete, understood]
  dsimp only
  rw [served]
  show c.completeNative g (q.continued true) { q.request conversation with stream := true } _ = _
  rw [completeNative, answered]
  have streams : (Continuation.mk { q.request conversation with stream := true }
      (c.cap q)).template.stream = true := rfl
  exact continueReply_stream c g streams items v

namespace Http

/-! ## One call -/

/-- An object that says a piece is read as an envelope that says it. -/
theorem Payload.read_of_said {body : Fields Json} {p : Piece} (said : p.SaidBy body) :
    ∃ e, Payload.read (.object body) = .ok e ∧ e.piece = p := by
  obtain ⟨isEnd, ending⟩ : ∃ b, Envelope.EndFlag body b := by
    -- absent and null count as the end, and the value is not part of the piece
    cases found : Fields.get? "is_end" body with
    | none => exact ⟨true, .inr ⟨.inl found, rfl⟩⟩
    | some v =>
        rcases said.is_end v found with rfl | ⟨b, rfl⟩
        · exact ⟨true, .inr ⟨.inr found, rfl⟩⟩
        · exact ⟨b, .inl found⟩
  refine ⟨⟨p.text, p.truncated, isEnd, body, 200, [], {}⟩, ?_, rfl⟩
  rw [read_of_no_code said.no_error]
  exact Envelope.ofBody_of_members said.result said.truncated ending

/-- A response that serves a round: an event stream, whole and in any pieces, with one text for each
piece of the round. -/
structure Serves (r : Response) (round : List Piece) : Prop where
  success : r.isSuccess = true
  event_stream : ∃ t, Headers.get? "content-type" r.headers = some t ∧
    "text/event-stream".toList <+: Text.lowerAscii t.toList
  complete : r.body.complete = true
  written : ∃ e ts text, StreamText e ts text ∧ r.body.bytes = encode text ∧
    List.Forall₂ Piece.WrittenIn ts round

/-- An event stream is not a JSON body. -/
theorem isJson_of_event_stream {h : Headers} {t : String}
    (found : Headers.get? "content-type" h = some t)
    (event_stream : "text/event-stream".toList <+: Text.lowerAscii t.toList) :
    Headers.isJson h = false := by
  have json : "application/json".toList = 'a' :: "pplication/json".toList := by decide
  rw [Headers.isJson, found]
  show "application/json".toList.isPrefixOf t.toList = false
  rw [json]
  cases ht : t.toList with
  | nil => rfl
  | cons c r =>
      -- the two types begin with different letters
      rw [ht] at event_stream
      obtain ⟨rest, first⟩ := event_stream
      have small : 't' = c.toLower := (List.cons.inj first).1
      have other : ('a' == c) = false := by
        apply beq_false_of_ne
        rintro rfl
        revert small
        decide
      rw [List.isPrefixOf_cons_cons, other, Bool.false_and]

namespace Transport

section Call

variable {t : Transport} {r : Request} {url : String} {u : Url} {w : World Server}
  {response : Response} {rest : Server}

/-- The world after a request was sent and answered. -/
def answered (t : Transport) (r : Request) (u : Url) (w : World Server) (rest : Server) :
    World Server :=
  (t.sendMessage r u (w.note (.sending r.stream))).withSupplier rest

/-- A URL that can be read and leads to the server is the address of a request without an access
token. -/
theorem address_of_parse? (parsed : Url.parse? url = some u) (token : t.accessToken = none)
    (short : u.isShort = true) (leads : t.leads u = true) : t.address url = .ok u := by
  have plain : t.authorize u = u := by rw [authorize, token]
  rw [address, parsed, Option.map_some, plain]
  dsimp only
  rw [short, leads]
  rfl

theorem send_of_success (address : t.address url = .ok u)
    (supplied : w.supplier = some response :: rest) (success : response.isSuccess = true) :
    t.send r url w = (.ok response, t.answered r u w rest) := by
  have next : (t.sendMessage r u (w.note (.sending r.stream))).supplier.next =
      (some response, rest) := by
    show w.supplier.next = _
    rw [supplied]
    rfl
  have judged : judge response = .ok response := by rw [judge, if_pos success]
  rw [send, address]
  dsimp only
  rw [next]
  dsimp only
  rw [judged]
  rfl

/-- The first answer to a call for a stream is an event stream; its events become items. -/
theorem invoke_of_success (mode : r.stream = true) (resolved : t.url r = .ok url)
    (address : t.address url = .ok u) (supplied : w.supplier = some response :: rest)
    (success : response.isSuccess = true) (not_json : Headers.isJson response.headers = false)
    (g : Regime) :
    t.invoke g r w =
      (.ok (.stream (itemsOf response w.clock ⟨w.clock, w.clock, none⟩ (events g response.body))),
        t.answered r u w rest) := by
  have opened : t.openStream g r url w =
      (.ok (itemsOf response w.clock ⟨w.clock, w.clock, none⟩ (events g response.body)),
        t.answered r u w rest) := by
    rw [openStream, send_of_success address supplied success]
    dsimp only
    rw [not_json]
    rfl
  rw [invoke, resolved]
  dsimp only
  rw [if_pos mode, RetryPolicy.run_of_ok opened]

/-- A body that is complete comes without a failure at its end. -/
theorem chunks_of_complete {b : Body} (complete : b.complete = true) :
    chunks b = b.pieces.map .ok := by
  rw [chunks, complete, if_pos rfl, List.append_nil]

theorem reads_of_complete {b : Body} (complete : b.complete = true) :
    reads b = b.pieces.map .ok := by
  rw [reads, complete, if_pos rfl, List.append_nil]

/-- In both regimes the events of a stream that is written for texts are theirs. -/
theorem events_of_written {e : LineEnd} {ts : List (List Char)} {text : List Char} {b : Body}
    (complete : b.complete = true) (written : StreamText e ts text) (bytes : b.bytes = encode text)
    (payloads : ∀ t ∈ ts, Frame.IsPayload t) (g : Regime) :
    events g b = ts.map Frame.readPayload := by
  obtain ⟨chunked, lined⟩ := written.decode payloads bytes
  cases g with
  | async =>
      show Chunked.decode (chunks b) = _
      rw [chunks_of_complete complete, chunked]
  | blocking =>
      show Lined.decode (reads b) = _
      rw [reads_of_complete complete, lined]

section Items

variable (r : Response) (now : Duration) (timer : ChunkTimer)

/-- Each event gives one item. Whether the timer ticks for it matters for the later ones only. -/
theorem exists_itemsOf_cons (event : Event) (events : List Event) :
    ∃ later, itemsOf r now timer (event :: events) =
      itemOf r (timer.tick now).1 event :: itemsOf r now later events := by
  rw [itemsOf]
  cases itemOf r (timer.tick now).1 event with
  | error e => exact ⟨timer, rfl⟩
  | ok e => exact ⟨(timer.tick now).2, rfl⟩

theorem itemsOf_singleton (event : Event) :
    itemsOf r now timer [event] = [itemOf r (timer.tick now).1 event] := by
  obtain ⟨later, alone⟩ := exists_itemsOf_cons r now timer event []
  exact alone

/-- The texts of a round become its envelopes. -/
theorem exists_envelopes {ts : List (List Char)} {round : List Piece}
    (h : List.Forall₂ Piece.WrittenIn ts round) :
    ∃ es : List Envelope,
      itemsOf r now timer (ts.map Frame.readPayload) = es.map .ok ∧
        es.map Envelope.piece = round := by
  -- what an envelope says does not depend on the timer, so any state of it will do
  induction h generalizing timer with
  | nil => exact ⟨[], rfl, rfl⟩
  | @cons t p ts round written _ ih =>
      obtain ⟨body, parsed, said⟩ := written.said
      obtain ⟨e, read, piece⟩ := Payload.read_of_said said
      obtain ⟨later, first⟩ :=
        exists_itemsOf_cons r now timer (Frame.readPayload t) (ts.map Frame.readPayload)
      obtain ⟨es, items, pieces⟩ := ih later
      have item (s : Statistics) : itemOf r s (Frame.readPayload t) = .ok (label r s e) := by
        rw [Frame.readPayload, parsed]
        show (Payload.read (.object body)).map (label r s) = _
        rw [read]
        rfl
      have labelled (s : Statistics) : (label r s e).piece = p := piece
      refine ⟨label r (timer.tick now).1 e :: es, ?_, ?_⟩
      · rw [List.map_cons, first, item, items, List.map_cons]
      · rw [List.map_cons, labelled, pieces]

end Items

/-- A call that is served a round brings its pieces, in both regimes. -/
theorem invoke_served (mode : r.stream = true) (resolved : t.url r = .ok url)
    (address : t.address url = .ok u) (supplied : w.supplier = some response :: rest)
    {round : List Piece} (served : Serves response round) (g : Regime) :
    ∃ es : List Envelope,
      t.invoke g r w = (.ok (.stream (es.map .ok)), t.answered r u w rest) ∧
        es.map Envelope.piece = round := by
  obtain ⟨type, found, event_stream⟩ := served.event_stream
  obtain ⟨e, ts, text, written, bytes, frames⟩ := served.written
  have not_json := isJson_of_event_stream found event_stream
  have payloads := Piece.isPayload_of_writtenIn frames
  have events := events_of_written served.complete written bytes payloads g
  obtain ⟨es, items, pieces⟩ :=
    exists_envelopes response w.clock ⟨w.clock, w.clock, none⟩ frames
  refine ⟨es, ?_, pieces⟩
  rw [invoke_of_success mode resolved address supplied served.success not_json g, events, items]

end Call

/-! ## All calls of a reply -/

/-- With one more at the end of the one list, there is one more at the end of the other. -/
theorem forall₂_concat {α β : Type} {R : α → β → Prop} {as : List α} {bs : List β} {b : β}
    (h : List.Forall₂ R as (bs ++ [b])) :
    ∃ as' a, as = as' ++ [a] ∧ List.Forall₂ R as' bs ∧ R a b := by
  have front := List.forall₂_take_append as bs [b] h
  have back := List.forall₂_drop_append as bs [b] h
  generalize dropped : as.drop bs.length = last at back
  obtain _ | ⟨related, _ | _⟩ := back
  refine ⟨as.take bs.length, _, ?_, front, related⟩
  rw [← dropped, List.take_append_drop]

section Messages

variable (t : Transport) (r : Request) (rs : List Request) (u : Url) (serial : Nat)

/-- The messages of requests that are sent one after the other. -/
def messagesOf : List Message := rs.mapIdx fun j r => t.message r u (serial + j)

theorem messagesOf_concat :
    t.messagesOf (rs ++ [r]) u serial =
      t.messagesOf rs u serial ++ [t.message r u (serial + rs.length)] := by
  rw [messagesOf, List.mapIdx_concat]
  rfl

theorem messagesOf_cons :
    t.messagesOf (r :: rs) u serial = t.message r u serial :: t.messagesOf rs u (serial + 1) := by
  have shift : (fun j r => t.message r u (serial + (j + 1))) =
      fun j r => t.message r u (serial + 1 + j) := by
    funext j r
    rw [Nat.add_assoc, Nat.add_comm 1]
  rw [messagesOf, List.mapIdx_cons, messagesOf, shift, Nat.add_zero]

theorem messages_answered (w : World Server) (rest : Server) :
    (t.answered r u w rest).messages = w.messages ++ [t.message r u w.serial] :=
  World.messages_sent (w.note (.sending r.stream)) (t.message r u w.serial)

end Messages

section Run

variable {t : Transport} {k : Continuation} {url : String} {u : Url} {rest : Server}
  {first : List Envelope} {next : List (List Piece)}

/-- What the server has said in the rounds so far is the text of the streams. -/
theorem map_streamText (first : List Envelope) (later : List (List Envelope)) :
    (first.map .ok :: later.map (List.map .ok)).map Continuation.streamText =
      (first.map Envelope.piece :: later.map (List.map Envelope.piece)).map Piece.join := by
  have one : Continuation.streamText ∘ List.map .ok = Piece.join ∘ List.map Envelope.piece :=
    funext Continuation.streamText_map_ok
  rw [List.map_cons, List.map_cons, List.map_map, List.map_map, one,
    Continuation.streamText_map_ok]

/-- The last round says whether the reply is cut short. -/
theorem truncatedAfter_streams {truncated : Bool} (first : List Envelope)
    (later : List (List Envelope))
    (ends : Piece.EndsWith truncated
      ((later.map (List.map Envelope.piece)).getLastD (first.map Envelope.piece))) :
    Continuation.truncatedAfter (first.map .ok :: later.map (List.map .ok)).flatten = truncated := by
  rw [List.getLastD_map] at ends
  rw [← Continuation.StreamRun.flatten_dropLast_append, Continuation.truncatedAfter,
    Continuation.flagAfter_append, List.getLastD_map, Continuation.flagAfter_map_ok ends]

theorem errorFree_getLastD (first : List Envelope) (later : List (List Envelope)) :
    Continuation.ErrorFree ((later.map (List.map .ok)).getLastD (first.map .ok)) := by
  rw [List.getLastD_map]
  exact Continuation.errorFree_map_ok _

theorem followUps_concat (k : Continuation) {texts : List String} {n : Nat}
    (known : texts.length = n + 1) (text : String) :
    k.followUps true (texts ++ [text]) (n + 1) = k.followUps true texts n ++ [k.followUp true texts] := by
  rw [← Continuation.map_snd_rounds, Continuation.rounds_last k true known, List.map_append,
    Continuation.map_snd_rounds]
  rfl

/-- The calls of a reply: the first one tells nothing, each of the others all that was said before. -/
theorem range_map_followUp (k : Continuation) (mode : k.template.stream = true)
    (texts : List String) (n : Nat) :
    ((List.range (n + 1)).map fun j => k.followUp true (texts.take j)) =
      k.template :: k.followUps true texts n := by
  have first : k.followUp true [] = k.template := by
    rw [Continuation.followUp, Continuation.turns, List.flatMap_nil, List.append_nil, ← mode]
  rw [List.range_succ_eq_map, List.map_cons, List.map_map, List.take_zero, first]
  rfl

/-- With the text of one more round there is one more message; it tells the texts before. -/
theorem messagesOf_followUps_concat (k : Continuation) {texts : List String} {n : Nat}
    (known : texts.length = n + 1) (text : String) (t : Transport) (u : Url) (serial : Nat) :
    t.messagesOf (k.followUps true (texts ++ [text]) (n + 1)) u serial =
      t.messagesOf (k.followUps true texts n) u serial ++
        [t.message (k.followUp true texts) u (serial + n)] := by
  have count : (k.followUps true texts n).length = n := by
    rw [Continuation.followUps, List.length_map, List.length_range]
  rw [followUps_concat k known, messagesOf_concat, count]

/-- One more round that is served is one more call. -/
theorem exists_streamRun_concat {later : List (List Envelope)} {w v : World Server} {g : Regime}
    (run : k.StreamRun t.executor g (first.map .ok) (later.map (List.map .ok)) w v)
    (allowed : k.Allows (later.length + 1))
    (cut : Piece.EndsWith true
      ((later.map (List.map Envelope.piece)).getLastD (first.map Envelope.piece)))
    (resolved : t.url k.template = .ok url) (address : t.address url = .ok u)
    {response : Response} {round : List Piece} (supplied : v.supplier = some response :: rest)
    (served : Serves response round) {texts : List String}
    (told : texts =
      (first.map Envelope.piece :: later.map (List.map Envelope.piece)).map Piece.join) :
    ∃ es : List Envelope,
      k.StreamRun t.executor g (first.map .ok) ((later ++ [es]).map (List.map .ok)) w
        (t.answered (k.followUp true texts) u (v.note (k.round true texts).1) rest) ∧
      es.map Envelope.piece = round := by
  have resolved : t.url (k.followUp true texts) = .ok url := resolved
  have noted : (v.note (k.round true texts).1).supplier = some response :: rest := supplied
  obtain ⟨es, call, pieces⟩ := invoke_served rfl resolved address noted served g
  rw [← map_streamText] at told
  have asked : k.ask t.executor g true texts v = (.ok (.stream (es.map .ok)), _) := call
  rw [told] at asked
  refine ⟨es, ?_, pieces⟩
  rw [List.map_append, List.map_singleton, told]
  refine Continuation.StreamRun.concat_iff.2 ⟨v, run, ?_, ?_, ?_, asked⟩
  · exact errorFree_getLastD first later
  · exact truncatedAfter_streams first later cut
  · rw [List.length_map]
    exact allowed

/-- A continuation goes through the rounds that are served, with one call for each but the first.
Every call tells the texts of the rounds before it. -/
theorem exists_streamRun (resolved : t.url k.template = .ok url) (address : t.address url = .ok u)
    (g : Regime) (allowed : k.Allows next.length)
    (cut : ∀ round ∈ (first.map Envelope.piece :: next).dropLast, Piece.EndsWith true round)
    {responses : List Response} (served : List.Forall₂ Serves responses next) {w : World Server}
    (supplied : w.supplier = responses.map some ++ rest) :
    ∃ (later : List (List Envelope)) (w' : World Server),
      k.StreamRun t.executor g (first.map .ok) (later.map (List.map .ok)) w w' ∧
        later.map (List.map Envelope.piece) = next ∧ w'.supplier = rest ∧
        w'.serial = w.serial + next.length ∧
        w'.messages = w.messages ++ t.messagesOf
          (k.followUps true ((first.map Envelope.piece :: next).map Piece.join) next.length)
          u w.serial := by
  -- the last response is that of the last call, which tells all that was said before it
  induction next using List.reverseRecOn generalizing responses rest with
  | nil =>
      cases served
      exact ⟨[], w, .nil k t.executor g _ w, rfl, supplied, rfl, (List.append_nil _).symm⟩
  | append_singleton next round ih =>
      obtain ⟨responses, response, rfl, served, last⟩ := forall₂_concat served
      obtain ⟨cut, cut_last⟩ := (forall_dropLast_concat_iff _ _ _ next).1 cut
      rw [List.length_append, List.length_singleton] at allowed ⊢
      rw [List.map_append, List.map_singleton, List.append_assoc, List.singleton_append] at supplied
      obtain ⟨later, v, run, said, left, serial, sent⟩ :=
        ih (allowed.le (Nat.le_succ _)) cut served supplied
      rw [← said] at cut_last
      have calls : k.Allows (later.length + 1) := by
        rw [← said, List.length_map] at allowed
        exact allowed
      obtain ⟨es, run, pieces⟩ :=
        exists_streamRun_concat run calls cut_last resolved address left last rfl
      refine ⟨later ++ [es], _, run, ?_, rfl, ?_, ?_⟩
      · rw [List.map_append, List.map_singleton, said, pieces]
      · show v.serial + 1 = _
        rw [serial, Nat.add_assoc]
      · have known :
            ((first.map Envelope.piece :: next).map Piece.join).length = next.length + 1 := by
          rw [List.length_map, List.length_cons]
        have calls := messagesOf_followUps_concat k known (Piece.join round) t u w.serial
        have same (n : Notice) : (v.note n).serial = v.serial := rfl
        rw [messages_answered, World.messages_note, sent, List.append_assoc, said,
          ← List.cons_append, List.map_append, List.map_singleton, calls, same, serial]

end Run

/-! ## Completions -/

section Completion

variable {t : Transport} {c : Client Server} {q : CompletionRequest} {conversation : Conversation}
  {url : String} {u : Url}

/-- A streamed completion that is continued, over HTTP. The server answers with the rounds in order;
all of them but the last end truncated, and the cap leaves room for them. In both regimes the items
are one envelope for each piece that was served, in order, and then the stream is at its end. One
message was sent for each round: the first call, and then calls of which each adds to the
conversation the text of every round before it as a turn of the assistant, and the prompt to go
on. -/
theorem yields_of_served_rounds (http : c.executor = t.executor) (g : Regime)
    (native : c.alternateFor q.model = none) (normal : q.messages.normalize = .ok conversation)
    (resolved : t.url (q.request conversation) = .ok url) (address : t.address url = .ok u)
    {first : List Piece} {next : List (List Piece)} (allowed : ∀ m ∈ c.cap q, next.length ≤ m)
    (cut : ∀ round ∈ (first :: next).dropLast, Piece.EndsWith true round)
    (whole : Piece.EndsWith false (next.getLastD first)) {responses : List Response}
    (served : List.Forall₂ Serves responses (first :: next)) {w : World Server} {rest : Server}
    (supplied : w.supplier = responses.map some ++ rest) :
    let call : Request := { q.request conversation with stream := true }
    let texts := (first :: next).map Piece.join
    ∃ (f : Feed) (v : World Server) (items : List Envelope) (v' : World Server),
      c.complete g (q.continued true) w = (.ok (.stream f), v) ∧
      f.Yields c.executor v (items.map .ok) v' ∧
      items.map Envelope.piece = (first :: next).flatten ∧
      v'.messages = w.messages ++ t.messagesOf
        ((List.range (next.length + 1)).map fun j =>
          { call with messages := conversation ++ Continuation.turns (texts.take j) })
        u w.serial ∧
      v'.supplier = rest := by
  intro call texts
  cases served with
  | @cons response _ responses _ answer answers =>
      -- the first call, after the notices of the completion
      obtain ⟨supplier, serial, messages⟩ :=
        World.foldl_note w ((q.continued true).notices conversation)
      generalize begun : ((q.continued true).notices conversation).foldl World.note w = w₀
        at supplier serial messages
      rw [supplied, List.map_cons, List.cons_append] at supplier
      obtain ⟨es, called, rfl⟩ := invoke_served (r := call) rfl resolved address supplier answer g
      have completed : c.complete g (q.continued true) w =
          (.ok (.stream (Continuation.feed ⟨call, c.cap q⟩ g (es.map .ok))),
            t.answered call u w₀ (responses.map some ++ rest)) := by
        apply Client.complete_of_stream native normal
        rw [begun, http]
        exact called
      -- the calls for the other rounds
      have remaining : (t.answered call u w₀ (responses.map some ++ rest)).supplier =
          responses.map some ++ rest := rfl
      obtain ⟨later, w', run, rfl, left, -, sent⟩ :=
        exists_streamRun (k := ⟨call, c.cap q⟩) resolved address g allowed cut answers remaining
      obtain ⟨v, yields, no_more, same⟩ := run.exists_yields (errorFree_getLastD es later)
        (truncatedAfter_streams es later whole)
      have calls := range_map_followUp ⟨call, c.cap q⟩ rfl texts
        (later.map (List.map Envelope.piece)).length
      refine ⟨_, _, (es :: later).flatten, v, completed, ?_, ?_, ?_, ?_⟩
      · rw [http, List.map_flatten, List.map_cons]
        exact yields
      · rw [List.map_flatten, List.map_cons]
      · rw [no_more, sent, messages_answered, messages, List.append_assoc, List.singleton_append]
        refine congrArg (w.messages ++ ·) ?_
        refine Eq.trans ?_ (congrArg (t.messagesOf · u w.serial) calls).symm
        rw [messagesOf_cons, ← serial]
        rfl
      · rw [same, left]

/-- Two rounds: one with a character cut in two, one whose last line has no end, and the cap is
reached. -/
theorem yields_of_two_rounds :
    let t : Transport := .ofSettings {}
    let c : Client Server := { settings := {}, executor := t.executor }
    let q : CompletionRequest :=
      { messages := .typed [⟨.user, "hi"⟩], maxRounds := some (some 1) }
    let call : Request := { q.request [⟨.user, "hi"⟩] with stream := true }
    let u : Url :=
      { secure := true
        host := .name "aip.baidubce.com"
        port := none
        path := "/rpc/2.0/ai_custom/v1/wenxinworkshop/chat/eb-instant"
        query := none }
    let sail := "\x7b\"result\":\"帆\",\"is_truncated\":false\x7d".toList
    let cut := "\x7b\"result\":\"!\",\"is_truncated\":true\x7d".toList
    let rest := "\x7b\"result\":\"ok\",\"is_truncated\":false\x7d".toList
    let opening := LineEnd.lf.text [Frame.dataLine sail, []]
      (LineEnd.lf.text [Frame.dataLine cut, []] [])
    let closing := LineEnd.crlf.text [] (Frame.dataLine rest)
    let first := encode opening
    let headers := [Headers.field "Content-Type" (encode "text/event-stream".toList)]
    let responses : List Response :=
      [⟨200, headers, { pieces := [first.take 18, first.drop 18] }⟩,
        ⟨200, headers, { pieces := [encode closing] }⟩]
    let rounds : List (List Piece) := [[⟨"帆", false⟩, ⟨"!", true⟩], [⟨"ok", false⟩]]
    let w : World Server := { supplier := responses.map some ++ [] }
    List.Forall₂ Serves responses rounds ∧
      ∃ (f : Feed) (v : World Server) (items : List Envelope) (v' : World Server),
        c.complete .blocking (q.continued true) w = (.ok (.stream f), v) ∧
        f.Yields c.executor v (items.map .ok) v' ∧
        items.map Envelope.piece = [⟨"帆", false⟩, ⟨"!", true⟩, ⟨"ok", false⟩] ∧
        v'.messages = t.messagesOf [call,
          { call with messages :=
              [⟨.user, "hi"⟩, ⟨.assistant, "帆!"⟩, ⟨.user, continuationPrompt⟩] }] u 0 ∧
        v'.supplier = [] := by
  intro t c q call u sail cut rest opening closing first headers responses rounds w
  have resolved : t.url (q.request [⟨.user, "hi"⟩]) = .ok u.text := by decide +kernel
  have address : t.address u.text = .ok u :=
    address_of_parse? (by decide +kernel) rfl (by decide +kernel) rfl
  have event_stream : ∃ t, Headers.get? "content-type" headers = some t ∧
      "text/event-stream".toList <+: Text.lowerAscii t.toList :=
    ⟨"text/event-stream", by decide +kernel, by decide +kernel⟩
  have said (text : String) (truncated : Bool) :
      Piece.SaidBy [("is_truncated", .bool truncated), ("result", .string text)]
        ⟨text, truncated⟩ :=
    ⟨rfl, rfl, rfl, fun v hv => by cases hv⟩
  have sails : Piece.WrittenIn sail ⟨"帆", false⟩ :=
    .line (by decide +kernel) (by decide +kernel) (by decide +kernel) (said _ _)
  have cuts : Piece.WrittenIn cut ⟨"!", true⟩ :=
    .line (by decide +kernel) (by decide +kernel) (by decide +kernel) (said _ _)
  have rests : Piece.WrittenIn rest ⟨"ok", false⟩ :=
    .line (by decide +kernel) (by decide +kernel) (by decide +kernel) (said _ _)
  have served : List.Forall₂ Serves responses rounds := by
    refine .cons ⟨rfl, event_stream, rfl, .lf, [sail, cut], opening, ?_, ?_, ?_⟩
      (.cons ⟨rfl, event_stream, rfl, .crlf, [rest], closing, ?_, ?_, ?_⟩ .nil)
    · exact .frame 0 (.line (by decide +kernel)) (.frame 0 (.line (by decide +kernel)) .nil)
    · decide +kernel
    · exact .cons sails (.cons cuts .nil)
    · have line : Frame.Written (some rest) ([] ++ [Frame.dataLine rest]) :=
        .line (by decide +kernel)
      exact .unended line
    · decide +kernel
    · exact .cons rests .nil
  refine ⟨served, yields_of_served_rounds rfl .blocking rfl rfl resolved address ?_ ?_ ?_ served rfl⟩
  · intro m hm
    cases hm
    exact Nat.le_refl 1
  · intro round hr
    cases List.mem_singleton.1 hr
    rfl
  · rfl

/-- A frame that has a text, a flag and no error, and a number in place of the Boolean `is_end`. The
stream gives the error for the number and no envelope. -/
theorem yields_of_numeric_end :
    let t : Transport := .ofSettings { baseUrl := "http://127.0.0.1:8080" }
    let c : Client Server := { settings := {}, executor := t.executor }
    let q : CompletionRequest := { messages := .typed [⟨.user, "hi"⟩] }
    let frame := "\x7b\"result\":\"a\",\"is_truncated\":false,\"is_end\":1\x7d".toList
    let body : Fields Json :=
      [("is_end", .number (.int 1)), ("is_truncated", .bool false), ("result", .string "a")]
    let text := LineEnd.lf.text [Frame.dataLine frame, []] []
    let response : Response :=
      ⟨200, [Headers.field "Content-Type" (encode "text/event-stream".toList)],
        { pieces := [encode text] }⟩
    let w : World Server := { supplier := [some response] }
    (Json.parse? frame = some (.object body) ∧ Fields.get? "result" body = some (.string "a") ∧
      Fields.get? "is_truncated" body = some (.bool false) ∧
      Fields.get? "error_code" body = none) ∧
    ∀ g : Regime, ∃ (f : Feed) (v v' : World Server),
      c.complete g (q.continued true) w = (.ok (.stream f), v) ∧
      f.Yields c.executor v
        [.error (Envelope.unusable "is_end" "bool" (some (.number (.int 1))))] v' ∧
      ∀ (items : List Envelope) (v'' : World Server),
        ¬f.Yields c.executor v (items.map .ok) v'' := by
  intro t c q frame body text response w
  have parsed : Json.parse? frame = some (.object body) := by decide +kernel
  refine ⟨⟨parsed, rfl, rfl, rfl⟩, fun g => ?_⟩
  let call : Request := { q.request [⟨.user, "hi"⟩] with stream := true }
  let w₀ := ((q.continued true).notices [⟨.user, "hi"⟩]).foldl World.note w
  let refused := Envelope.unusable "is_end" "bool" (some (.number (.int 1)))
  let u : Url := ⟨false, .v4 2130706433, some 8080, "/chat/eb-instant", none, none⟩
  have address : t.address "http://127.0.0.1:8080/chat/eb-instant" = .ok u :=
    address_of_parse? (by decide +kernel) rfl (by decide +kernel) rfl
  have supplied : w₀.supplier = some response :: [] := (World.foldl_note w _).1
  -- one frame, read as one payload, and no envelope in it
  have written : StreamText .lf [frame] text := .frame 0 (.line (by decide +kernel)) .nil
  have payload : ∀ t ∈ [frame], Frame.IsPayload t :=
    List.forall_mem_singleton.2 (.of_parse? parsed (by decide +kernel) (by decide +kernel))
  have events := events_of_written (b := response.body) rfl written rfl payload g
  have item (s : Statistics) : itemOf response s (Frame.readPayload frame) = .error refused := by
    rw [Frame.readPayload, parsed]
    rfl
  have called := invoke_of_success (r := call) rfl rfl address supplied
    (by decide +kernel) (by decide +kernel) g
  rw [events, List.map_singleton, itemsOf_singleton, item] at called
  -- the first stream is read up to its error
  have run := Continuation.StreamRun.nil ⟨call, c.cap q⟩ c.executor g [.error refused]
    (t.answered call u w₀ [])
  have yields := run.yields_of_failed Continuation.not_errorFree_error_cons
  refine ⟨_, _, _, Client.complete_of_stream rfl rfl called, yields, ?_⟩
  intro items v'' envelopes
  have same : [Except.error refused] = items.map Except.ok := (yields.unique envelopes).1
  have free := Continuation.errorFree_map_ok items
  rw [← same] at free
  exact Continuation.not_errorFree_error_cons free

end Completion

end Transport

end Http

end ChatClient
