import ChatClient.Proofs.Http.Streaming
import ChatClient.Proofs.Json.Values

/-!
# Answers without frames

A server may answer a streamed call with a line of JSON and no event stream around it. On its own
such a line is a frame of one line. A line without a colon is data, and is read as it would be after
the name of the data field; a line with a colon counts as a field, is ignored, and the frame has no
payload (`Frame.parse_bare_line`). Every object with a member is written with a colon, so no object
that says anything comes through, errors of the API included: the call brings a stream, and the
stream is empty (`Http.Transport.openStream_of_bare_line`).
-/

namespace ChatClient

open Utf8 (Bytes encode)

/-! ## Frames of one line -/

namespace Frame

section Line

variable {l d : List Char} {v : Json}

/-- A text without line ends is a frame of one line. -/
theorem parse_line (plain : Plain l) :
    parse l = (payloadOf? (dataOf (strip l)).toList).map readPayload := by
  have line := parse_text LineEnd.lf (List.forall_mem_nil _) plain
  rw [LineEnd.text_nil, List.nil_append, dataIn_cons, dataIn_nil, List.append_nil] at line
  exact line

/-- Data that are JSON are the payload of their frame. -/
theorem parse_of_json (plain : Plain l) (data : dataOf (strip l) = some d)
    (json : Json.parse? d = some v) : parse l = some (.ok v) := by
  have trimmed := Json.parse?_trim json
  have no_value : Json.parse? [] = none ∧ Json.parse? closingWord = none := by decide
  have payload : payloadOf? [d] = some (Text.trim d) := by
    rw [payloadOf?, Text.join]
    apply if_neg
    rintro (empty | closing)
    · rw [empty, no_value.1] at trimmed
      cases trimmed
    · rw [closing, no_value.2] at trimmed
      cases trimmed
  rw [parse_line plain, data, Option.toList_some, payload, Option.map_some, readPayload, trimmed]

/-- No JSON text begins with the name of the data field. -/
theorem not_prefix_of_json (json : Json.parse? l = some v) : ¬dataField.isPrefixOf l := by
  intro named
  obtain ⟨r, rfl⟩ := List.isPrefixOf_iff_prefix.1 named
  -- the reader stops at the first letter
  cases json

/-- A bare line of JSON is read like the same line after the name of the data field if there is no
colon in it; otherwise it counts as a field and has no payload. -/
theorem parse_bare_line (feed : '\n' ∉ l) (ret : '\r' ∉ l) (json : Json.parse? l = some v) :
    parse (dataLine l) = some (.ok v) ∧ parse l = if ':' ∈ l then none else some (.ok v) := by
  have ends : l.getLast? ≠ some '\r' := fun last => ret (List.mem_of_getLast? last)
  have plain := Plain.of_not_mem feed ret
  constructor
  · apply parse_of_json (plain_dataLine feed) _ json
    rw [strip_dataLine ends, dataOf_dataLine]
  · split
    · next colon =>
        have ignored : Ignored l :=
          .field colon (mt List.isPrefixOf_iff_prefix.2 (not_prefix_of_json json)) ret feed
        rw [parse_line plain, ignored.dataOf_strip, Option.toList_none, payloadOf?_nil,
          Option.map_none]
    · next bare =>
        have more : l ≠ [] := by
          rintro rfl
          cases json
        have other : l.head? ≠ some ':' := fun first => bare (List.mem_of_head? first)
        have no_colon : ¬l.contains ':' = true := mt List.contains_iff_mem.1 bare
        apply parse_of_json plain _ json
        rw [strip_of_not_mem ret, dataOf, if_neg (not_or.2 ⟨more, other⟩),
          if_neg (not_prefix_of_json json), if_neg no_colon]

end Line

end Frame

namespace Http.Transport

/-! ## Streams of one line -/

/-- In both regimes a body of one line has the event of that line, if it is one. -/
theorem events_of_line {l : List Char} {b : Body} (plain : Plain l) (complete : b.complete = true)
    (bytes : b.bytes = encode l) (g : Regime) : events g b = (Frame.parse l).toList := by
  have no_lines : ∀ m ∈ ([] : List (List Char)), Plain m := List.forall_mem_nil _
  have whole : b.pieces.flatten = encode (LineEnd.lf.text [] l) := by
    rw [LineEnd.text_nil]
    exact bytes
  have payloads : (Frame.payloads (LineEnd.lf.text [] l)).map Frame.readPayload =
      (Frame.parse l).toList := by
    have block := Frame.payloadsAfter_last [] plain
    have line := Frame.parse_text LineEnd.lf no_lines plain
    rw [LineEnd.text_nil] at line
    rw [line, Frame.payloads_text LineEnd.lf no_lines plain, Option.toList_map]
    exact congrArg _ block
  cases g with
  | async =>
      show Chunked.decode (chunks b) = _
      rw [chunks_of_complete complete, Chunked.decode_text .lf no_lines plain whole, payloads]
  | blocking =>
      show Lined.decode (reads b) = _
      rw [reads_of_complete complete, Lined.decode_text .lf no_lines plain whole, payloads]

/-- An answer of one line opens a stream with the item of that line, if it is one. -/
theorem openStream_of_line {T : Transport} {r : Request} {url : String} {w w' : World Server}
    {response : Response} (sent : T.send r url w = (.ok response, w'))
    (not_json : Headers.isJson response.headers = false) (complete : response.body.complete = true)
    {l : List Char} (plain : Plain l) (bytes : response.body.bytes = encode l) (g : Regime) :
    T.openStream g r url w =
      (.ok (itemsOf response w'.clock ⟨w.clock, w'.clock, none⟩ (Frame.parse l).toList), w') := by
  rw [openStream, sent]
  dsimp only
  rw [not_json, events_of_line plain complete bytes]
  rfl

/-- A line of JSON, as a frame and as the whole answer to a streamed call with another content type
than JSON. After the name of the data field it is a payload and an item. On its own it is one just
if there is no colon in it; with a colon the frame has no payload, and the call brings an empty
stream and no error. Every object with a member has a colon, in particular every object with an
error code. -/
theorem openStream_of_bare_line {l : List Char} {v : Json} (feed : '\n' ∉ l) (ret : '\r' ∉ l)
    (json : Json.parse? l = some v) :
    Frame.parse (Frame.dataLine l) = some (.ok v) ∧
    Frame.parse l = (if ':' ∈ l then none else some (.ok v)) ∧
    (∀ key, (v.get? key).isSome = true → ':' ∈ l) ∧
    ∀ (T : Transport) (g : Regime) (r : Request) (url : String) (w w' : World Server)
      (response : Response), T.send r url w = (.ok response, w') →
      Headers.isJson response.headers = false → response.body.complete = true →
        let timer : ChunkTimer := { start := w.clock, opened := w'.clock }
        let item := itemOf response (timer.tick w'.clock).1 (.ok v)
        (response.body.bytes = encode (Frame.dataLine l) →
          T.openStream g r url w = (.ok [item], w')) ∧
        (response.body.bytes = encode l →
          T.openStream g r url w = (.ok (if ':' ∈ l then [] else [item]), w')) := by
  obtain ⟨framed, bare⟩ := Frame.parse_bare_line feed ret json
  refine ⟨framed, bare, ?_, ?_⟩
  · intro key member
    cases v with
    | object fields =>
        apply Json.colon_mem_of_parse? json
        rintro rfl
        cases member
    | _ => cases member
  · intro T g r url w w' response sent not_json complete timer item
    constructor
    · intro bytes
      rw [openStream_of_line sent not_json complete (Frame.plain_dataLine feed) bytes, framed,
        Option.toList_some, itemsOf_singleton]
    · intro bytes
      rw [openStream_of_line sent not_json complete (Plain.of_not_mem feed ret) bytes, bare]
      split
      · rfl
      · rw [Option.toList_some, itemsOf_singleton]

/-- A list with a blank before it, an escape in its string and no colon, cut within a character. -/
theorem openStream_of_bare_list :
    let T : Transport := .ofSettings { baseUrl := "http://127.0.0.1:8080" }
    let r : Request := { stream := true }
    let url := "http://127.0.0.1:8080/chat/eb-instant"
    let u : Url := ⟨false, .v4 2130706433, some 8080, "/chat/eb-instant", none, none⟩
    let l := " [\"帆\\n\", null]".toList
    let v : Json := .array [.string "帆\n", .null]
    let response : Response :=
      ⟨200, [Headers.field "Content-Type" (encode "text/event-stream".toList)],
        { pieces := [(encode l).take 4, (encode l).drop 4] }⟩
    let w : World Server := { supplier := [some response] }
    let timer : ChunkTimer := { start := w.clock, opened := w.clock }
    let item := itemOf response (timer.tick w.clock).1 (.ok v)
    ('\n' ∉ l ∧ '\r' ∉ l ∧ Json.parse? l = some v) ∧
      Frame.parse (Frame.dataLine l) = some (.ok v) ∧ Frame.parse l = some (.ok v) ∧
      ∀ g : Regime, T.openStream g r url w = (.ok [item], T.answered r u w []) := by
  intro T r url u l v response w timer item
  have feed : '\n' ∉ l := by decide +kernel
  have ret : '\r' ∉ l := by decide +kernel
  have json : Json.parse? l = some v := by decide +kernel
  have no_colon : ':' ∉ l := by decide +kernel
  have address : T.address url = .ok u :=
    address_of_parse? (by decide +kernel) rfl (by decide +kernel) rfl
  have sent : T.send r url w = (.ok response, T.answered r u w []) :=
    send_of_success address rfl rfl
  have not_json : Headers.isJson response.headers = false := by decide +kernel
  have bytes : response.body.bytes = encode l := by decide +kernel
  obtain ⟨framed, bare, -, streamed⟩ := openStream_of_bare_line feed ret json
  rw [if_neg no_colon] at bare
  refine ⟨⟨feed, ret, json⟩, framed, bare, ?_⟩
  intro g
  have opened := (streamed T g r url w _ response sent not_json rfl).2 bytes
  rw [if_neg no_colon] at opened
  exact opened

/-- An error of the API on a line of its own. With the name of the data field before it, it is a
payload; without, the call brings an empty stream. -/
theorem openStream_of_bare_error :
    let T : Transport := .ofSettings { baseUrl := "http://127.0.0.1:8080" }
    let r : Request := { stream := true }
    let url := "http://127.0.0.1:8080/chat/eb-instant"
    let l := "\x7b\"error_code\":336100,\"error_msg\":\"busy\"\x7d".toList
    let v : Json :=
      .object [("error_code", .number (.int 336100)), ("error_msg", .string "busy")]
    let response : Response :=
      ⟨200, [Headers.field "Content-Type" (encode "text/event-stream".toList)],
        { pieces := [encode l] }⟩
    let w : World Server := { supplier := [some response] }
    ('\n' ∉ l ∧ '\r' ∉ l ∧ Json.parse? l = some v) ∧
      Frame.parse (Frame.dataLine l) = some (.ok v) ∧ Frame.parse l = none ∧
      ∀ g : Regime, (T.openStream g r url w).1 = .ok [] := by
  intro T r url l v response w
  have feed : '\n' ∉ l := by decide +kernel
  have ret : '\r' ∉ l := by decide +kernel
  have json : Json.parse? l = some v := by decide +kernel
  obtain ⟨framed, bare⟩ := Frame.parse_bare_line feed ret json
  rw [if_pos (by decide +kernel)] at bare
  have address : T.address url =
      .ok ⟨false, .v4 2130706433, some 8080, "/chat/eb-instant", none, none⟩ :=
    address_of_parse? (by decide +kernel) rfl (by decide +kernel) rfl
  have sent := send_of_success (r := r) (w := w) address rfl rfl
  have not_json : Headers.isJson response.headers = false := by decide +kernel
  have bytes : response.body.bytes = encode l := by decide +kernel
  refine ⟨⟨feed, ret, json⟩, framed, bare, ?_⟩
  intro g
  rw [openStream_of_line sent not_json rfl (Plain.of_not_mem feed ret) bytes, bare]
  rfl

end Http.Transport

end ChatClient
