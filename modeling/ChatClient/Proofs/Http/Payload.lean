import ChatClient.Http.Transport
import ChatClient.Proofs.Json.Values

/-!
# What payloads mean

A payload is an envelope or one of three kinds of errors, and which one it is depends on the payload
alone. `Http.Payload.Means` says what it is, with one constructor for each kind: an error code counts
before all else, then that the payload is an object, then the members of an envelope in their order
(`Envelope.needs`). Each payload means one thing, and `Http.Payload.read` finds it
(`Http.Payload.read_eq_iff_means`).

Three paths lead from an answer to a payload: the whole body of a single reply, an event of a stream,
and a JSON body in place of a stream. The first two add what is known of the answer to the envelope
and change nothing else; the third reports the errors of the API that the others report
(`Http.Transport.paths_of_payload`).
-/

namespace ChatClient

/-! ## Members of an envelope -/

/-- A member of a payload that an envelope needs, with the values that will do. -/
structure Need where
  key : String
  expected : String
  usable : Option Json → Bool

namespace Need

/-- The payload has what is needed. -/
def metBy (n : Need) (body : Fields Json) : Bool := n.usable (Fields.get? n.key body)

/-- The error for a payload that has not: it names the path of the member and says what is there. -/
def refusal (n : Need) (body : Fields Json) : Error :=
  .malformedResponse ("response has no usable `" ++ n.key ++ "`")
    { field := some ("body." ++ n.key)
      details := some (match Fields.get? n.key body with
        | none => "missing"
        | some v => "expected " ++ n.expected ++ ", got " ++ v.kind : String)
      origin := some "response_envelope" }

/-- The reply text is a string. -/
def result : Need where
  key := "result"
  expected := "string"
  usable
    | some (.string _) => true
    | _ => false

/-- The truncation flag is a Boolean. -/
def truncated : Need where
  key := "is_truncated"
  expected := "bool"
  usable
    | some (.bool _) => true
    | _ => false

/-- The end flag is a Boolean, or there is none. -/
def ending : Need where
  key := "is_end"
  expected := "bool"
  usable
    | none => true
    | some .null => true
    | some (.bool _) => true
    | _ => false

section Met

variable {body : Fields Json}

theorem metBy_result_iff :
    result.metBy body = true ↔ ∃ s, Fields.get? "result" body = some (.string s) := by
  constructor
  · intro met
    rw [metBy, result] at met
    dsimp only at met
    split at met
    · next s found => exact ⟨s, found⟩
    · cases met
  · rintro ⟨s, found⟩
    rw [metBy, result, found]

theorem metBy_truncated_iff :
    truncated.metBy body = true ↔ ∃ b, Fields.get? "is_truncated" body = some (.bool b) := by
  constructor
  · intro met
    rw [metBy, truncated] at met
    dsimp only at met
    split at met
    · next b found => exact ⟨b, found⟩
    · cases met
  · rintro ⟨b, found⟩
    rw [metBy, truncated, found]

end Met

end Need

namespace Envelope

/-- The members that an envelope needs, in the order in which they are looked at. -/
def needs : List Need := [.result, .truncated, .ending]

/-- The end flag of a payload that has none is true. -/
def EndFlag (body : Fields Json) (b : Bool) : Prop :=
  Fields.get? "is_end" body = some (.bool b) ∨
    (Fields.get? "is_end" body = none ∨ Fields.get? "is_end" body = some .null) ∧ b = true

theorem metBy_ending_iff {body : Fields Json} :
    Need.ending.metBy body = true ↔ ∃ b, EndFlag body b := by
  constructor
  · intro met
    rw [Need.metBy, Need.ending] at met
    dsimp only at met
    split at met
    · next absent => exact ⟨true, .inr ⟨.inl absent, rfl⟩⟩
    · next null => exact ⟨true, .inr ⟨.inr null, rfl⟩⟩
    · next b found => exact ⟨b, .inl found⟩
    · cases met
  · rintro ⟨b, found | ⟨absent | null, -⟩⟩
    · rw [Need.metBy, Need.ending, found]
    · rw [Need.metBy, Need.ending, absent]
    · rw [Need.metBy, Need.ending, null]

section Readers

variable {body : Fields Json} {text : String} {cut ended : Bool}

theorem readResult_of_string (found : Fields.get? "result" body = some (.string text)) :
    readResult body = .ok text := by rw [readResult, found]

theorem readTruncated_of_bool (found : Fields.get? "is_truncated" body = some (.bool cut)) :
    readTruncated body = .ok cut := by rw [readTruncated, found]

theorem readEnd_of_endFlag (flag : EndFlag body ended) : readEnd body = .ok ended := by
  rcases flag with found | ⟨absent | null, rfl⟩
  · rw [readEnd, found]
  · rw [readEnd, absent]
  · rw [readEnd, null]

/-- A member that will not do is refused by its reader. -/
theorem readResult_of_unmet (unmet : ¬Need.result.metBy body = true) :
    readResult body = .error (Need.result.refusal body) := by
  rw [readResult]
  split
  · next s found => exact absurd (Need.metBy_result_iff.2 ⟨s, found⟩) unmet
  · rfl

theorem readTruncated_of_unmet (unmet : ¬Need.truncated.metBy body = true) :
    readTruncated body = .error (Need.truncated.refusal body) := by
  rw [readTruncated]
  split
  · next b found => exact absurd (Need.metBy_truncated_iff.2 ⟨b, found⟩) unmet
  · rfl

theorem readEnd_of_unmet (unmet : ¬Need.ending.metBy body = true) :
    readEnd body = .error (Need.ending.refusal body) := by
  rw [readEnd]
  split
  · next absent => exact absurd (metBy_ending_iff.2 ⟨true, .inr ⟨.inl absent, rfl⟩⟩) unmet
  · next null => exact absurd (metBy_ending_iff.2 ⟨true, .inr ⟨.inr null, rfl⟩⟩) unmet
  · next b found => exact absurd (metBy_ending_iff.2 ⟨b, .inl found⟩) unmet
  · rfl

/-- A payload with all the members is an envelope. -/
theorem ofBody_of_members (result : Fields.get? "result" body = some (.string text))
    (truncated : Fields.get? "is_truncated" body = some (.bool cut)) (ending : EndFlag body ended) :
    ofBody body = .ok { result := text, isTruncated := cut, isEnd := ended, body } := by
  rw [ofBody, readResult_of_string result, readTruncated_of_bool truncated,
    readEnd_of_endFlag ending]
  rfl

theorem find?_needs_of_members (result : Fields.get? "result" body = some (.string text))
    (truncated : Fields.get? "is_truncated" body = some (.bool cut)) (ending : EndFlag body ended) :
    (needs.find? fun n => !n.metBy body) = none := by
  have first := Need.metBy_result_iff.2 ⟨text, result⟩
  have second := Need.metBy_truncated_iff.2 ⟨cut, truncated⟩
  have third := metBy_ending_iff.2 ⟨ended, ending⟩
  simp [needs, first, second, third]

end Readers

/-- What an envelope has of its payload. -/
def contents (e : Envelope) : Envelope := { e with status := 200, headers := [], statistics := {} }

end Envelope

namespace Http.Payload

/-! ## Meanings -/

/-- An integer that fits 64 bits with a sign. -/
def FitsInt64 (v : Json) (n : Int) : Prop := v = .number (.int n) ∧ -2 ^ 63 ≤ n ∧ n < 2 ^ 63

/-- The value that has a property, or another one if none has it. -/
def WithDefault {α : Type} (P : α → Prop) (default a : α) : Prop := P a ∨ a = default ∧ ∀ b, ¬P b

theorem WithDefault.unique {α : Type} {P : α → Prop} {default a b : α}
    (single : ∀ a b, P a → P b → a = b) (ha : WithDefault P default a)
    (hb : WithDefault P default b) : a = b := by
  rcases ha with ha | ⟨rfl, none⟩
  · rcases hb with hb | ⟨-, none⟩
    · exact single a b ha hb
    · exact absurd ha (none a)
  · rcases hb with hb | ⟨same, -⟩
    · exact absurd hb (none b)
    · exact same.symm

/-- What a payload means. -/
inductive Means : Json → Except Error Envelope → Prop
  | envelope {body : Fields Json} {result : String} {isTruncated isEnd : Bool} :
      Fields.get? "error_code" body = none →
      Fields.get? "result" body = some (.string result) →
      Fields.get? "is_truncated" body = some (.bool isTruncated) →
      Envelope.EndFlag body isEnd →
        Means (.object body) (.ok { result, isTruncated, isEnd, body })
  | api {body : Fields Json} {v : Json} {code : Int} {message : String} :
      Fields.get? "error_code" body = some v →
      WithDefault (FitsInt64 v) 0 code →
      WithDefault (fun s => Fields.get? "error_msg" body = some (.string s)) "" message →
        Means (.object body) (.error (.api code message))
  | notObject {v : Json} :
      (∀ body, v ≠ .object body) →
        Means v (.error (.malformedResponse "response payload is not a JSON object"
          { details := some ("got " ++ v.kind : String), origin := some "response_envelope" }))
  | unusable {body : Fields Json} {n : Need} :
      Fields.get? "error_code" body = none →
      (Envelope.needs.find? fun n => !n.metBy body) = some n →
        Means (.object body) (.error (n.refusal body))

section Means

variable {v : Json} {body : Fields Json}

/-- The code of an error: its integer if it fits, else zero. -/
theorem int64?_getD (range : v.InRange) : WithDefault (FitsInt64 v) 0 (v.int64?.getD 0) := by
  have size : UInt64.size = 2 ^ 64 := rfl
  have other (no_code : v.int64? = none) (no_integer : ∀ n, ¬FitsInt64 v n) :
      WithDefault (FitsInt64 v) 0 (v.int64?.getD 0) := by
    rw [no_code]
    exact .inr ⟨rfl, no_integer⟩
  cases range with
  | @number n in_range =>
      cases n with
      | float => exact other rfl nofun
      | int n =>
          by_cases fits : 2 * n < UInt64.size
          · have high : n < 2 ^ 63 := by omega
            rw [Json.int64?, if_pos fits]
            exact .inl ⟨rfl, in_range.1, high⟩
          · apply other
            · rw [Json.int64?, if_neg fits]
            · rintro m ⟨same, -, high⟩
              cases same
              omega
  | _ => exact other rfl nofun

/-- The message of an error: its string if it is one, else empty. -/
theorem string?_getD (o : Option Json) :
    WithDefault (fun s => o = some (.string s)) "" ((o.bind Json.string?).getD "") := by
  rcases o with _ | v
  · exact .inr ⟨rfl, nofun⟩
  · cases v with
    | string s => exact .inl rfl
    | _ => exact .inr ⟨rfl, nofun⟩

theorem read_of_no_code (no_code : Fields.get? "error_code" body = none) :
    read (.object body) = Envelope.ofBody body := by
  have no_error : apiError? (.object body) = none := by rw [apiError?, Json.get?, no_code]
  rw [read, no_error]
  rfl

theorem read_of_code (code : Fields.get? "error_code" body = some v) :
    read (.object body) = .error (.api (v.int64?.getD 0)
      (((Fields.get? "error_msg" body).bind Json.string?).getD "")) := by
  rw [read, apiError?, Json.get?, code]
  rfl

/-- A payload without an error code means what its members say. -/
theorem means_ofBody (no_code : Fields.get? "error_code" body = none) :
    Means (.object body) (Envelope.ofBody body) := by
  -- the reader of a member runs only if those before it will do
  by_cases first : Need.result.metBy body = true
  · obtain ⟨text, result⟩ := Need.metBy_result_iff.1 first
    by_cases second : Need.truncated.metBy body = true
    · obtain ⟨cut, truncated⟩ := Need.metBy_truncated_iff.1 second
      by_cases third : Need.ending.metBy body = true
      · obtain ⟨ended, ending⟩ := Envelope.metBy_ending_iff.1 third
        rw [Envelope.ofBody_of_members result truncated ending]
        exact .envelope no_code result truncated ending
      · rw [Envelope.ofBody, Envelope.readResult_of_string result,
          Envelope.readTruncated_of_bool truncated, Envelope.readEnd_of_unmet third]
        apply Means.unusable no_code
        simp [Envelope.needs, first, second, third]
    · rw [Envelope.ofBody, Envelope.readResult_of_string result,
        Envelope.readTruncated_of_unmet second]
      apply Means.unusable no_code
      simp [Envelope.needs, first, second]
  · rw [Envelope.ofBody, Envelope.readResult_of_unmet first]
    apply Means.unusable no_code
    simp [Envelope.needs, first]

/-- Every payload means what is read off it. -/
theorem means_read (range : v.InRange) : Means v (read v) := by
  cases range with
  | @object body members =>
      cases code : Fields.get? "error_code" body with
      | none =>
          rw [read_of_no_code code]
          exact means_ofBody code
      | some v =>
          rw [read_of_code code]
          have range : v.InRange := members _ (Fields.mem_of_get? code)
          exact .api code (int64?_getD range) (string?_getD _)
  | _ => exact .notObject nofun

theorem FitsInt64.unique {a b : Int} (ha : FitsInt64 v a) (hb : FitsInt64 v b) : a = b := by
  obtain ⟨rfl, -⟩ := ha
  cases hb.1
  rfl

/-- A payload means nothing else than what is read off it. -/
theorem Means.read_eq {o : Except Error Envelope} (range : v.InRange) (h : Means v o) :
    read v = o := by
  cases h with
  | envelope no_code result truncated ending =>
      rw [read_of_no_code no_code, Envelope.ofBody_of_members result truncated ending]
  | @api _ v _ _ code number message =>
      cases range with
      | object members =>
          have range : v.InRange := members _ (Fields.mem_of_get? code)
          have same_number := number.unique (fun _ _ => FitsInt64.unique) (int64?_getD range)
          have same_message := message.unique (by grind) (string?_getD _)
          rw [read_of_code code, same_number, same_message]
  | notObject other =>
      cases v with
      | object body => exact absurd rfl (other body)
      | _ => rfl
  | unusable no_code first =>
      rw [read_of_no_code no_code]
      have means := means_ofBody no_code
      generalize Envelope.ofBody _ = o at means
      cases means with
      | unusable _ first' =>
          rw [first] at first'
          cases first'
          rfl
      | envelope _ result truncated ending =>
          rw [Envelope.find?_needs_of_members result truncated ending] at first
          cases first
      | api code =>
          rw [no_code] at code
          cases code
      | notObject other => exact absurd rfl (other _)

theorem read_eq_iff_means {o : Except Error Envelope} (range : v.InRange) :
    read v = o ↔ Means v o := by
  constructor
  · rintro rfl
    exact means_read range
  · exact Means.read_eq range

/-- An envelope that is read off a payload has nothing but its contents. -/
theorem map_contents_read (range : v.InRange) : (read v).map Envelope.contents = read v := by
  have means := means_read range
  generalize read v = o at means
  cases means with
  | envelope => rfl
  | api => rfl
  | notObject => rfl
  | unusable => rfl

section Text

variable {status : Nat} {text : String} (json : Json.parse? text.toList = some v)
include json

theorem parseBody_of_json : parseBody status text = .ok v := by rw [parseBody, json]

theorem readText_of_json : readText status text = read v := by
  rw [readText, parseBody_of_json json]

/-- In place of a stream, a payload is the error of the API that it is elsewhere, or another error. -/
theorem unexpectedJson_eq_api_iff (range : v.InRange) {code : Int} {message : String} :
    unexpectedJson status text = .api code message ↔ read v = .error (.api code message) := by
  rw [unexpectedJson, parseBody_of_json json]
  dsimp only
  cases error : apiError? v with
  | some e =>
      rw [read, error]
      constructor
      · rintro rfl
        rfl
      · rintro ⟨⟩
        rfl
  | none =>
      constructor
      · rintro ⟨⟩
      · intro found
        cases (read_eq_iff_means range).1 found with
        | api code =>
            rw [apiError?, Json.get?, code] at error
            cases error

end Text

end Means

end Http.Payload

namespace Http.Transport

open Payload (Means)

/-! ## Paths -/

/-- What is known of an answer is no part of the contents. -/
theorem map_contents_label (r : Response) (s : Statistics) (o : Except Error Envelope) :
    (o.map (label r s)).map Envelope.contents = o.map Envelope.contents := by
  cases o with
  | ok e => rfl
  | error e => rfl

/-- What a payload means, and that it means the same on every path. As the body of a single reply and
as an event of a stream it gives what it means, with the status, the headers and the statistics of
the answer. As a JSON body in place of a stream it gives an error: the error of the API that it
means, if it means one, and otherwise an error of another kind. -/
theorem paths_of_payload {v : Json} (range : v.InRange) :
    (∀ o, Payload.read v = o ↔ Means v o) ∧
    (∀ (response : Response) (s : Statistics),
      (itemOf response s (.ok v)).map Envelope.contents = Payload.read v) ∧
    ∀ text : String, Json.parse? text.toList = some v →
      (∀ status, Payload.readText status text = Payload.read v) ∧
      ∀ (T : Transport) (r : Request) (url : String) (w w' : World Server) (response : Response),
        T.send r url w = (.ok response, w') → response.text = .ok text →
          (∃ o, T.single r url w = (o, w') ∧ o.map Envelope.contents = Payload.read v) ∧
          (Headers.isJson response.headers = true → ∀ g : Regime, ∃ e,
            T.openStream g r url w = (.error e, w') ∧
              ∀ code message, e = .api code message ↔ Means v (.error (.api code message))) := by
  have bare := Payload.map_contents_read range
  refine ⟨fun o => Payload.read_eq_iff_means range, ?_, ?_⟩
  · intro response s
    rw [itemOf, map_contents_label, bare]
  · intro text json
    refine ⟨fun status => Payload.readText_of_json json, ?_⟩
    intro T r url w w' response sent body
    constructor
    · refine ⟨_, ?_, (map_contents_label response (statistics w.clock w'.clock) _).trans bare⟩
      rw [single, sent]
      dsimp only
      rw [body]
      dsimp only
      rw [Payload.readText_of_json json]
    · intro is_json g
      refine ⟨Payload.unexpectedJson response.status text, ?_, ?_⟩
      · rw [openStream, sent]
        dsimp only
        rw [if_pos is_json, body]
      · intro code message
        rw [Payload.unexpectedJson_eq_api_iff json range, Payload.read_eq_iff_means range]

/-- An error code one too large, no string for its message and a number for the text: one error of
the API on all paths. Two members that will not do: the first one is reported. -/
theorem paths_of_faulty_payloads :
    let T : Transport := .ofSettings { baseUrl := "http://127.0.0.1:8080" }
    let r (stream : Bool) : Request := { stream }
    let url := "http://127.0.0.1:8080/chat/eb-instant"
    let text := "\x7b\"error_code\":9223372036854775808,\"error_msg\":[],\"result\":1\x7d"
    let v : Json := .object
      [("error_code", .number (.int 9223372036854775808)), ("error_msg", .array []),
        ("result", .number (.int 1))]
    let flags : Json :=
      .object [("is_end", .number (.int 1)), ("is_truncated", .null), ("result", .string "a")]
    let response : Response :=
      ⟨200, [Headers.field "Content-Type" (Utf8.encode "application/json".toList)],
        { pieces := [Utf8.encode text.toList] }⟩
    let w : World Server := { supplier := [some response] }
    v.InRange ∧ Means v (.error (.api 0 "")) ∧
      (T.single (r false) url w).1 = .error (.api 0 "") ∧
      itemOf response {} (.ok v) = .error (.api 0 "") ∧
      (∀ g : Regime, (T.openStream g (r true) url w).1 = .error (.api 0 "")) ∧
      flags.InRange ∧ Means flags (.error (.malformedResponse "response has no usable `is_truncated`"
        { field := some "body.is_truncated"
          details := some "expected bool, got null"
          origin := some "response_envelope" })) := by
  intro T r url text v flags response w
  have json : Json.parse? text.toList = some v := by decide +kernel
  have range : v.InRange := Json.inRange_of_parse? json
  have json_flags : Json.parse?
      "\x7b\"is_end\":1,\"is_truncated\":null,\"result\":\"a\"\x7d".toList = some flags := by
    decide +kernel
  have range_flags : flags.InRange := Json.inRange_of_parse? json_flags
  obtain ⟨means, item, paths⟩ := paths_of_payload range
  obtain ⟨-, paths⟩ := paths text json
  have read : Payload.read v = .error (.api 0 "") := by decide +kernel
  have address : T.address url =
      .ok ⟨false, .v4 2130706433, some 8080, "/chat/eb-instant", none, none⟩ := by decide +kernel
  have sent (stream : Bool) :
      T.send (r stream) url w = (.ok response, (T.send (r stream) url w).2) := by
    rw [send, address]
    rfl
  have body : response.text = .ok text := by decide +kernel
  have answer (stream : Bool) := paths T (r stream) url w _ response (sent stream) body
  -- an error has no contents that could be lost
  have refused (o : Except Error Envelope) (h : o.map Envelope.contents = Payload.read v) :
      o = .error (.api 0 "") := by
    rw [read] at h
    cases o with
    | ok e => cases h
    | error e =>
        cases h
        rfl
  refine ⟨range, (means _).1 read, ?_, refused _ (item response {}), ?_, range_flags, ?_⟩
  · obtain ⟨o, single, contents⟩ := (answer false).1
    rw [single]
    exact refused o contents
  · intro g
    obtain ⟨e, opened, api⟩ := (answer true).2 (by decide +kernel) g
    rw [opened, (api 0 "").2 ((means _).1 read)]
  · exact ((paths_of_payload range_flags).1 _).1 (by decide +kernel)

end Http.Transport

end ChatClient
