import ChatClient.Proofs.Http.Groups

/-!
# Responses that report no success

A status below 200 or from 300 on is a refusal, whatever the header fields and the body of its
response (`Http.Response.IsRefusal`). Its error carries the status, the code of the gateway and what
gateway and body say (`Http.Response.Refuses`), and it is no error that another attempt may mend. So
a refusal is the last attempt of its call and makes the outcome, and every reply comes from a
response that is none (`Http.Transport.refusal_is_final`).

The other statuses report success, and not 200 alone: an envelope may come with status 201
(`Http.Transport.invoke_created`).
-/

namespace ChatClient

/-- A run that succeeds has the result of one of its attempts. -/
theorem RetryPolicy.exists_attempt_of_ok {σ α : Type} {p : RetryPolicy} {chance : Nat → Float}
    {attempt : World σ → Except Error α × World σ} {n : Nat} {w w' : World σ} {a : α}
    (h : p.run chance attempt n w = (.ok a, w')) : ∃ v, attempt v = (.ok a, w') := by
  -- an attempt that another one follows has failed, so the success is that of the rest of the run
  fun_induction run p chance attempt n w with
  | case1 n w b v made =>
      cases h
      exact ⟨w, made⟩
  | case2 n w e v made d _ ih => exact ih h
  | case3 => cases h

/-- A server that has given one response has the others left. -/
theorem Http.Server.Gives.of_one {s s' : Http.Server} {response : Option Http.Response}
    (h : s.Gives [response] s') : s' = s.next.2 := by
  cases h with
  | cons _ rest =>
      cases rest
      rfl

/-- The envelopes of a reply; those of a stream are among its items. -/
def Reply.envelopes : Reply (List Item) → List Envelope
  | .single e => [e]
  | .stream items => Continuation.envelopes items

namespace Http

namespace Response

variable {r : Response}

/-- The status of the response reports no success. -/
def IsRefusal (r : Response) : Prop := r.status < 200 ∨ 300 ≤ r.status

theorem isSuccess_iff : r.isSuccess = true ↔ 200 ≤ r.status ∧ r.status < 300 := by
  rw [isSuccess, Bool.and_eq_true, decide_eq_true_eq, decide_eq_true_eq]

theorem isSuccess_iff_not_isRefusal : r.isSuccess = true ↔ ¬r.IsRefusal := by
  rw [isSuccess_iff, IsRefusal]
  omega

/-- What can be read of the body: nothing if it breaks off. -/
def legible (r : Response) : String :=
  match r.text with
  | .ok text => text
  | .error _ => ""

/-- What a refusal says: the message of the gateway and the body, or the one of the two that there
is. -/
inductive Tells (r : Response) : String → Prop
  | body (silent : Headers.get? "x-bce-error-message" r.headers = none) : Tells r r.legible
  | gateway {message : String} (empty : r.legible = "")
      (said : Headers.get? "x-bce-error-message" r.headers = some message) : Tells r message
  | both {message : String} (more : r.legible ≠ "")
      (said : Headers.get? "x-bce-error-message" r.headers = some message) :
      Tells r (message ++ " (" ++ r.legible ++ ")")

/-- The error of a refusal: its status, the code of the gateway if there is one, and what the two
say. -/
inductive Refuses (r : Response) : Error → Prop
  | request {message : String} (told : r.Tells message) :
      Refuses r (.request r.status (Headers.get? "x-bce-error-code" r.headers) message)

theorem refuses_statusError (r : Response) :
    r.Refuses (Payload.statusError r.status r.headers r.legible) := by
  apply Refuses.request
  cases said : Headers.get? "x-bce-error-message" r.headers with
  | none => exact .body said
  | some message =>
      dsimp only
      split
      · next empty => exact .gateway empty said
      · next more => exact .both more said

/-- No other attempt can mend a refusal. -/
theorem Refuses.not_retryable {codes : CodeSet} {e : Error} (h : r.Refuses e) :
    ¬e.Retryable codes := by
  intro retryable
  cases h
  cases retryable

end Response

/-- An attempt that a refusal answers has failed with its error, for a stream as for any other
call. -/
theorem Attempt.verdict_of_refusal {response : Response} (refusal : response.IsRefusal)
    (m : Message) (stream : Bool) :
    ∃ e, (sent m (some response)).verdict stream = .error e ∧ response.Refuses e := by
  refine ⟨_, ?_, response.refuses_statusError⟩
  have failed : ¬response.isSuccess = true := by
    rw [Response.isSuccess_iff_not_isRefusal]
    exact not_not_intro refusal
  rw [verdict, head, Transport.judge, if_neg failed]
  rfl

/-- An attempt that is a success has got a response that is no refusal. -/
theorem Attempt.exists_response_of_verdict {a : Attempt} {stream : Bool}
    (h : a.verdict stream = .ok ()) :
    ∃ m response, a = sent m (some response) ∧ ¬response.IsRefusal := by
  rcases a with e | ⟨m, _ | response⟩
  · cases h
  · cases h
  · refine ⟨m, response, rfl, ?_⟩
    intro refusal
    obtain ⟨e, failed, -⟩ := verdict_of_refusal refusal m stream
    cases failed.symm.trans h

namespace Transport

section Groups

variable {t : Transport} {r : Request} {o : Outcome} {as : List Attempt}

/-- In the attempts of a call a refusal is the last one, and the call has failed with its error. -/
theorem Group.of_refusal (group : t.Group r o as) {response : Response}
    (refusal : response.IsRefusal) {before after : List Attempt} {m : Message}
    (split : as = before ++ .sent m (some response) :: after) :
    after = [] ∧ ∃ e, o = .error e ∧ response.Refuses e := by
  obtain ⟨e, failed, refuses⟩ := Attempt.verdict_of_refusal refusal m r.stream
  cases group with
  | unresolved => cases List.append_eq_nil_iff.1 split.symm |>.2
  | @attempted url _ earlier last resolved series outcome =>
      rcases split_concat split with ⟨rfl, rfl⟩ | ⟨after, rfl⟩
      · refine ⟨?_, e, ?_, refuses⟩
        · exact (List.cons.inj (List.append_cancel_left split)).2.symm
        · rw [failed] at outcome
          cases o with
          | error e' => exact congrArg _ (Except.error.inj outcome)
          | ok reply => cases outcome
      · -- an earlier attempt would have failed in a way that another attempt may mend
        have member : Attempt.sent m (some response) ∈
            before ++ Attempt.sent m (some response) :: after :=
          List.mem_append_right _ List.mem_cons_self
        obtain ⟨e', failed', retryable⟩ := series.failed _ member
        cases failed.symm.trans failed'
        exact absurd retryable refuses.not_retryable

/-- The attempts of a call that is answered end with a response that is no refusal. -/
theorem Group.exists_response {reply : Reply (List Item)} (group : t.Group r (.ok reply) as) :
    ∃ before m response, as = before ++ [.sent m (some response)] ∧ ¬response.IsRefusal := by
  cases group with
  | @attempted url _ earlier last resolved series outcome =>
      obtain ⟨m, response, rfl, success⟩ := Attempt.exists_response_of_verdict outcome.symm
      exact ⟨earlier, m, response, rfl, success⟩

/-- If the call has an address, the first attempt sends its message there and gets what the server
has next. -/
theorem Group.exists_first (group : t.Group r o as) {url : String} {u : Url}
    (resolved : t.url r = .ok url) (address : t.address url = .ok u) {w w' : World Server}
    (made : Made w as w') :
    ∃ serial later, as = .sent (t.message r u serial) w.supplier.next.1 :: later := by
  cases group with
  | unresolved nowhere => cases nowhere.symm.trans resolved
  | @attempted url' _ earlier last resolved' series outcome =>
      cases resolved.symm.trans resolved'
      -- whatever attempt comes first, it takes the response that the server has next
      obtain ⟨a, later, attempts⟩ :=
        List.exists_cons_of_ne_nil
          (List.append_ne_nil_of_right_ne_nil earlier (List.cons_ne_nil _ _))
      have makes := series.made a
      rw [attempts] at makes made ⊢
      cases makes List.mem_cons_self with
      | unsent nowhere => cases address.symm.trans nowhere
      | @sent u' there serial response =>
          cases address.symm.trans there
          have given := made.responses
          rw [List.filterMap_cons] at given
          cases given with
          | cons _ rest => exact ⟨serial, later, rfl⟩

end Groups

/-! ## The envelopes of a call -/

section Envelopes

variable {t : Transport} {g : Regime} {r : Request} {url : String} {w w' : World Server}

/-- A response that is accepted has a status of success. -/
theorem success_of_send {response : Response} (sent : t.send r url w = (.ok response, w')) :
    200 ≤ response.status ∧ response.status < 300 := by
  obtain ⟨a, -, -, head⟩ := t.exists_send r url w
  rw [sent] at head
  rcases a with e | ⟨m, _ | answer⟩
  · cases head
  · cases head
  · obtain ⟨success, rfl⟩ := judge_iff.1 head.symm
    exact Response.isSuccess_iff.1 success

/-- An envelope has the status of the response that it is made from. -/
theorem status_of_label {response : Response} {s : Statistics} {read : Except Error Envelope}
    {e : Envelope} (labelled : read.map (label response s) = .ok e) :
    e.status = response.status := by
  cases read with
  | error e' => cases labelled
  | ok e' =>
      cases labelled
      rfl

/-- A single reply that an attempt brings comes with a status of success. -/
theorem status_of_single {e : Envelope} (made : t.single r url w = (.ok e, w')) :
    200 ≤ e.status ∧ e.status < 300 := by
  rw [single] at made
  generalize sent : t.send r url w = result at made
  obtain ⟨_ | response, v⟩ := result
  · cases made
  · dsimp only at made
    split at made
    · cases made
    · have status := status_of_label (Prod.mk.inj made).1
      rw [status]
      exact success_of_send sent

/-- All envelopes made from events have the status of the response. -/
theorem status_of_itemsOf {response : Response} {now : Duration} {e : Envelope}
    (events : List Event) (timer : ChunkTimer)
    (made : .ok e ∈ itemsOf response now timer events) : e.status = response.status := by
  induction events generalizing timer with
  | nil => cases made
  | cons event events ih =>
      obtain ⟨later, split⟩ := exists_itemsOf_cons response now timer event events
      rw [split] at made
      rcases List.mem_cons.1 made with first | among
      · cases event with
        | error e' => cases first
        | ok payload => exact status_of_label first.symm
      · exact ih later among

/-- All envelopes in a stream that an attempt opens come with a status of success. -/
theorem status_of_openStream {items : List Item}
    (made : t.openStream g r url w = (.ok items, w')) :
    ∀ e ∈ Continuation.envelopes items, 200 ≤ e.status ∧ e.status < 300 := by
  intro e member
  obtain ⟨item, among, is_ok⟩ := List.mem_filterMap.1 member
  have same : item = .ok e := by
    cases item with
    | error e' => cases is_ok
    | ok e' => exact congrArg _ (Option.some.inj is_ok)
  rw [openStream] at made
  generalize sent : t.send r url w = result at made
  obtain ⟨_ | response, v⟩ := result
  · cases made
  · dsimp only at made
    split at made
    · split at made
      · cases made
      · cases made
    · -- all items of the stream are made from one response
      cases made
      rw [same] at among
      rw [status_of_itemsOf _ _ among]
      exact success_of_send sent

end Envelopes

/-- All envelopes of a reply come with a status of success. -/
theorem status_of_invoke {t : Transport} {g : Regime} {r : Request} {w : World Server}
    {reply : Reply (List Item)} (answered : (t.invoke g r w).1 = .ok reply) :
    ∀ e ∈ reply.envelopes, 200 ≤ e.status ∧ e.status < 300 := by
  rw [invoke] at answered
  cases resolved : t.url r with
  | error e =>
      rw [resolved] at answered
      cases answered
  | ok url =>
      rw [resolved] at answered
      dsimp only at answered
      -- a run that succeeds has the result of an attempt
      split at answered
      · generalize made : (t.policy r).run t.chance (t.openStream g r url) 0 w = result at answered
        obtain ⟨_ | items, v⟩ := result
        · cases answered
        · cases answered
          obtain ⟨_, opened⟩ := RetryPolicy.exists_attempt_of_ok made
          exact status_of_openStream opened
      · generalize made : (t.policy r).run t.chance (t.single r url) 0 w = result at answered
        obtain ⟨_ | e, v⟩ := result
        · cases answered
        · cases answered
          obtain ⟨_, single⟩ := RetryPolicy.exists_attempt_of_ok made
          exact List.forall_mem_singleton.2 (status_of_single single)

/-! ## Refusals -/

/-- A call whose first response is a refusal fails with its error, whatever the header fields and
the body of the response, in both regimes, for a stream as for any other call and with any number of
attempts allowed. It makes no other attempt: one message is sent and one response taken.

In any other call too a refusal is the last of the attempts and makes the outcome. So a reply comes
from a response that is none, and all its envelopes have a status of success. -/
theorem refusal_is_final (t : Transport) (g : Regime) (r : Request) (w : World Server) :
    let outcome := (t.invoke g r w).1
    let w' := (t.invoke g r w).2
    (∀ url u response, t.url r = .ok url → t.address url = .ok u →
      w.supplier.next.1 = some response → response.IsRefusal →
        (∃ e, outcome = .error e ∧ response.Refuses e) ∧
        (∃ serial, w'.messages = w.messages ++ [t.message r u serial]) ∧
        w'.supplier = w.supplier.next.2) ∧
    ∃ as, t.Group r outcome as ∧ Made w as w' ∧
      (∀ response, response.IsRefusal → ∀ before m after,
        as = before ++ .sent m (some response) :: after →
          after = [] ∧ ∃ e, outcome = .error e ∧ response.Refuses e) ∧
      ∀ reply, outcome = .ok reply →
        (∃ before m response, as = before ++ [.sent m (some response)] ∧ ¬response.IsRefusal) ∧
        ∀ e ∈ reply.envelopes, 200 ≤ e.status ∧ e.status < 300 := by
  intro outcome w'
  obtain ⟨as, group, made⟩ := t.exists_group g r w
  refine ⟨?_, as, group, made, ?_, ?_⟩
  · intro url u response resolved address answer refusal
    obtain ⟨serial, later, rfl⟩ := group.exists_first resolved address made
    rw [answer] at group made
    -- the first attempt is the last one
    obtain ⟨rfl, failed⟩ := group.of_refusal refusal (List.nil_append _).symm
    refine ⟨failed, ⟨serial, made.messages⟩, ?_⟩
    exact made.responses.of_one
  · intro response refusal before m after split
    exact group.of_refusal refusal split
  · intro reply answered
    have answers : t.Group r (.ok reply) as := by
      rw [← answered]
      exact group
    exact ⟨answers.exists_response, status_of_invoke answered⟩

/-- With status 500 the payload of an envelope is no reply. Three attempts are allowed and one is
made; the server keeps what it has next. -/
theorem refusal_is_final_of_payload :
    let t : Transport := .ofSettings {}
    let u : Url :=
      { secure := true
        host := .name "aip.baidubce.com"
        port := none
        path := "/rpc/2.0/ai_custom/v1/wenxinworkshop/chat/eb-instant"
        query := none }
    let payload := "\x7b\"result\":\"a\",\"is_truncated\":false\x7d"
    let response : Response :=
      ⟨500, [Headers.field "Content-Type" (Utf8.encode "application/json".toList),
        Headers.field "X-Bce-Error-Code" (Utf8.encode "336000".toList),
        Headers.field "X-Bce-Error-Message" (Utf8.encode "busy".toList)],
        { pieces := [Utf8.encode payload.toList] }⟩
    let w : World Server := { supplier := [some response, none] }
    ∀ (g : Regime) (stream : Bool),
      let r : Request := { stream, options := { retryCount := 3 } }
      (t.url r = .ok u.text ∧ t.address u.text = .ok u ∧ response.IsRefusal) ∧
      (t.invoke g r w).1 =
        .error (.request 500 (some "336000") ("busy" ++ " (" ++ payload ++ ")" : String)) ∧
      (t.invoke g r w).2.messages.length = 1 ∧ (t.invoke g r w).2.supplier = [none] := by
  intro t u payload response w g stream r
  have joined : t.baseUrl ++ "/chat/eb-instant" = u.text := by decide +kernel
  have resolved : t.url r = .ok u.text := congrArg Except.ok joined
  have address : t.address u.text = .ok u :=
    address_of_parse? (by decide +kernel) rfl (by decide +kernel) rfl
  have refusal : response.IsRefusal := .inr (by decide)
  have legible : response.legible = payload := by decide +kernel
  have code : Headers.get? "x-bce-error-code" response.headers = some "336000" := by decide +kernel
  have message : Headers.get? "x-bce-error-message" response.headers = some "busy" := by
    decide +kernel
  obtain ⟨⟨e, failed, refuses⟩, ⟨serial, messages⟩, supplier⟩ :=
    (t.refusal_is_final g r w).1 u.text u response resolved address rfl refusal
  refine ⟨⟨resolved, address, refusal⟩, ?_, ?_, supplier⟩
  · rw [failed]
    cases refuses with
    | request told =>
        rw [code]
        -- gateway and body both have something to tell
        cases told with
        | body silent => cases silent.symm.trans message
        | gateway empty said =>
            rw [legible] at empty
            exact absurd empty (by decide)
        | both more said =>
            cases said.symm.trans message
            rw [legible]
  · rw [messages]
    rfl

/-- With status 201 the same payload is a reply. -/
theorem invoke_created :
    let t : Transport := .ofSettings { baseUrl := "http://127.0.0.1:8080" }
    let url := "http://127.0.0.1:8080/chat/eb-instant"
    let u : Url := ⟨false, .v4 2130706433, some 8080, "/chat/eb-instant", none, none⟩
    let text := "\x7b\"result\":\"a\",\"is_truncated\":false\x7d"
    let response : Response :=
      ⟨201, [Headers.field "Content-Type" (Utf8.encode "application/json".toList)],
        { pieces := [Utf8.encode text.toList] }⟩
    let r : Request := {}
    let w : World Server := { supplier := [some response] }
    (response.status ≠ 200 ∧ t.url r = .ok url ∧ t.address url = .ok u) ∧
      ∃ e, (t.invoke .async r w).1 = .ok (.single e) ∧ e.status = 201 ∧ e.result = "a" := by
  intro t url u text response r w
  have resolved : t.url r = .ok url := rfl
  have address : t.address url = .ok u :=
    address_of_parse? (by decide +kernel) rfl (by decide +kernel) rfl
  have sent : t.send r url w = (.ok response, t.answered r u w []) :=
    send_of_success address rfl rfl
  have body : response.text = .ok text := by decide +kernel
  have json : Json.parse? text.toList =
      some (.object [("is_truncated", .bool false), ("result", .string "a")]) := by decide +kernel
  have said : Piece.SaidBy [("is_truncated", .bool false), ("result", .string "a")] ⟨"a", false⟩ :=
    ⟨rfl, rfl, rfl, by decide⟩
  obtain ⟨e, read, piece⟩ := Payload.read_of_said said
  have single : t.single r url w =
      (.ok (label response (statistics w.clock w.clock) e), t.answered r u w []) := by
    rw [Transport.single, sent]
    dsimp only
    rw [body]
    dsimp only
    rw [Payload.readText_of_json json, read]
    rfl
  refine ⟨⟨by decide, resolved, address⟩, label response (statistics w.clock w.clock) e, ?_, rfl,
    congrArg Piece.text piece⟩
  rw [invoke, resolved]
  dsimp only
  rw [if_neg (by decide), RetryPolicy.run_of_ok single]

end Transport

end Http

end ChatClient
