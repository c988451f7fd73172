import ChatClient.Proofs.Http.Streaming
import ChatClient.Proofs.Message.Wire
import ChatClient.Proofs.Retry.Attempts
import ChatClient.Proofs.Session.Calls

/-!
# Which requests are sent

A call is answered by a group of attempts. They go to the same address with the same body, each but
the last has failed in a way that another attempt may mend, and the last one is final
(`Http.Transport.Series`, `Http.Transport.Group`). What the attempts leave in a world are their
messages, and they take the responses of the server one by one (`Http.Made`); both add up, so a
whole completion leaves the messages of its groups, one group for each call
(`Http.Transport.attempts_grouped`).

A call whose model leads to no URL is answered without an attempt
(`Http.Transport.no_attempt_for_unknown_model`).
-/

namespace ChatClient

namespace RetryPolicy

variable {α β : Type}

/-- Whether an attempt is final depends on its error only. -/
theorem final_map_iff {codes : CodeSet} {bound i : Nat} {o : Except Error α} (f : α → β) :
    Final codes bound i (o.map f) ↔ Final codes bound i o := by
  cases o with
  | ok a => exact ⟨fun _ => .success a, fun _ => .success (f a)⟩
  | error e =>
      constructor
      · rintro (_ | h | ⟨_, h⟩)
        · exact .hopeless h
        · exact .last e h
      · rintro (_ | h | ⟨_, h⟩)
        · exact .hopeless h
        · exact .last e h

end RetryPolicy

namespace Http

open RetryPolicy (Final)

/-- One attempt at a call: it stays unsent, or its message is sent and gets a response or none. -/
inductive Attempt where
  | unsent (e : Error)
  | sent (message : Message) (response : Option Response)

/-- What else than success a call asks of a response. A stream must not come as JSON, and the body
of any other must be JSON that says an envelope. -/
def Response.accept (stream : Bool) (r : Response) : Except Error Unit :=
  if stream then
    if Headers.isJson r.headers then
      match r.text with
      | .error e => .error e
      | .ok text => .error (Payload.unexpectedJson r.status text)
    else .ok ()
  else
    match r.text with
    | .error e => .error e
    | .ok text => (Payload.readText r.status text).map fun _ => ()

/-- A stream is accepted just if it is not JSON. -/
theorem Response.accept_stream_iff {r : Response} :
    r.accept true = .ok () ↔ Headers.isJson r.headers = false := by
  rw [accept, if_pos rfl]
  constructor
  · intro accepted
    split at accepted
    · -- whatever the text, it is not what was asked for
      cases text : r.text with
      | error e =>
          rw [text] at accepted
          cases accepted
      | ok s =>
          rw [text] at accepted
          cases accepted
    · next plain => exact Bool.eq_false_iff.2 plain
  · intro plain
    rw [plain]
    rfl

theorem Transport.judge_iff {r r' : Response} :
    judge r = .ok r' ↔ r.isSuccess = true ∧ r = r' := by
  rw [judge]
  constructor
  · intro judged
    split at judged
    · next success => exact ⟨success, Except.ok.inj judged⟩
    · cases judged
  · rintro ⟨success, rfl⟩
    rw [if_pos success]

namespace Attempt

/-- The message of the attempt, if it was sent. -/
def message? : Attempt → Option Message
  | .unsent _ => none
  | .sent m _ => some m

/-- What the server had for the message. -/
def response? : Attempt → Option (Option Response)
  | .unsent _ => none
  | .sent _ r => some r

/-- The response that reports success, or the error. -/
def head : Attempt → Except Error Response
  | .unsent e => .error e
  | .sent _ none => .error (.transport .noAnswer)
  | .sent _ (some r) => Transport.judge r

/-- The attempt was a success, or has failed with an error. -/
def verdict (stream : Bool) (a : Attempt) : Except Error Unit :=
  match a.head with
  | .error e => .error e
  | .ok r => r.accept stream

/-- An attempt at a stream is a success just if a response reports success and is not JSON. What is
in its body does not matter. -/
theorem verdict_stream_iff {a : Attempt} :
    a.verdict true = .ok () ↔ ∃ m r, a = .sent m (some r) ∧ r.isSuccess = true ∧
      Headers.isJson r.headers = false := by
  constructor
  · intro accepted
    rcases a with e | ⟨m, _ | r⟩
    · cases accepted
    · cases accepted
    · refine ⟨m, r, rfl, ?_⟩
      rw [verdict, head] at accepted
      split at accepted
      · cases accepted
      · next judged =>
        obtain ⟨success, rfl⟩ := Transport.judge_iff.1 judged
        exact ⟨success, Response.accept_stream_iff.1 accepted⟩
  · rintro ⟨m, r, rfl, success, plain⟩
    have judged : Transport.judge r = .ok r := Transport.judge_iff.2 ⟨success, rfl⟩
    rw [verdict, head, judged]
    exact Response.accept_stream_iff.2 plain

end Attempt

/-! ## Worlds -/

/-- The server gives these responses, in order, and has those of the other one left. -/
inductive Server.Gives : Server → List (Option Response) → Server → Prop
  | nil (s : Server) : Gives s [] s
  | cons (s : Server) {rs : List (Option Response)} {s' : Server} (rest : Gives s.next.2 rs s') :
      Gives s (s.next.1 :: rs) s'

theorem Server.Gives.append {s s' s'' : Server} {rs rs' : List (Option Response)}
    (h : s.Gives rs s') (later : s'.Gives rs' s'') : s.Gives (rs ++ rs') s'' := by
  induction h with
  | nil s => exact later
  | cons s rest ih => exact .cons s (ih later)

/-- Between the two worlds just these attempts were made: their messages were sent, and the server
has given their responses. -/
structure Made (w : World Server) (as : List Attempt) (w' : World Server) : Prop where
  messages : w'.messages = w.messages ++ as.filterMap Attempt.message?
  responses : w.supplier.Gives (as.filterMap Attempt.response?) w'.supplier

namespace Made

variable {w v w' : World Server} {as bs : List Attempt}

theorem nil (w : World Server) : Made w [] w where
  messages := (List.append_nil _).symm
  responses := .nil _

theorem append (h : Made w as v) (later : Made v bs w') : Made w (as ++ bs) w' where
  messages := by rw [later.messages, h.messages, List.append_assoc, List.filterMap_append]
  responses := by
    rw [List.filterMap_append]
    exact h.responses.append later.responses

theorem note (h : Made w as v) (n : Notice) : Made w as (v.note n) := ⟨h.messages, h.responses⟩

theorem wait (h : Made w as v) (d : Duration) : Made w as (v.wait d) := ⟨h.messages, h.responses⟩

theorem concluded {α : Type} {o : Except Error α} (h : Made w as v) (i : Nat) :
    Made w as (RetryPolicy.concluded i (o, v)) := by
  cases o with
  | ok a => exact h
  | error e => exact h.note _

theorem resumed (h : Made w as v) (p : RetryPolicy) (chance : Nat → Float) (i : Nat) :
    Made w as (p.resumed chance i v) :=
  (h.note _).wait _

end Made

/-! ## The attempts of a call -/

namespace Transport

/-- An attempt at the call by that URL. -/
inductive Makes (t : Transport) (r : Request) (url : String) : Attempt → Prop
  | unsent {e : Error} (address : t.address url = .error e) : Makes t r url (.unsent e)
  | sent {u : Url} (address : t.address url = .ok u) (serial : Nat) (response : Option Response) :
      Makes t r url (.sent (t.message r u serial) response)

/-- Attempts at the call from number `first` on. After each of the earlier ones another attempt is
allowed and worth while, and after the last one it is not. -/
structure Series (t : Transport) (r : Request) (url : String) (first : Nat)
    (earlier : List Attempt) (last : Attempt) : Prop where
  made : ∀ a ∈ earlier ++ [last], t.Makes r url a
  allowed : first + earlier.length < max r.options.retryCount 1
  failed : ∀ a ∈ earlier, ∃ e, a.verdict r.stream = .error e ∧ e.Retryable t.retryCodes
  final : Final t.retryCodes (max r.options.retryCount 1) (first + earlier.length)
    (last.verdict r.stream)

/-- The attempts that answer a call with an outcome. -/
inductive Group (t : Transport) (r : Request) : Outcome → List Attempt → Prop
  | unresolved {e : Error} (nowhere : t.url r = .error e) : Group t r (.error e) []
  | attempted {url : String} {o : Outcome} {earlier : List Attempt} {last : Attempt}
      (resolved : t.url r = .ok url) (series : t.Series r url 0 earlier last)
      (outcome : (o.map fun _ => ()) = last.verdict r.stream) : Group t r o (earlier ++ [last])

section Calls

variable (t : Transport) (r : Request) (url : String)

theorem exists_send (w : World Server) :
    ∃ a, t.Makes r url a ∧ Made w [a] (t.send r url w).2 ∧ (t.send r url w).1 = a.head := by
  cases address : t.address url with
  | error e =>
      have unsent : t.send r url w = (.error e, w.note (.sending r.stream)) := by
        simp only [send, address]
      rw [unsent]
      have noted := (Made.nil w).note (.sending r.stream)
      exact ⟨.unsent e, .unsent address, ⟨noted.messages, noted.responses⟩, rfl⟩
  | ok u =>
      have sent : t.send r url w =
          ((Attempt.sent (t.message r u w.serial) w.supplier.next.1).head,
            (t.sendMessage r u (w.note (.sending r.stream))).withSupplier w.supplier.next.2) := by
        have supplier : (t.sendMessage r u (w.note (.sending r.stream))).supplier = w.supplier := rfl
        simp only [send, address]
        rw [supplier]
        cases w.supplier.next.1 with
        | none => rfl
        | some response => rfl
      rw [sent]
      refine ⟨_, .sent address _ _, ⟨?_, .cons w.supplier (.nil _)⟩, rfl⟩
      exact (w.note (.sending r.stream)).messages_sent (t.message r u w.serial)

/-- The function makes one attempt at the call, whose verdict is that of its result. -/
def Tries {α : Type} (attempt : World Server → Except Error α × World Server) : Prop :=
  ∀ w, ∃ a, t.Makes r url a ∧ Made w [a] (attempt w).2 ∧
    ((attempt w).1.map fun _ => ()) = a.verdict r.stream

theorem tries_single (single : r.stream = false) : t.Tries r url (t.single r url) := by
  intro w
  obtain ⟨a, makes, made, head⟩ := t.exists_send r url w
  refine ⟨a, makes, ?_⟩
  rw [Transport.single, Attempt.verdict, ← head, single]
  generalize t.send r url w = result at made
  obtain ⟨response, v⟩ := result
  cases response with
  | error e => exact ⟨made, rfl⟩
  | ok response =>
      dsimp only [Response.accept]
      cases response.text with
      | error e => exact ⟨made, rfl⟩
      | ok text =>
          refine ⟨made, ?_⟩
          dsimp only
          cases Payload.readText response.status text with
          | error e => rfl
          | ok e => rfl

theorem tries_openStream (g : Regime) (stream : r.stream = true) :
    t.Tries r url (t.openStream g r url) := by
  intro w
  obtain ⟨a, makes, made, head⟩ := t.exists_send r url w
  refine ⟨a, makes, ?_⟩
  rw [openStream, Attempt.verdict, ← head, stream]
  generalize t.send r url w = result at made
  obtain ⟨response, v⟩ := result
  cases response with
  | error e => exact ⟨made, rfl⟩
  | ok response =>
      dsimp only [Response.accept]
      cases Headers.isJson response.headers with
      | false => exact ⟨made, rfl⟩
      | true =>
          cases response.text with
          | error e => exact ⟨made, rfl⟩
          | ok text => exact ⟨made, rfl⟩

end Calls

section Runs

variable {t : Transport} {r : Request} {url : String} {α : Type}
  {attempt : World Server → Except Error α × World Server}

/-- A run makes a series of attempts, and its result is that of the last one. -/
theorem Tries.exists_series (tries : t.Tries r url attempt) {first : Nat}
    (left : first < max r.options.retryCount 1) (w : World Server) :
    ∃ earlier last, t.Series r url first earlier last ∧
      Made w (earlier ++ [last]) ((t.policy r).run t.chance attempt first w).2 ∧
      (((t.policy r).run t.chance attempt first w).1.map fun _ => ()) = last.verdict r.stream := by
  -- a final attempt is the last one; after any other there is one attempt less to be made
  obtain ⟨a, makes, made, verdict⟩ := tries w
  by_cases final : Final t.retryCodes (max r.options.retryCount 1) first (attempt w).1
  · refine ⟨[], a, ⟨?_, left, List.forall_mem_nil _, ?_⟩, ?_⟩
    · exact List.forall_mem_singleton.2 makes
    · rw [← verdict, RetryPolicy.final_map_iff]
      exact final
    · rw [RetryPolicy.run_of_final t.chance final]
      exact ⟨made.concluded first, verdict⟩
  · obtain ⟨e, failed, retryable, left'⟩ := RetryPolicy.not_final_iff.1 final
    obtain ⟨earlier, last, series, later, outcome⟩ :=
      tries.exists_series left' ((t.policy r).resumed t.chance first (attempt w).2)
    rw [RetryPolicy.run_of_not_final t.chance final]
    refine ⟨a :: earlier, last, ⟨?_, ?_, ?_, ?_⟩, ?_, outcome⟩
    · exact List.forall_mem_cons.2 ⟨makes, series.made⟩
    · have allowed := series.allowed
      rw [List.length_cons]
      omega
    · refine List.forall_mem_cons.2 ⟨⟨e, ?_, retryable⟩, series.failed⟩
      rw [← verdict, failed]
      rfl
    · have shifted : first + (a :: earlier).length = first + 1 + earlier.length := by
        rw [List.length_cons]
        omega
      rw [shifted]
      exact series.final
    · exact (made.resumed _ _ _).append later
termination_by max r.options.retryCount 1 - first

/-- The attempts of a run answer the call with its result. -/
theorem Tries.exists_group (tries : t.Tries r url attempt) (resolved : t.url r = .ok url)
    (reply : α → Reply (List Item)) (w : World Server) :
    let result := (t.policy r).run t.chance attempt 0 w
    ∃ as, t.Group r (result.1.map reply) as ∧ Made w as result.2 := by
  intro result
  have allowed : 0 < max r.options.retryCount 1 :=
    Nat.lt_of_lt_of_le Nat.one_pos (Nat.le_max_right _ 1)
  obtain ⟨earlier, last, series, made, outcome⟩ := tries.exists_series allowed w
  have same : ((result.1.map reply).map fun _ => ()) = result.1.map fun _ => () := by
    cases result.1 with
    | error e => rfl
    | ok a => rfl
  exact ⟨earlier ++ [last], .attempted resolved series (same.trans outcome), made⟩

end Runs

/-- A call of the executor makes the attempts of a group that answers it. -/
theorem exists_group (t : Transport) (g : Regime) (r : Request) (w : World Server) :
    ∃ as, t.Group r (t.invoke g r w).1 as ∧ Made w as (t.invoke g r w).2 := by
  rw [invoke]
  cases resolved : t.url r with
  | error e => exact ⟨[], .unresolved resolved, .nil w⟩
  | ok url =>
      dsimp only
      split
      · next stream =>
        have group := (t.tries_openStream r url g stream).exists_group resolved .stream w
        generalize (t.policy r).run t.chance (t.openStream g r url) 0 w = result at group ⊢
        obtain ⟨_ | items, v⟩ := result
        · exact group
        · exact group
      · next single =>
        have group := (t.tries_single r url (Bool.eq_false_iff.2 single)).exists_group resolved
          .single w
        generalize (t.policy r).run t.chance (t.single r url) 0 w = result at group ⊢
        obtain ⟨_ | e, v⟩ := result
        · exact group
        · exact group

end Transport

/-! ## The calls of a completion -/

open Continuation (turns texts Warrants)

/-- Each call has a group, and the groups make up the attempts so far. -/
def Grouped (t : Transport) (w : World Server) (v : World (Server × Log)) : Prop :=
  ∃ groups : List (List Attempt),
    List.Forall₂ (fun call as => t.Group call.1 call.2 as) v.log.calls groups ∧
      Made w groups.flatten v.unlogged

theorem Transport.keeps_grouped (t : Transport) (g : Regime) (w : World Server) :
    Client.Keeps t.executor g (Grouped t w) where
  note := by
    rintro v ⟨groups, answered, made⟩ n
    exact ⟨groups, answered, made.note n⟩
  call := by
    rintro v ⟨groups, answered, made⟩ r
    obtain ⟨as, group, later⟩ := t.exists_group g r v.unlogged
    refine ⟨groups ++ [as], ?_, ?_⟩
    · show List.Forall₂ _ (Log.calls (v.log ++ [.called r (t.invoke g r v.unlogged).1])) _
      rw [Log.calls_append, Log.calls_called]
      exact List.rel_append answered (.cons group .nil)
    · rw [List.flatten_append, List.flatten_singleton]
      exact made.append later
  pull := by
    rintro v ⟨groups, answered, made⟩ item
    refine ⟨groups, ?_, made⟩
    show List.Forall₂ _ (Log.calls (v.log ++ [.pulled item])) _
    rw [Log.calls_append, Log.calls_pulled, List.append_nil]
    exact answered

/-- The body of a call with another conversation differs in the conversation only. -/
theorem get?_body_of_messages (first : Request) (messages : Conversation) :
    let r := { first with messages }
    r.body.get? "messages" = some (.array messages.toRecords) ∧
      ∀ key, key ≠ "messages" → r.body.get? key = first.body.get? key := by
  intro r
  constructor
  · rw [Request.get?_body, if_neg (by decide), if_pos rfl]
  · intro key other
    rw [Request.get?_body, Request.get?_body, if_neg other.symm, if_neg other.symm]

namespace Transport

/-- The attempts of a completion, up to any item of its stream and whatever the server does. They
fall into groups, one after the other, each of which answers a call: its attempts go to the same
address with the same body, and it ends with its first success, its first failure that another
attempt cannot mend, or the last attempt allowed. What comes in a stream does not matter for that.

A completion of messages that are well formed begins with its call. Any other call repeats that one
with the turns for the texts of the calls before it, so that its body differs in the conversation
only. It is made only if the completion goes on by itself, after all that the calls before it have
brought was handed on, none of it an error, the last envelope truncated. -/
theorem attempts_grouped (t : Transport) {c : Client Server} (http : c.executor = t.executor)
    (g : Regime) (q : CompletionRequest) (native : c.alternateFor q.model = none) (n : Nat)
    (w : World Server) :
    ∃ groups : List (List Attempt),
      Made w groups.flatten (c.after g q n w) ∧
      List.Forall₂ (fun call as => t.Group call.1 call.2 as) (c.trace g q n w).calls groups ∧
      (c.trace g q n w).Patient ∧
      (∀ e, q.messages.normalize = .error e → (c.trace g q n w).calls = []) ∧
      ∀ conversation, q.messages.normalize = .ok conversation →
        (c.trace g q n w).calls ≠ [] ∧
        ∀ before r o after, (c.trace g q n w).calls = before ++ (r, o) :: after →
          let first := q.request conversation
          let messages := conversation ++ turns (texts before)
          r = { first with messages } ∧
            r.body.get? "messages" = some (.array messages.toRecords) ∧
            (∀ key, key ≠ "messages" → r.body.get? key = first.body.get? key) ∧
            (before ≠ [] → q.autoContinue = true ∧ Warrants before) := by
  -- that each call has its group is kept by whatever the client does
  have keeps : Client.Keeps c.executor g (Grouped t w) := by
    rw [http]
    exact t.keeps_grouped g w
  have start : Grouped t w (w.withLog []) := ⟨[], .nil, .nil w⟩
  obtain ⟨groups, answered, made⟩ := c.keeps_watched g q keeps native n w start
  rw [c.log_watched] at answered
  rw [c.unlogged_watched] at made
  refine ⟨groups, made, answered, c.patient_trace g q n w, ?_, ?_⟩
  · intro e malformed
    exact c.calls_of_error g q malformed n w
  · intro conversation normal
    have chain := c.chain_trace g q native normal n w
    refine ⟨chain.begun, ?_⟩
    intro before r o after split
    obtain ⟨rfl, warranted⟩ := chain.linked before r o after split
    obtain ⟨own, others⟩ :=
      get?_body_of_messages (q.request conversation) (conversation ++ turns (texts before))
    exact ⟨rfl, own, others, warranted⟩

/-- The first message is lost and sent again; the reply to it is cut short, so another call is
made. -/
theorem attempts_grouped_of_lost_message :
    let t : Transport := .ofSettings {}
    let c : Client Server := { settings := {}, executor := t.executor }
    let q : CompletionRequest := { messages := .typed [⟨.user, "hi"⟩],
                                   options := { retryCount := 2 }, autoContinue := true }
    let first := q.request [⟨.user, "hi"⟩]
    let second := q.request [⟨.user, "hi"⟩, ⟨.assistant, "a"⟩, ⟨.user, continuationPrompt⟩]
    let reply (truncated : String) : Response :=
      ⟨200, [], { pieces := [Utf8.encode
        ("\x7b\"result\":\"a\",\"is_truncated\":" ++ truncated ++ "\x7d").toList] }⟩
    let w : World Server := { supplier := [none, some (reply "true"), some (reply "false")] }
    c.executor = t.executor ∧ c.alternateFor q.model = none ∧
      (c.after .blocking q 0 w).messages.map Message.body =
        [first.body.render, first.body.render, second.body.render] ∧
      ∃ groups : List (List Attempt),
        Made w groups.flatten (c.after .blocking q 0 w) ∧
        List.Forall₂ (fun call as => t.Group call.1 call.2 as) (c.trace .blocking q 0 w).calls
          groups := by
  intro t c q first second reply w
  obtain ⟨groups, made, answered, -⟩ :=
    attempts_grouped t (c := c) rfl .blocking q rfl 0 w
  exact ⟨rfl, rfl, by decide +kernel, groups, made, answered⟩

/-- A call for a model that no endpoint is known of makes no attempt. No message is sent, the server
keeps its response, and the call has no group with an attempt in it. -/
theorem no_attempt_for_unknown_model :
    let t : Transport := .ofSettings { baseUrl := "http://127.0.0.1:8080" }
    let c : Client Server := { settings := {}, executor := t.executor }
    let q : CompletionRequest := { messages := .typed [⟨.user, "hi"⟩], model := some "nope" }
    let reply : Response :=
      ⟨200, [Headers.field "Content-Type" (Utf8.encode "application/json".toList)],
        { pieces := [Utf8.encode "\x7b\"result\":\"a\",\"is_truncated\":false\x7d".toList] }⟩
    let w : World Server := { supplier := [some reply] }
    (c.trace .async q 0 w).calls.length = 1 ∧
      (c.after .async q 0 w).messages = [] ∧ (c.after .async q 0 w).supplier = [some reply] ∧
      ¬∃ groups : List (List Attempt),
        List.Forall₂ (fun call as => t.Group call.1 call.2 as) (c.trace .async q 0 w).calls groups ∧
          ∀ as ∈ groups, 1 ≤ as.length := by
  intro t c q reply w
  have nowhere : t.url (q.request [⟨.user, "hi"⟩]) = .error (Catalog.unsupported "nope") := rfl
  have calls : (c.trace .async q 0 w).calls =
      [(q.request [⟨.user, "hi"⟩], .error (Catalog.unsupported "nope"))] := rfl
  refine ⟨rfl, rfl, rfl, ?_⟩
  rintro ⟨groups, answered, nonempty⟩
  rw [calls] at answered
  cases answered with
  | cons group rest =>
      cases group with
      | unresolved => exact absurd (nonempty [] List.mem_cons_self) (by decide)
      | attempted resolved => -- attempts need a URL
          cases nowhere.symm.trans resolved

end Transport

end Http

end ChatClient
