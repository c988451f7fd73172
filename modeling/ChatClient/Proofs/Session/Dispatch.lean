import ChatClient.Proofs.Message.Records
import ChatClient.Proofs.Session.Calls
import ChatClient.Proofs.Session.Modes

/-!
# Who answers a completion

A completion whose messages are refused reaches nobody. Otherwise it is one call of the backend or it
begins with a call of the executor, and never both. What the backend answers comes back as it is, and
so does what the executor answers unless the reply is to be continued; a reply of the wrong shape
cannot be (`Client.dispatch`).

What comes back as it is can be told from the trace: after the call nothing is seen but the items of
its stream (`handedOn`).
-/

namespace ChatClient

variable {σ : Type}

/-- What is seen of a reply that nobody continues, when `n` items are asked for: those of its stream,
and then that there are no more. -/
def handedOn (n : Nat) : Outcome → Log
  | .ok (.stream items) => (List.range n).map fun i => .pulled items[i]?
  | _ => []

theorem handedOn_succ (n : Nat) (items : List Item) :
    handedOn (n + 1) (.ok (.stream items)) =
      .pulled items.head? :: handedOn n (.ok (.stream items.tail)) := by
  rw [handedOn, List.range_succ_eq_map, List.map_cons, List.map_map]
  cases items <;> rfl

/-- A stream as it was brought hands on its items, and calls nobody. -/
theorem Feed.log_watch_plain (E : Executor (σ × Log)) (n : Nat) (items : List Item)
    (w : World (σ × Log)) :
    ((Feed.plain items).watch E n w).2.log = w.log ++ handedOn n (.ok (.stream items)) := by
  induction n generalizing items w with
  | zero => exact (List.append_nil _).symm
  | succ n ih =>
      have step : (Feed.plain items).watch E (n + 1) w =
          (Feed.plain items.tail).watch E n (w.observe (.pulled items.head?)) := by
        cases items <;> rfl
      have observed : (w.observe (.pulled items.head?)).log = w.log ++ [.pulled items.head?] := rfl
      rw [step, ih, observed, handedOn_succ, List.append_assoc, List.singleton_append]

/-- The reply does not have the shape that was asked for. -/
def Reply.Mismatched (reply : Reply (List Item)) (stream : Bool) : Prop :=
  (stream = true ∧ ∃ e, reply = .single e) ∨ (stream = false ∧ ∃ items, reply = .stream items)

namespace Client

variable (c : Client σ) (g : Regime) (q : CompletionRequest)

/-- A completion that reaches nobody. -/
structure Refuses (w : World σ) (e : Error) : Prop where
  kind : ∃ message context, e = .validation message context
  result : c.complete g q w = (.error e, w)
  seen : ∀ n, c.trace g q n w = []

/-- A completion that is one call of the backend, whose answer comes back as it is. -/
structure Delegates (w : World σ) (call : AlternateCall) (o : Outcome) : Prop where
  answered : ∃ B ∈ c.alternate, ∃ notices : List Notice,
    (B.create g call (notices.foldl World.note w)).1 = o
  result : (c.complete g q w).1 = o.map Reply.opened
  seen : ∀ n, c.trace g q n w = .delegated call o :: handedOn n o

/-- A completion that begins with a call of the executor and never calls the backend; `v` is the world
after the first call. -/
structure Invokes (w : World σ) (r : Request) (o : Outcome) (v : World σ) : Prop where
  answered : ∃ notices : List Notice,
    c.executor.invoke g r (notices.foldl World.note w) = (o, v)
  seen : ∀ n, ∃ later, c.trace g q n w = .called r o :: later ∧
    ∀ call answer, .delegated call answer ∉ later
  /-- Without continuation the answer comes back as it is. -/
  plain : q.autoContinue = false →
    (c.complete g q w).1 = o.map Reply.opened ∧
      ∀ n, c.trace g q n w = .called r o :: handedOn n o
  /-- With continuation an error comes back after the one call. -/
  failed : q.autoContinue = true → ∀ e, o = .error e →
    (c.complete g q w).1 = .error e ∧ ∀ n, c.trace g q n w = [.called r o]
  /-- With continuation a reply of the wrong shape is a breach of contract after the one call. -/
  mismatched : q.autoContinue = true → ∀ reply, o = .ok reply → reply.Mismatched q.stream →
    (∃ message context, (c.complete g q w).1 = .error (.contractViolation message context)) ∧
      ∀ n, c.trace g q n w = [.called r o]
  /-- A single reply of the right shape is continued. -/
  single : q.autoContinue = true → q.stream = false → ∀ e, o = .ok (.single e) →
    (c.complete g q w).1 =
      (Continuation.complete ⟨r, c.cap q⟩ c.executor g e v).1.map Reply.single
  /-- A stream of the right shape is continued. -/
  stream : q.autoContinue = true → q.stream = true → ∀ items, o = .ok (.stream items) →
    (c.complete g q w).1 = .ok (.stream (Continuation.feed ⟨r, c.cap q⟩ g items))

/-! ## Answers that come back as they are -/

theorem completeAlternate_eq (B : Backend σ) (r : Request) (w : World σ) :
    c.completeAlternate B g r w =
      ((B.create g (c.alternateCall r) (w.note (.delegating (c.alternateCall r).model))).1.map
          Reply.opened,
        (B.create g (c.alternateCall r) (w.note (.delegating (c.alternateCall r).model))).2) := by
  rw [completeAlternate]
  generalize B.create g _ _ = answer
  obtain ⟨o, v⟩ := answer
  cases o <;> rfl

theorem completeNative_plain (plain : q.autoContinue = false) (r : Request) (w : World σ) :
    c.completeNative g q r w =
      ((c.executor.invoke g r w).1.map Reply.opened, (c.executor.invoke g r w).2) := by
  rw [completeNative]
  generalize c.executor.invoke g r w = answer
  obtain ⟨o, v⟩ := answer
  cases o with
  | error e => rfl
  | ok reply =>
      dsimp only
      rw [if_neg (by simp [plain])]
      rfl

theorem completeNative_error {r : Request} {e : Error} {w v : World σ}
    (asked : c.executor.invoke g r w = (.error e, v)) :
    c.completeNative g q r w = (.error e, v) := by
  rw [completeNative, asked]

theorem completeNative_continued (auto : q.autoContinue = true) {r : Request}
    {reply : Reply (List Item)} {w v : World σ}
    (asked : c.executor.invoke g r w = (.ok reply, v)) :
    c.completeNative g q r w = c.continueReply g ⟨r, c.cap q⟩ reply v := by
  rw [completeNative, asked]
  exact if_pos auto

theorem continueReply_mismatched {k : Continuation} {reply : Reply (List Item)}
    (mismatched : reply.Mismatched k.template.stream) (w : World σ) :
    ∃ message context,
      c.continueReply g k reply w = (.error (.contractViolation message context), w) := by
  rw [continueReply]
  rcases mismatched with ⟨mode, e, rfl⟩ | ⟨mode, items, rfl⟩
  · rw [if_pos mode]
    exact ⟨_, _, rfl⟩
  · rw [if_neg (by simp [mode])]
    exact ⟨_, _, rfl⟩

/-- The result and the trace of a completion whose answer comes back as it is. -/
theorem seen_of_opened {o : Outcome} {w : World σ} {v : World (σ × Log)}
    (completed : c.logged.complete g q (w.withLog []) = (o.map Reply.opened, v)) :
    (c.complete g q w).1 = o.map Reply.opened ∧ ∀ n, c.trace g q n w = v.log ++ handedOn n o := by
  constructor
  · have same := (c.complete_logged g q (w.withLog [])).1
    rw [completed] at same
    exact same.symm
  · intro n
    rw [trace, completed]
    rcases o with e | ⟨e | items⟩
    · exact (List.append_nil _).symm
    · exact (List.append_nil _).symm
    · exact Feed.log_watch_plain _ n items v

/-! ## The backend -/

/-- When the backend serves a model. -/
theorem alternateFor_eq_some_iff {model : Option String} {B : Backend σ} :
    c.alternateFor model = some B ↔
      c.alternate = some B ∧ c.settings.disableAlternate = false ∧
        (model = some "ERNIE-Bot" ∨ model = some "ERNIE-Bot-turbo") := by
  unfold alternateFor
  cases c.alternate with
  | none => simp
  | some B' =>
      cases model with
      | none => simp
      | some m =>
          have named : Catalog.alternateModels.contains m = true ↔
              m = "ERNIE-Bot" ∨ m = "ERNIE-Bot-turbo" := by
            simp [Catalog.alternateModels, or_comm]
          dsimp only
          rw [Option.ite_none_right_eq_some, Bool.and_eq_true, Bool.not_eq_true', named]
          simp only [Option.some.injEq]
          tauto

/-- The log that a call of the backend leaves. -/
theorem log_of_create {B : Backend σ} {call : AlternateCall} {o : Outcome}
    {w w' : World (σ × Log)} (h : B.logged.create g call w = (o, w')) :
    w'.log = w.log ++ [.delegated call o] := by
  cases h
  rfl

theorem notices_withLog (ns : List Notice) (w : World σ) (l : Log) :
    ns.foldl World.note (w.withLog l) = (ns.foldl World.note w).withLog l := by
  induction ns generalizing w with
  | nil => rfl
  | cons n ns ih => exact ih (w.note n)

theorem delegates {B : Backend σ} (served : c.alternateFor q.model = some B)
    {messages : Conversation} (normal : q.messages.normalize = .ok messages) (w : World σ) :
    ∃ o, c.Delegates g q w (c.alternateCall (q.request messages)) o := by
  have logged : c.logged.alternateFor (q.request messages).model = some B.logged := by
    rw [alternateFor_logged]
    exact congrArg (Option.map Backend.logged) served
  have completed : c.logged.complete g q (w.withLog []) = c.logged.completeAlternate B.logged g
      (q.request messages) ((q.notices messages).foldl World.note (w.withLog [])) := by
    rw [complete, normal]
    dsimp only
    rw [logged]
  rw [completeAlternate_eq, notices_withLog] at completed
  generalize created : B.logged.create g (c.logged.alternateCall (q.request messages)) _ = answer
    at completed
  obtain ⟨o, v⟩ := answer
  have log := log_of_create g created
  rw [World.log_note, World.log_withLog, List.nil_append] at log
  obtain ⟨result, seen⟩ := seen_of_opened c g q completed
  let delegating : Notice := .delegating (c.alternateCall (q.request messages)).model
  refine ⟨o, ⟨B, ?_, q.notices messages ++ [delegating], ?_⟩, result, ?_⟩
  · exact (c.alternateFor_eq_some_iff.1 served).1
  · rw [List.foldl_append]
    exact congrArg Prod.fst created
  · intro n
    rw [seen, log]
    rfl

/-! ## The executor -/

/-- The log begins with a call of the executor, and the backend is not called after it. -/
def Begun (r : Request) (o : Outcome) (w : World (σ × Log)) : Prop :=
  ∃ later, w.log = .called r o :: later ∧ ∀ call answer, .delegated call answer ∉ later

theorem Begun.observe {r : Request} {o : Outcome} {w w' : World (σ × Log)} (begun : Begun r o w)
    {ob : Observation} (native : ∀ call answer, ob ≠ .delegated call answer)
    (log : w'.log = w.log ++ [ob]) : Begun r o w' := by
  obtain ⟨later, split, free⟩ := begun
  refine ⟨later ++ [ob], by rw [log, split, List.cons_append], ?_⟩
  intro call answer mem
  rcases List.mem_append.1 mem with mem | mem
  · exact free call answer mem
  · exact native call answer (List.mem_singleton.1 mem).symm

theorem keeps_begun (r : Request) (o : Outcome) : Keeps c.executor g (Begun r o) where
  note begun _ := begun
  call begun _ := begun.observe (fun _ _ => Observation.noConfusion) rfl
  pull begun _ := begun.observe (fun _ _ => Observation.noConfusion) rfl

/-- A completion that goes on from its first call calls nobody but the executor. -/
theorem begun_continueReply {r : Request} {o : Outcome} (k : Continuation)
    (reply : Reply (List Item)) {v : World (σ × Log)} (begun : Begun r o v) :
    Begun r o (c.logged.continueReply g k reply v).2 ∧
      ∀ f, (c.logged.continueReply g k reply v).1 = .ok (.stream f) → f.Twin g g f := by
  -- without a backend the client agrees with itself wherever its executor does
  let alone : Client σ := { c with alternate := none }
  have agree : alone.logged.Agrees g alone.logged g (fun w w' => w = w' ∧ Begun r o w) :=
    { settings := rfl, executor := (c.keeps_begun g r o).agrees, alternate := .none }
  obtain ⟨twins, -, later⟩ := agree.continueReply k reply ⟨rfl, begun⟩
  refine ⟨later, ?_⟩
  intro f h
  change SameResult g g (c.logged.continueReply g k reply v).1
    (c.logged.continueReply g k reply v).1 at twins
  rw [h] at twins
  cases twins with
  | stream twin => exact twin

/-- The first call begins the log, and after it nobody but the executor is called. -/
theorem begun_completeNative {r : Request} {o : Outcome} {w v : World (σ × Log)}
    (asked : c.logged.executor.invoke g r w = (o, v)) (begun : Begun r o v) :
    Begun r o (c.logged.completeNative g q r w).2 ∧
      ∀ f, (c.logged.completeNative g q r w).1 = .ok (.stream f) → f.Twin g g f := by
  cases o with
  | error e =>
      rw [completeNative_error c.logged g q asked]
      exact ⟨begun, fun f h => by cases h⟩
  | ok reply =>
      cases auto : q.autoContinue with
      | true =>
          rw [completeNative_continued c.logged g q auto asked]
          exact begun_continueReply c g _ reply begun
      | false =>
          rw [completeNative_plain c.logged g q auto, asked]
          refine ⟨begun, ?_⟩
          intro f h
          cases reply with
          | single e => cases h
          | stream items =>
              cases h
              exact .plain items

theorem begun_trace {r : Request} {o : Outcome} {w : World σ}
    {result : Except Error (Reply Feed) × World (σ × Log)}
    (completed : c.logged.complete g q (w.withLog []) = result) (begun : Begun r o result.2)
    (twin : ∀ f, result.1 = .ok (.stream f) → f.Twin g g f) (n : Nat) :
    ∃ later, c.trace g q n w = .called r o :: later ∧
      ∀ call answer, .delegated call answer ∉ later := by
  rw [trace, completed]
  obtain ⟨reply, v⟩ := result
  rcases reply with e | ⟨e | f⟩
  · exact begun
  · exact begun
  · exact (c.keeps_begun g r o).watch (twin f rfl) n begun

theorem invokes (native : c.alternateFor q.model = none) {messages : Conversation}
    (normal : q.messages.normalize = .ok messages) (w : World σ) :
    let first := c.executor.invoke g (q.request messages) ((q.notices messages).foldl World.note w)
    c.Invokes g q w (q.request messages) first.1 first.2 := by
  intro first
  have alone : c.logged.alternateFor q.model = none := by
    rw [alternateFor_logged, native]
    rfl
  have direct := complete_of_native c g q native normal w
  have logged := complete_of_native c.logged g q alone normal (w.withLog [])
  rw [notices_withLog] at logged
  have asked : c.executor.invoke g (q.request messages)
      ((q.notices messages).foldl World.note w) = first := rfl
  have asked_logged : c.logged.executor.invoke g (q.request messages)
      (((q.notices messages).foldl World.note w).withLog []) =
        (first.1, first.2.withLog [.called (q.request messages) first.1]) := rfl
  have mode : (q.request messages).stream = q.stream := rfl
  -- from here on nothing but the answer of the first call matters
  generalize q.request messages = r at *
  generalize first = answer at *
  obtain ⟨o, v⟩ := answer
  have begun : Begun r o (v.withLog [.called r o]) := ⟨[], rfl, fun _ _ => List.not_mem_nil⟩
  have once {e : Error}
      (completed : c.logged.complete g q (w.withLog []) = (.error e, v.withLog [.called r o])) :
      (c.complete g q w).1 = .error e ∧ ∀ n, c.trace g q n w = [.called r o] :=
    seen_of_opened c g q (o := .error e) completed
  refine ⟨⟨_, asked⟩, ?seen, ?plain, ?failed, ?mismatched, ?single, ?stream⟩
  case plain =>
    intro plain
    rw [completeNative_plain c.logged g q plain, asked_logged] at logged
    exact seen_of_opened c g q logged
  case failed =>
    rintro - e rfl
    exact once (logged.trans (completeNative_error c.logged g q asked_logged))
  case mismatched =>
    rintro auto reply rfl mismatched
    rw [← mode] at mismatched
    obtain ⟨message, context, violated⟩ := continueReply_mismatched c.logged g
      (k := ⟨r, c.cap q⟩) mismatched (v.withLog [.called r (.ok reply)])
    rw [completeNative_continued c.logged g q auto asked_logged] at logged
    obtain ⟨result, seen⟩ := once (logged.trans violated)
    exact ⟨⟨message, context, result⟩, seen⟩
  case single =>
    rintro auto single e rfl
    rw [direct, completeNative_continued c g q auto asked,
      continueReply_single c g (k := ⟨r, c.cap q⟩) (mode.trans single)]
  case stream =>
    rintro auto stream items rfl
    rw [direct, completeNative_continued c g q auto asked,
      continueReply_stream c g (k := ⟨r, c.cap q⟩) (mode.trans stream)]
  case seen =>
    obtain ⟨later, twin⟩ := begun_completeNative c g q asked_logged begun
    exact begun_trace c g q logged later twin

/-! ## Nobody -/

/-- Records are refused with a validation error. -/
theorem validation_of_ofRecords {records : List Json} {e : Error}
    (malformed : Conversation.ofRecords records = .error e) :
    ∃ message context, e = .validation message context := by
  rcases Conversation.represents_or_first_bad records with
    ⟨read, all⟩ | ⟨before, bad, after, fault, rfl, good, rejected⟩
  · rw [Conversation.ofRecords, Conversation.ofRecordsFrom_of_represents 0 all] at malformed
    cases malformed
  · rw [Conversation.ofRecords, Conversation.ofRecordsFrom_of_bad 0 good rejected] at malformed
    cases malformed
    exact ⟨_, _, rfl⟩

theorem refuses {e : Error} (malformed : q.messages.normalize = .error e) (w : World σ) :
    c.Refuses g q w e where
  kind := by
    cases messages : q.messages with
    | typed conversation =>
        rw [messages] at malformed
        cases malformed
    | raw records =>
        rw [messages] at malformed
        exact validation_of_ofRecords malformed
  result := by rw [complete, malformed]
  seen n := by
    rw [trace, complete, malformed]
    rfl

/-! ## Every completion -/

/-- Who answers a completion. If its messages are refused, nobody is called. If a backend is
installed, it is not disabled and the model is one of its two, it is called once, with the credentials
of the client, its own name of the model, the mode, and the parameters with the records of the
conversation written over them; its answer comes back as it is. In every other case the backend is not
called, and the first call of the executor is the completion as it was given, with its messages. -/
theorem dispatch (w : World σ) :
    (∀ e, q.messages.normalize = .error e → c.Refuses g q w e) ∧
      ∀ messages, q.messages.normalize = .ok messages →
        (∀ model name, (model = "ERNIE-Bot" ∧ name = "ernie-bot-3.5" ∨
              model = "ERNIE-Bot-turbo" ∧ name = "ernie-bot-turbo") →
            c.alternate.isSome → c.settings.disableAlternate = false → q.model = some model →
            ∃ o, c.Delegates g q w
              { credentials := c.settings.credentials
                model := name
                stream := q.stream
                params := Fields.insert "messages" (.array messages.toRecords) q.params } o) ∧
          (¬(c.alternate.isSome ∧ c.settings.disableAlternate = false ∧
              (q.model = some "ERNIE-Bot" ∨ q.model = some "ERNIE-Bot-turbo")) →
            ∃ o v, c.Invokes g q w
              { model := q.model
                endpoint := q.endpoint
                stream := q.stream
                messages := messages
                options := q.options
                params := q.params } o v) := by
  refine ⟨fun e malformed => c.refuses g q malformed w, ?_⟩
  intro messages normal
  constructor
  · intro model name named installed enabled asked
    obtain ⟨B, installed⟩ := Option.isSome_iff_exists.1 installed
    have known : q.model = some "ERNIE-Bot" ∨ q.model = some "ERNIE-Bot-turbo" := by
      rw [asked]
      exact named.imp (fun h => congrArg some h.1) fun h => congrArg some h.1
    have call : c.alternateCall (q.request messages) =
        { credentials := c.settings.credentials, model := name, stream := q.stream,
          params := Fields.insert "messages" (.array messages.toRecords) q.params } := by
      have lower : Catalog.alternateName (q.model.getD "") = name := by
        rw [asked]
        rcases named with ⟨rfl, rfl⟩ | ⟨rfl, rfl⟩ <;> decide +kernel
      rw [← lower]
      rfl
    rw [← call]
    exact c.delegates g q (c.alternateFor_eq_some_iff.2 ⟨installed, enabled, known⟩) normal w
  · intro otherwise
    refine ⟨_, _, c.invokes g q ?_ normal w⟩
    apply Option.eq_none_iff_forall_ne_some.2
    intro B served
    apply otherwise
    obtain ⟨installed, rest⟩ := c.alternateFor_eq_some_iff.1 served
    exact ⟨Option.isSome_iff_exists.2 ⟨B, installed⟩, rest⟩

/-- A scripted client with a backend: a record that is no message, a truncated stream of the backend,
and a single reply of the executor where a stream was to be continued. -/
theorem dispatch_of_scripts :
    let c : Client Script := { settings := { disableAlternate := false },
                               executor := Script.executor, alternate := some Script.backend }
    let malformed : CompletionRequest := { messages := .raw [.null] }
    let delegated : CompletionRequest := { messages := .typed [⟨.user, "hi"⟩], stream := true,
                                           model := some "ERNIE-Bot", autoContinue := true,
                                           params := [("messages", .null), ("top_p", .null)] }
    let native : CompletionRequest := { delegated with model := some "ernie-bot" }
    let w : World Script := { supplier := [.ok (.stream [.ok (.fragment "a" true)])] }
    let w' : World Script := { supplier := [.ok (.single (.fragment "a" true))] }
    (∃ e, malformed.messages.normalize = .error e ∧ c.Refuses .async malformed w e) ∧
      (∃ messages o, delegated.messages.normalize = .ok messages ∧ c.alternate.isSome ∧
        c.settings.disableAlternate = false ∧ delegated.model = some "ERNIE-Bot" ∧
        c.Delegates .blocking delegated w ⟨c.settings.credentials, "ernie-bot-3.5", true,
          [("messages", .array messages.toRecords), ("top_p", .null)]⟩ o) ∧
      ∃ messages o v, native.messages.normalize = .ok messages ∧
        ¬(c.alternate.isSome ∧ c.settings.disableAlternate = false ∧
          (native.model = some "ERNIE-Bot" ∨ native.model = some "ERNIE-Bot-turbo")) ∧
        c.Invokes .async native w' (native.request messages) o v := by
  intro c malformed delegated native w w'
  refine ⟨⟨_, rfl, (dispatch c .async malformed w).1 _ rfl⟩, ?_, ?_⟩
  · obtain ⟨o, answered⟩ := ((dispatch c .blocking delegated w).2 _ rfl).1 "ERNIE-Bot"
      "ernie-bot-3.5" (.inl ⟨rfl, rfl⟩) rfl rfl rfl
    exact ⟨_, o, rfl, rfl, rfl, rfl, answered⟩
  · have otherwise : ¬(c.alternate.isSome ∧ c.settings.disableAlternate = false ∧
        (native.model = some "ERNIE-Bot" ∨ native.model = some "ERNIE-Bot-turbo")) := by
      rintro ⟨-, -, h | h⟩ <;> exact absurd h (by decide)
    obtain ⟨o, v, answered⟩ := ((dispatch c .async native w').2 _ rfl).2 otherwise
    exact ⟨_, o, v, rfl, otherwise, answered⟩

end Client

end ChatClient
