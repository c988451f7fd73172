import ChatClient.Proofs.Session.Regimes
import ChatClient.Proofs.Continuation.Stream

/-!
# Which calls are made

A further call must be warranted by those before it: all of them have brought envelopes without an
error, and the last of these was truncated (`Continuation.Warrants`). What it asks for is then
settled, the first call with a turn for the text of each call so far (`Continuation.Chain`).

The invariant of a continuation that stands in the answer of its last call is told by the calls
alone (`Continuation.Underway`). A round begins only when nothing of the answer is left, and the
calls then warrant it (`Underway.of_beginRound`). With it every trace is chained
(`Client.chain_trace`).

What a client keeps in its world, whatever calls it makes, is an invariant of notices and calls
(`Client.keeps_watched`). The calls can be read off a log that is kept beside the world, which is
the same without it (`Client.unlogged_watched`).
-/

namespace ChatClient

variable {σ : Type}

/-- A call of the executor with its outcome. -/
abbrev Call := Request × Outcome

namespace Call

open Continuation

/-- What a call has brought: the items of a stream, one envelope, or the error. -/
def items (call : Call) : List Item :=
  match call.2 with
  | .ok (.single e) => [.ok e]
  | .ok (.stream items) => items
  | .error e => [.error e]

end Call

namespace Log

/-- The call that an observation is about. -/
def callOf : Observation → Option Call
  | .called r o => some (r, o)
  | _ => none

/-- The calls of the executor, with their outcomes. -/
def calls (l : Log) : List Call := l.filterMap callOf

@[simp] theorem calls_append (l m : Log) : calls (l ++ m) = calls l ++ calls m :=
  List.filterMap_append

@[simp] theorem calls_called (r : Request) (o : Outcome) : calls [.called r o] = [(r, o)] := rfl

@[simp] theorem calls_pulled (item : Option Item) : calls [.pulled item] = [] := rfl

end Log

/-! ## The calls of a continuation -/

namespace Continuation

/-- The texts that some calls have brought. -/
def texts (calls : List Call) : List String := calls.map fun call => streamText call.items

/-- The calls before a further one have brought nothing but envelopes, of which the last was
truncated. -/
structure Warrants (before : List Call) : Prop where
  free : ∀ call ∈ before, ErrorFree call.items
  cut : truncatedAfter (before.flatMap Call.items) = true

/-- Calls that begin with the first one. Each of them repeats it with the turns for the calls before,
and is the first one itself or warranted by those. -/
structure Chain (further : Prop) (first : Request) (calls : List Call) : Prop where
  begun : calls ≠ []
  linked : ∀ before r o after, calls = before ++ (r, o) :: after →
    r = { first with messages := first.messages ++ turns (texts before) } ∧
      (before ≠ [] → further ∧ Warrants before)

section Chain

variable {further : Prop} {first r : Request} {calls : List Call}

/-- The first call needs no warrant. -/
theorem chain_first (first : Request) (o : Outcome) : Chain further first [(first, o)] where
  begun := List.cons_ne_nil _ _
  linked := by
    intro before r o' after split
    rw [← List.nil_append [(first, o)]] at split
    rcases split_concat split with ⟨rfl, new⟩ | ⟨after, earlier⟩
    · cases new
      refine ⟨?_, fun more => absurd rfl more⟩
      simp [turns, texts]
    · exact absurd earlier (by simp)

theorem Chain.concat (h : Chain further first calls)
    (request : r = { first with messages := first.messages ++ turns (texts calls) })
    (may : further) (warrants : Warrants calls) (o : Outcome) :
    Chain further first (calls ++ [(r, o)]) where
  begun := List.append_ne_nil_of_right_ne_nil _ (List.cons_ne_nil _ _)
  linked := by
    intro before r' o' after split
    -- the call is the new one, or stands before it
    rcases split_concat split with ⟨rfl, new⟩ | ⟨after, earlier⟩
    · cases new
      exact ⟨request, fun _ => ⟨may, warrants⟩⟩
    · exact h.linked before r' o' after earlier

end Chain

/-- Of the answer of the last call these items are left; what came before them is in the state. -/
inductive Underway (c : Continuation) : List Call → State → List Item → Prop
  | intro {earlier : List Call} (call : Call) {done left : List Item}
      (items : call.items = done ++ left)
      (free_earlier : ∀ call ∈ earlier, ErrorFree call.items) (free : ErrorFree done) :
      Underway c (earlier ++ [call])
        (c.reached (texts earlier) (streamText done)
          (truncatedAfter (earlier.flatMap Call.items ++ done))) left

namespace Underway

variable {c : Continuation} {calls : List Call} {st st' : State} {left : List Item}

/-- At the beginning of an answer nothing of it is in the state. -/
theorem of_call (free : ∀ call ∈ calls, ErrorFree call.items) (call : Call) :
    Underway c (calls ++ [call])
      (c.reached (texts calls) "" (truncatedAfter (calls.flatMap Call.items))) call.items := by
  have here := Underway.intro (c := c) call (List.nil_append call.items).symm free errorFree_nil
  rwa [List.append_nil] at here

theorem absorb {e : Envelope} (h : Underway c calls st (.ok e :: left)) :
    Underway c calls (st.absorb e) left := by
  cases h with
  | @intro earlier call done _ items free_earlier free =>
      have free' : ErrorFree (done ++ [.ok e]) := by
        intro e' he
        rcases List.mem_append.1 he with he | he
        · exact free e' he
        · exact errorFree_ok_cons.2 errorFree_nil e' he
      have split : call.items = (done ++ [.ok e]) ++ left := by
        rw [items, List.append_assoc, List.singleton_append]
      have here := Underway.intro (c := c) call split free_earlier free'
      rw [← List.append_assoc, truncatedAfter, flagAfter_append, flagAfter_ok_cons, flagAfter_nil,
        streamText_append, streamText_ok_cons, streamText_nil, String.append_empty] at here
      rw [reached_absorb]
      exact here

/-- A round that begins is warranted by the calls, and its state is that of their texts. -/
theorem of_beginRound (h : Underway c calls st []) (cut : st.isTruncated = true)
    (begun : st.beginRound = .ok st') :
    Warrants calls ∧
      st' = c.reached (texts calls) "" (truncatedAfter (calls.flatMap Call.items)) := by
  cases h with
  | @intro earlier call done _ items free_earlier free =>
      rw [List.append_nil] at items
      subst items
      have brought : (earlier ++ [call]).flatMap Call.items =
          earlier.flatMap Call.items ++ call.items := by simp
      have known : texts (earlier ++ [call]) = texts earlier ++ [streamText call.items] := by
        simp [texts]
      constructor
      · refine ⟨?_, ?_⟩
        · intro other hother
          rcases List.mem_append.1 hother with hother | hother
          · exact free_earlier other hother
          · rwa [List.mem_singleton.1 hother]
        · rw [brought]
          exact cut
      · rw [reached_of_beginRound c begun, known, brought]

end Underway

/-! ## A single reply -/

variable {further : Prop}

theorem Completes.chain {c : Continuation} {E : Executor σ} {g : Regime} {st : State}
    {last : Envelope} {w : World (σ × Log)} {result : Except Error Envelope × World (σ × Log)}
    (completes : Completes c E.logged g st last w result) (may : further)
    (single : c.template.stream = false) (chain : Chain further c.template w.log.calls)
    (underway : Underway c w.log.calls st []) : Chain further c.template result.2.log.calls := by
  have asks (calls : List Call) : c.followUp false (texts calls) =
      { c.template with messages := c.template.messages ++ turns (texts calls) } := by
    rw [followUp, ← single]
  induction completes with
  | whole whole last w =>
      rw [finish]
      split
      · exact chain
      · exact chain
  | refused cut refused last w => exact chain
  | @unanswered st st' o e last w w' cut begun asked unanswered =>
      obtain ⟨warrants, rfl⟩ := underway.of_beginRound cut begun
      rw [Executor.log_of_invoke asked, Log.calls_append, template_followUp]
      exact chain.concat (asks _) may warrants o
  | @continued st st' e last w w' result cut begun asked rest ih =>
      obtain ⟨warrants, rfl⟩ := underway.of_beginRound cut begun
      have log := Executor.log_of_invoke asked
      rw [World.log_note, template_followUp] at log
      apply ih
      · rw [log, Log.calls_append]
        exact chain.concat (asks _) may warrants _
      · rw [log, Log.calls_append]
        exact (Underway.of_call warrants.free (_, .ok (.single e))).absorb

end Continuation

/-! ## Streams -/

namespace Feed

open Continuation

variable {further : Prop} {E : Executor σ} {g : Regime} {first : Request}

/-- What the calls say of a stream: when it is read on, further calls may be made, and what is left
of the answer of the last call is at hand. -/
inductive Charted (further : Prop) (g : Regime) (first : Request) (calls : List Call) : Feed → Prop
  | plain (items : List Item) : Charted further g first calls (.plain items)
  | reading {c : Continuation} {st : State} {items : List Item} (may : further)
      (template : c.template = first) (stream : first.stream = true)
      (underway : Underway c calls st items) :
      Charted further g first calls (reading g c st items)
  | closed (c : Continuation) (st : State) : Charted further g first calls (closed g c st)

theorem Reads.chain {c : Continuation} {st : State} {items : List Item} {w : World (σ × Log)}
    {result : Option Item × Feed × World (σ × Log)} (reads : Reads E.logged g c st items w result)
    (may : further) (stream : c.template.stream = true)
    (chain : Chain further c.template w.log.calls) (underway : Underway c w.log.calls st items) :
    Chain further c.template result.2.2.log.calls ∧
      Charted further g c.template result.2.2.log.calls result.2.1 := by
  have asks (calls : List Call) : c.followUp true (texts calls) =
      { c.template with messages := c.template.messages ++ turns (texts calls) } := by
    rw [followUp, ← stream]
  induction reads with
  | ok st e rest w => exact ⟨chain, .reading may rfl stream underway.absorb⟩
  | error st e rest w => exact ⟨chain, .closed c st⟩
  | whole whole w =>
      refine ⟨?_, .closed c _⟩
      rw [Generator.noteEnd]
      split
      · exact chain
      · exact chain
  | refused cut refused w => exact ⟨chain, .closed c _⟩
  | @unanswered st st' o e w w' cut begun asked unanswered =>
      obtain ⟨warrants, rfl⟩ := underway.of_beginRound cut begun
      refine ⟨?_, .closed c _⟩
      rw [Executor.log_of_invoke asked, Log.calls_append, template_followUp]
      exact chain.concat (asks _) may warrants o
  | @continued st st' items w w' result cut begun asked rest ih =>
      obtain ⟨warrants, rfl⟩ := underway.of_beginRound cut begun
      have log := Executor.log_of_invoke asked
      rw [World.log_note, template_followUp] at log
      apply ih
      · rw [log, Log.calls_append]
        exact chain.concat (asks _) may warrants _
      · rw [log, Log.calls_append]
        exact Underway.of_call warrants.free (_, .ok (.stream items))

/-- A request for an item adds to the chain what it must, and the stream stays charted. -/
theorem Charted.next {f : Feed} {w : World (σ × Log)}
    (charted : f.Charted further g first w.log.calls) (chain : Chain further first w.log.calls) :
    Chain further first (f.next E.logged w).2.2.log.calls ∧
      (f.next E.logged w).2.1.Charted further g first (f.next E.logged w).2.2.log.calls := by
  cases charted with
  | plain items =>
      cases items with
      | nil => exact ⟨chain, .plain []⟩
      | cons item rest => exact ⟨chain, .plain rest⟩
  | reading may template stream underway =>
      subst template
      exact (reads_next E.logged g _ _ _ w).chain may stream chain underway
  | closed c st =>
      rw [closed_ended E.logged g c st w]
      exact ⟨chain, .closed c st⟩

theorem chain_watch {f : Feed} {w : World (σ × Log)}
    (charted : f.Charted further g first w.log.calls) (chain : Chain further first w.log.calls)
    (n : Nat) : Chain further first (f.watch E.logged n w).2.log.calls := by
  have observed (v : World (σ × Log)) (item : Option Item) :
      (v.observe (.pulled item)).log.calls = v.log.calls := by
    show Log.calls (v.log ++ [.pulled item]) = _
    rw [Log.calls_append, Log.calls_pulled, List.append_nil]
  induction n generalizing f w with
  | zero => exact chain
  | succ n ih =>
      obtain ⟨later, charted'⟩ := charted.next (E := E) chain
      rw [← observed] at later charted'
      exact ih charted' later

end Feed

/-! ## Completions -/

namespace Client

open Continuation

variable (c : Client σ) (g : Regime) (q : CompletionRequest)

/-- What is seen of a completion is chained to its first call, and its stream is charted. -/
structure Chained (further : Prop) (g : Regime) (first : Request)
    (result : Except Error (Reply Feed) × World (σ × Log)) : Prop where
  chain : Chain further first result.2.log.calls
  charted : ∀ f, result.1 = .ok (.stream f) → f.Charted further g first result.2.log.calls

theorem chained_error {further : Prop} {first : Request} (e : Error) {w : World (σ × Log)}
    (chain : Chain further first w.log.calls) : Chained further g first (.error e, w) :=
  ⟨chain, fun _ h => by cases h⟩

theorem chained_continueReply {further : Prop} (may : further) (k : Continuation)
    (reply : Reply (List Item)) (w : World (σ × Log))
    (calls : w.log.calls = [(k.template, .ok reply)]) :
    Chained further g k.template (c.logged.continueReply g k reply w) := by
  have chain : Chain further k.template w.log.calls := by
    rw [calls]
    exact chain_first k.template (.ok reply)
  have underway : Underway k w.log.calls k.start (Call.items (k.template, .ok reply)) := by
    have free : ∀ call ∈ ([] : List Call), ErrorFree call.items := List.forall_mem_nil _
    rw [calls, start_eq_reached]
    exact Underway.of_call free _
  rw [continueReply]
  split
  · next stream =>
    cases reply with
    | single e => exact chained_error g _ chain
    | stream items =>
        refine ⟨chain, ?_⟩
        intro f h
        cases h
        rw [Feed.feed_eq_reading]
        exact .reading may rfl stream underway
  · next single =>
    cases reply with
    | single e =>
        have later := (Continuation.completes k c.executor.logged g (k.start.absorb e) e w).chain
          may (Bool.eq_false_iff.2 single) chain underway.absorb
        dsimp only [Reply.intoEnvelope]
        rw [Continuation.complete, executor_logged]
        generalize k.completeFrom c.executor.logged g _ _ w = result at later ⊢
        obtain ⟨r, v⟩ := result
        cases r with
        | error e => exact chained_error g e later
        | ok e => exact ⟨later, fun _ h => by cases h⟩
    | stream items => exact chained_error g _ chain

theorem chained_completeNative (r : Request) (w : World (σ × Log)) (log : w.log = []) :
    Chained (q.autoContinue = true) g r (c.logged.completeNative g q r w) := by
  rw [completeNative, executor_logged]
  generalize asked : c.executor.logged.invoke g r w = result
  obtain ⟨o, v⟩ := result
  have called := Executor.log_of_invoke asked
  rw [log, List.nil_append] at called
  have calls : v.log.calls = [(r, o)] := by
    rw [called]
    rfl
  have chain : Chain (q.autoContinue = true) r v.log.calls := by
    rw [calls]
    exact chain_first r o
  cases o with
  | error e => exact chained_error g e chain
  | ok reply =>
      dsimp only
      split
      · next auto => exact chained_continueReply c g auto ⟨r, _⟩ reply v calls
      · refine ⟨chain, ?_⟩
        intro f h
        cases reply with
        | single e => cases h
        | stream items =>
            cases h
            exact .plain items

/-- A completion that goes to the executor. -/
theorem complete_of_native {messages : Conversation} (native : c.alternateFor q.model = none)
    (normal : q.messages.normalize = .ok messages) (w : World σ) :
    c.complete g q w =
      c.completeNative g q (q.request messages) ((q.notices messages).foldl World.note w) := by
  have served : c.alternateFor (q.request messages).model = none := native
  rw [complete, normal]
  dsimp only
  rw [served]

/-- The world, with its log, after a completion and `n` requests for an item of its stream. -/
def watched (n : Nat) (w : World σ) : World (σ × Log) :=
  match c.logged.complete g q (w.withLog []) with
  | (.ok (.stream f), w) => (f.watch c.logged.executor n w).2
  | (_, w) => w

theorem log_watched (n : Nat) (w : World σ) : (c.watched g q n w).log = c.trace g q n w := by
  rw [watched, trace]
  generalize c.logged.complete g q (w.withLog []) = result
  obtain ⟨r, v⟩ := result
  rcases r with e | ⟨e | f⟩
  · rfl
  · rfl
  · rfl

/-- No call is made for messages that are none. -/
theorem calls_of_error {e : Error} (malformed : q.messages.normalize = .error e) (n : Nat)
    (w : World σ) : (c.trace g q n w).calls = [] := by
  rw [trace, complete, malformed]
  rfl

/-- The calls of a native completion are chained: the first one is that of the completion, and a
further one is made only if the completion says so and the calls before it warrant it. -/
theorem chain_trace (native : c.alternateFor q.model = none) {messages : Conversation}
    (normal : q.messages.normalize = .ok messages) (n : Nat) (w : World σ) :
    Chain (q.autoContinue = true) (q.request messages) (c.trace g q n w).calls := by
  have log := log_notices (q.notices messages) (w.withLog [])
  have chained := chained_completeNative c g q (q.request messages) _ log
  have alone : c.logged.alternateFor q.model = none := by
    rw [alternateFor_logged, native]
    rfl
  rw [trace, complete_of_native c.logged g q alone normal]
  generalize c.logged.completeNative g q _ _ = result at chained ⊢
  obtain ⟨r, v⟩ := result
  rcases r with e | ⟨e | f⟩
  · exact chained.chain
  · exact chained.chain
  · exact Feed.chain_watch (chained.charted f rfl) chained.chain n

end Client

/-! ## Worlds -/

/-- The world after `n` requests for an item of a stream. -/
def Feed.after (E : Executor σ) : Nat → Feed → World σ → World σ
  | 0, _, w => w
  | n + 1, f, w =>
      let (_, f, w) := f.next E w
      Feed.after E n f w

/-- The world after a completion and `n` requests for an item of its stream. -/
def Client.after (c : Client σ) (g : Regime) (q : CompletionRequest) (n : Nat) (w : World σ) :
    World σ :=
  match c.complete g q w with
  | (.ok (.stream f), w) => f.after c.executor n w
  | (_, w) => w

namespace Client

variable (c : Client σ) (g : Regime) (q : CompletionRequest)

theorem unlogged_watch {f f' : Feed} (twin : f.Twin g g f') (n : Nat) (w : World (σ × Log)) :
    (f'.watch c.logged.executor n w).2.unlogged = f.after c.executor n w.unlogged := by
  induction n generalizing f f' w with
  | zero => rfl
  | succ n ih =>
      have start : (fun (v : World σ) (v' : World (σ × Log)) => v'.unlogged = v) w.unlogged w := rfl
      obtain ⟨f₂, v, step, twin', hv⟩ := (c.agrees_logged g).executor.next twin start
      rw [Feed.watch, Feed.after, step]
      exact (ih twin' _).trans (congrArg _ hv)

/-- To be watched leaves no trace in the world. -/
theorem unlogged_watched (n : Nat) (w : World σ) :
    (c.watched g q n w).unlogged = c.after g q n w := by
  have start : (fun (v : World σ) (v' : World (σ × Log)) => v'.unlogged = v) w (w.withLog []) := rfl
  obtain ⟨same, hv⟩ := (c.agrees_logged g).complete q start
  rw [watched, after]
  generalize c.complete g q w = p at same hv
  generalize c.logged.complete g q (w.withLog []) = p' at same hv
  obtain ⟨r, v⟩ := p
  obtain ⟨r', v'⟩ := p'
  cases same with
  | error e => exact hv
  | single e => exact hv
  | stream twin => exact (unlogged_watch c g twin n v').trans (congrArg _ hv)

/-- What holds at the start and is broken by no notice, no call and no request for an item. -/
structure Keeps (E : Executor σ) (g : Regime) (I : World (σ × Log) → Prop) : Prop where
  note : ∀ {w}, I w → ∀ n, I (w.note n)
  call : ∀ {w}, I w → ∀ r, I (E.logged.invoke g r w).2
  pull : ∀ {w}, I w → ∀ item, I (w.observe (.pulled item))

variable {I : World (σ × Log) → Prop}

/-- The executor agrees with itself in worlds in which the invariant holds. -/
theorem Keeps.agrees {E : Executor σ} {g : Regime} (keeps : Keeps E g I) :
    E.logged.Agrees g E.logged g (fun w w' => w = w' ∧ I w) where
  note := by
    rintro w _ ⟨rfl, hw⟩ n
    exact ⟨rfl, keeps.note hw n⟩
  invoke := by
    rintro w _ ⟨rfl, hw⟩ r
    exact ⟨rfl, rfl, keeps.call hw r⟩

theorem Keeps.watch {E : Executor σ} {g : Regime} (keeps : Keeps E g I) {f : Feed}
    (twin : f.Twin g g f) (n : Nat) {w : World (σ × Log)} (hw : I w) : I (f.watch E.logged n w).2 := by
  induction n generalizing f w with
  | zero => exact hw
  | succ n ih =>
      obtain ⟨f', v, step, twin', -, hv⟩ := keeps.agrees.next twin ⟨rfl, hw⟩
      rw [step] at twin' hv
      rw [Feed.watch, step]
      exact ih twin' (keeps.pull hv _)

/-- An invariant of the calls of a native completion. -/
theorem keeps_watched (keeps : Keeps c.executor g I) (native : c.alternateFor q.model = none)
    (n : Nat) (w : World σ) (start : I (w.withLog [])) : I (c.watched g q n w) := by
  -- without a backend the client agrees with itself wherever its executor does
  let alone : Client σ := { c with alternate := none }
  have agree : alone.logged.Agrees g alone.logged g (fun w w' => w = w' ∧ I w) :=
    { settings := rfl, executor := keeps.agrees, alternate := .none }
  have same : c.logged.complete g q (w.withLog []) = alone.logged.complete g q (w.withLog []) := by
    cases normal : q.messages.normalize with
    | error e => rw [complete, complete, normal]
    | ok messages =>
        have served : c.logged.alternateFor q.model = none := by
          rw [alternateFor_logged, native]
          rfl
        rw [complete_of_native c.logged g q served normal,
          complete_of_native alone.logged g q rfl normal]
        rfl
  obtain ⟨twins, -, later⟩ := agree.complete q ⟨rfl, start⟩
  rw [watched, same]
  generalize alone.logged.complete g q (w.withLog []) = result at twins later ⊢
  obtain ⟨r, v⟩ := result
  rcases r with e | ⟨e | f⟩
  · exact later
  · exact later
  · cases twins with
    | stream twin => exact keeps.watch twin n later

end Client

end ChatClient
