import ChatClient.Proofs.Continuation.Reading
import ChatClient.Proofs.Continuation.Single

/-!
# Calls are made late

A log is patient when every call in it stands after all items that the calls before it have brought
(`Log.Patient`). The invariant is that of a stream that is being read: the items handed on and those
still at hand are just the items brought so far (`Feed.Settled`). A call is made only when none is
at hand (`Feed.Reads.settled`), so each request for an item keeps the invariant, and with it every
trace of a client is patient (`Client.patient_trace`).
-/

namespace ChatClient

variable {σ : Type}

/-- An element of a list with one more at its end is that one, or stands in the list. -/
theorem split_concat {α : Type} {l before after : List α} {a b : α}
    (split : l ++ [a] = before ++ b :: after) :
    before = l ∧ b = a ∨ ∃ after, l = before ++ b :: after := by
  rcases List.eq_nil_or_concat after with rfl | ⟨after, last, rfl⟩
  · obtain ⟨rfl, one⟩ := List.append_inj' split rfl
    exact .inl ⟨rfl, (List.singleton_inj.1 one).symm⟩
  · have longer : l ++ [a] = (before ++ b :: after) ++ [last] := by
      rw [split, List.concat_eq_append, List.append_assoc, List.cons_append]
    obtain ⟨earlier, -⟩ := List.append_inj' longer rfl
    exact .inr ⟨after, earlier⟩

/-- The items of the stream that a call has brought. -/
def streamItems : Outcome → List Item
  | .ok (.stream items) => items
  | _ => []

namespace Log

/-- The items of the streams that the calls have brought. -/
def brought (l : Log) : List Item := l.outcomes.flatMap streamItems

/-- No call is made before all items have been handed on that the calls before it have brought. -/
def Patient (l : Log) : Prop :=
  ∀ (before : Log) r o after, l = before ++ .called r o :: after → before.items = before.brought

variable {l : Log}

@[simp] theorem brought_append (l m : Log) : brought (l ++ m) = brought l ++ brought m := by
  rw [brought, outcomes_append, List.flatMap_append]
  rfl

@[simp] theorem brought_called (r : Request) (o : Outcome) :
    brought [.called r o] = streamItems o := by
  simp [brought]

@[simp] theorem brought_pulled (item : Option Item) : brought [.pulled item] = [] := rfl

theorem patient_nil : Patient [] := by
  intro before r o after split
  exact absurd split (by simp)

/-- One more observation breaks patience only when it is an early call. -/
theorem Patient.concat (h : l.Patient) {ob : Observation}
    (late : ∀ r o, ob = .called r o → l.items = l.brought) : Patient (l ++ [ob]) := by
  intro before r o after split
  -- the call is the new observation, or stands before it
  rcases split_concat split with ⟨rfl, new⟩ | ⟨after, earlier⟩
  · exact late r o new.symm
  · exact h before r o after earlier

theorem Patient.concat_called (h : l.Patient) (late : l.items = l.brought) (r : Request)
    (o : Outcome) : Patient (l ++ [.called r o]) :=
  h.concat fun _ _ _ => late

theorem Patient.concat_pulled (h : l.Patient) (item : Option Item) :
    Patient (l ++ [.pulled item]) :=
  h.concat fun _ _ call => Observation.noConfusion call

end Log

/-- The log that a call leaves. -/
theorem Executor.log_of_invoke {E : Executor σ} {g : Regime} {r : Request} {o : Outcome}
    {w w' : World (σ × Log)} (h : E.logged.invoke g r w = (o, w')) :
    w'.log = w.log ++ [.called r o] := by
  cases h
  rfl

/-! ## Streams -/

/-- What is at hand of a continuation is what has been brought and not been handed on. -/
inductive Feed.Settled (g : Regime) (l : Log) : Feed → Prop
  | plain (items : List Item) : Settled g l (.plain items)
  | reading (c : Continuation) (st : Continuation.State) (items : List Item)
      (h : l.items ++ items = l.brought) : Settled g l (reading g c st items)
  | closed (c : Continuation) (st : Continuation.State) : Settled g l (closed g c st)

namespace Feed

variable {E : Executor σ} {g : Regime}

/-- On the way to the next item calls are made only when no item is at hand. -/
theorem Reads.settled {c : Continuation} {st : Continuation.State} {items : List Item}
    {w : World (σ × Log)} {result : Option Item × Feed × World (σ × Log)}
    (reads : Reads E.logged g c st items w result) (patient : w.log.Patient)
    (h : w.log.items ++ items = w.log.brought) :
    result.2.2.log.Patient ∧ Settled g (result.2.2.log ++ [.pulled result.1]) result.2.1 := by
  induction reads with
  | ok st e rest w =>
      refine ⟨patient, .reading c _ rest ?_⟩
      rw [Log.items_append, Log.brought_append, ← h]
      simp
  | error st e rest w => exact ⟨patient, .closed c st⟩
  | whole whole w =>
      refine ⟨?_, .closed c _⟩
      rw [Continuation.Generator.noteEnd]
      split
      · exact patient
      · exact patient
  | refused cut refused w => exact ⟨patient, .closed c _⟩
  | unanswered cut begun asked unanswered =>
      refine ⟨?_, .closed c _⟩
      rw [List.append_nil] at h
      rw [Executor.log_of_invoke asked]
      exact patient.concat_called h _ _
  | continued cut begun asked rest ih =>
      rw [List.append_nil] at h
      have log := Executor.log_of_invoke asked
      apply ih
      · rw [log]
        exact patient.concat_called h _ _
      · -- the new stream has been brought, and none of its items been handed on
        rw [log, World.log_note, Log.items_append, Log.brought_append, ← h]
        simp [streamItems]

/-- A request for an item keeps what is settled, and makes no call early. -/
theorem Settled.next {f : Feed} {w : World (σ × Log)} (settled : f.Settled g w.log)
    (patient : w.log.Patient) :
    (f.next E.logged w).2.2.log.Patient ∧
      Settled g ((f.next E.logged w).2.2.log ++ [.pulled (f.next E.logged w).1])
        (f.next E.logged w).2.1 := by
  cases settled with
  | plain items =>
      cases items with
      | nil => exact ⟨patient, .plain []⟩
      | cons item rest => exact ⟨patient, .plain rest⟩
  | reading c st items h => exact (reads_next E.logged g c st items w).settled patient h
  | closed c st =>
      rw [closed_ended E.logged g c st w]
      exact ⟨patient, .closed c st⟩

theorem patient_watch {f : Feed} {w : World (σ × Log)} (settled : f.Settled g w.log)
    (patient : w.log.Patient) (n : Nat) : (f.watch E.logged n w).2.log.Patient := by
  induction n generalizing f w with
  | zero => exact patient
  | succ n ih =>
      obtain ⟨later, settled'⟩ := settled.next (E := E) patient
      exact ih settled' (later.concat_pulled _)

end Feed

/-! ## Completions -/

/-- A single reply is asked for further without any item in between. -/
theorem Continuation.Completes.patient {c : Continuation} {E : Executor σ} {g : Regime}
    {st : State} {last : Envelope} {w : World (σ × Log)}
    {result : Except Error Envelope × World (σ × Log)}
    (completes : Completes c E.logged g st last w result) (patient : w.log.Patient)
    (items : w.log.items = []) (brought : w.log.brought = []) : result.2.log.Patient := by
  induction completes with
  | whole whole last w =>
      rw [finish]
      split
      · exact patient
      · exact patient
  | refused cut refused last w => exact patient
  | unanswered cut begun asked unanswered =>
      rw [Executor.log_of_invoke asked]
      exact patient.concat_called (items.trans brought.symm) _ _
  | continued cut begun asked rest ih =>
      have log := Executor.log_of_invoke asked
      rw [World.log_note] at log
      apply ih
      · rw [log]
        exact patient.concat_called (items.trans brought.symm) _ _
      · rw [log, Log.items_append, items, Log.items_called, List.append_nil]
      · rw [log, Log.brought_append, brought, Log.brought_called, List.nil_append]
        rfl

namespace Client

theorem log_notices (ns : List Notice) (w : World (σ × Log)) :
    (ns.foldl World.note w).log = w.log := by
  induction ns generalizing w with
  | nil => rfl
  | cons n ns ih => exact ih (w.note n)

/-- What is seen of a completion is patient, and its stream is settled. -/
structure Orderly (g : Regime) (result : Except Error (Reply Feed) × World (σ × Log)) : Prop where
  patient : result.2.log.Patient
  settled : ∀ f, result.1 = .ok (.stream f) → f.Settled g result.2.log

variable (c : Client σ) (g : Regime)

theorem orderly_opened (reply : Reply (List Item)) {w : World (σ × Log)}
    (patient : w.log.Patient) : Orderly g (.ok reply.opened, w) where
  patient := patient
  settled f h := by
    cases reply with
    | single e => cases h
    | stream items =>
        cases h
        exact .plain items

theorem orderly_error (e : Error) {w : World (σ × Log)} (patient : w.log.Patient) :
    Orderly g (.error e, w) :=
  ⟨patient, fun _ h => by cases h⟩

theorem orderly_continueReply (k : Continuation) (reply : Reply (List Item)) (w : World (σ × Log))
    (patient : w.log.Patient) (items : w.log.items = [])
    (brought : w.log.brought = streamItems (.ok reply)) :
    Orderly g (c.logged.continueReply g k reply w) := by
  rw [continueReply]
  split
  · cases reply with
    | single e => exact orderly_error g _ patient
    | stream next =>
        refine ⟨patient, ?_⟩
        intro f h
        cases h
        rw [Feed.feed_eq_reading]
        refine .reading k k.start next ?_
        show w.log.items ++ next = w.log.brought
        rw [items, brought]
        rfl
  · cases reply with
    | single first =>
        have later := (Continuation.completes k c.executor.logged g (k.start.absorb first) first
          w).patient patient items brought
        dsimp only [Reply.intoEnvelope]
        rw [Continuation.complete, executor_logged]
        generalize k.completeFrom c.executor.logged g _ _ w = result at later ⊢
        obtain ⟨r, v⟩ := result
        cases r with
        | error e => exact orderly_error g e later
        | ok e => exact ⟨later, fun _ h => by cases h⟩
    | stream next => exact orderly_error g _ patient

theorem orderly_completeNative (q : CompletionRequest) (r : Request) (w : World (σ × Log))
    (log : w.log = []) : Orderly g (c.logged.completeNative g q r w) := by
  rw [completeNative, executor_logged]
  generalize asked : c.executor.logged.invoke g r w = result
  obtain ⟨o, v⟩ := result
  have called := Executor.log_of_invoke asked
  rw [log, List.nil_append] at called
  have patient : v.log.Patient := by
    rw [called]
    exact Log.patient_nil.concat_called rfl r o
  cases o with
  | error e => exact orderly_error g e patient
  | ok reply =>
      dsimp only
      split
      · apply orderly_continueReply c g _ reply v patient
        · rw [called]
          rfl
        · rw [called]
          exact Log.brought_called r (.ok reply)
      · exact orderly_opened g reply patient

theorem orderly_completeAlternate (B : Backend σ) (r : Request) (w : World (σ × Log))
    (log : w.log = []) : Orderly g (c.logged.completeAlternate B.logged g r w) := by
  have delegated : ((B.logged.create g (c.alternateCall r)
      (w.note (.delegating (c.alternateCall r).model))).2.log).Patient := by
    show Log.Patient (w.log ++ [.delegated _ _])
    rw [log]
    exact Log.patient_nil.concat fun _ _ call => Observation.noConfusion call
  rw [completeAlternate]
  change (B.logged.create g (c.logged.alternateCall r)
    (w.note (.delegating (c.logged.alternateCall r).model))).2.log.Patient at delegated
  generalize B.logged.create g _ _ = result at delegated ⊢
  obtain ⟨o, v⟩ := result
  cases o with
  | error e => exact orderly_error g e delegated
  | ok reply => exact orderly_opened g reply delegated

theorem alternateFor_logged (model : Option String) :
    c.logged.alternateFor model = (c.alternateFor model).map Backend.logged := by
  unfold alternateFor logged
  cases c.alternate with
  | none => rfl
  | some B =>
      cases model with
      | none => rfl
      | some m =>
          dsimp only [Option.map_some]
          split <;> rfl

/-- The first call is made before anything else, and what follows is orderly. -/
theorem orderly_complete (q : CompletionRequest) (w : World σ) :
    Orderly g (c.logged.complete g q (w.withLog [])) := by
  rw [complete]
  cases q.messages.normalize with
  | error e => exact orderly_error g e Log.patient_nil
  | ok messages =>
      have log := log_notices (q.notices messages) (w.withLog [])
      rw [World.log_withLog] at log
      dsimp only
      rw [alternateFor_logged]
      cases c.alternateFor (q.request messages).model with
      | none => exact orderly_completeNative c g q _ _ log
      | some B => exact orderly_completeAlternate c g B _ _ log

/-- In no trace is a call made before all items have been handed on that the calls before it have
brought. -/
theorem patient_trace (q : CompletionRequest) (n : Nat) (w : World σ) :
    (c.trace g q n w).Patient := by
  have orderly := orderly_complete c g q w
  rw [trace]
  generalize c.logged.complete g q (w.withLog []) = result at orderly ⊢
  obtain ⟨r, v⟩ := result
  rcases r with e | ⟨e | f⟩
  · exact orderly.patient
  · exact orderly.patient
  · exact Feed.patient_watch (orderly.settled f rfl) orderly.patient n

end Client

end ChatClient
