import ChatClient.Proofs.Session.Patience

/-!
# The two regimes

Two clients, each in a regime of its own, do the same when their executors and backends answer alike
call by call. That they do is told by a relation between worlds that no call and no notice breaks
(`Client.Agrees`); the worlds themselves may differ. The streams that such clients hand out stand at
the same place of the same continuation (`Feed.Twin`), which every request for an item preserves, so
the two logs are the same whenever the reader stops (`regimes_agree`).

A client and the same client with a log agree in the same sense (`Client.agrees_logged`): to be
watched changes nothing.
-/

namespace ChatClient

variable {σ τ : Type}

/-- The same results, and worlds that are related. -/
def Alike {α : Type} (R : World σ → World τ → Prop) (p : α × World σ) (q : α × World τ) : Prop :=
  p.1 = q.1 ∧ R p.2 q.2

/-- Two executors, each in a regime, that answer alike. -/
structure Executor.Agrees (E₁ : Executor σ) (g₁ : Regime) (E₂ : Executor τ) (g₂ : Regime)
    (R : World σ → World τ → Prop) : Prop where
  note : ∀ {w₁ w₂}, R w₁ w₂ → ∀ n, R (w₁.note n) (w₂.note n)
  invoke : ∀ {w₁ w₂}, R w₁ w₂ → ∀ r, Alike R (E₁.invoke g₁ r w₁) (E₂.invoke g₂ r w₂)

/-- Two backends, each in a regime, that answer alike. -/
def Backend.Agrees (B₁ : Backend σ) (g₁ : Regime) (B₂ : Backend τ) (g₂ : Regime)
    (R : World σ → World τ → Prop) : Prop :=
  ∀ {w₁ w₂}, R w₁ w₂ → ∀ call, Alike R (B₁.create g₁ call w₁) (B₂.create g₂ call w₂)

/-- Two clients, each in a regime, with the same settings and with executors and backends that
answer alike. -/
structure Client.Agrees (c₁ : Client σ) (g₁ : Regime) (c₂ : Client τ) (g₂ : Regime)
    (R : World σ → World τ → Prop) : Prop where
  settings : c₁.settings = c₂.settings
  executor : c₁.executor.Agrees g₁ c₂.executor g₂ R
  alternate : Option.Rel (fun B₁ B₂ => B₁.Agrees g₁ B₂ g₂ R) c₁.alternate c₂.alternate

/-- Two streams at the same place, each in a regime. -/
inductive Feed.Twin (g₁ g₂ : Regime) : Feed → Feed → Prop
  | plain (items : List Item) : Twin g₁ g₂ (.plain items) (.plain items)
  | reading (c : Continuation) (st : Continuation.State) (items : List Item) :
      Twin g₁ g₂ (reading g₁ c st items) (reading g₂ c st items)
  | closed (c : Continuation) (st : Continuation.State) :
      Twin g₁ g₂ (closed g₁ c st) (closed g₂ c st)

/-- Results that differ in nothing but the regimes of their streams. -/
inductive SameResult (g₁ g₂ : Regime) :
    Except Error (Reply Feed) → Except Error (Reply Feed) → Prop
  | error (e : Error) : SameResult g₁ g₂ (.error e) (.error e)
  | single (e : Envelope) : SameResult g₁ g₂ (.ok (.single e)) (.ok (.single e))
  | stream {f₁ f₂ : Feed} (twin : f₁.Twin g₁ g₂ f₂) :
      SameResult g₁ g₂ (.ok (.stream f₁)) (.ok (.stream f₂))

/-! ## Continuations -/

namespace Executor.Agrees

open Continuation

variable {E₁ : Executor σ} {E₂ : Executor τ} {g₁ g₂ : Regime} {R : World σ → World τ → Prop}

/-- The second executor answers a call as the first one has answered it. -/
theorem answer (h : E₁.Agrees g₁ E₂ g₂ R) {w₁ v₁ : World σ} {w₂ : World τ} (hw : R w₁ w₂)
    {r : Request} {o : Outcome} (asked : E₁.invoke g₁ r w₁ = (o, v₁)) :
    ∃ v₂, E₂.invoke g₂ r w₂ = (o, v₂) ∧ R v₁ v₂ := by
  obtain ⟨same, hv⟩ := h.invoke hw r
  rw [asked] at same hv
  exact ⟨_, Prod.ext same.symm rfl, hv⟩

theorem completes (h : E₁.Agrees g₁ E₂ g₂ R) {c : Continuation} {st : State} {last : Envelope}
    {w₁ : World σ} {result : Except Error Envelope × World σ}
    (completes : Completes c E₁ g₁ st last w₁ result) {w₂ : World τ} (hw : R w₁ w₂) :
    Alike R result (c.completeFrom E₂ g₂ st last w₂) := by
  induction completes generalizing w₂ with
  | whole whole last w =>
      rw [completeFrom_of_whole c E₂ g₂ whole, finish, finish]
      split
      · exact ⟨rfl, h.note hw _⟩
      · exact ⟨rfl, hw⟩
  | refused cut refused last w =>
      rw [completeFrom_of_refused c E₂ g₂ cut refused]
      exact ⟨rfl, hw⟩
  | @unanswered st st' o e last w w' cut begun asked unanswered =>
      obtain ⟨v₂, asked₂, hv⟩ := h.answer (h.note hw _) asked
      rw [completeFrom_of_begun c E₂ g₂ cut begun, asked₂]
      rcases o with e' | ⟨e' | items⟩
      · cases unanswered
        exact ⟨rfl, hv⟩
      · cases unanswered
      · cases unanswered
        exact ⟨rfl, hv⟩
  | continued cut begun asked rest ih =>
      obtain ⟨v₂, asked₂, hv⟩ := h.answer (h.note hw _) asked
      rw [completeFrom_of_begun c E₂ g₂ cut begun, asked₂]
      exact ih hv

/-- From the stream of a call, twins give the same item and are twins again. -/
theorem reads (h : E₁.Agrees g₁ E₂ g₂ R) {c : Continuation} {st : State} {items : List Item}
    {w₁ : World σ} {result : Option Item × Feed × World σ}
    (reads : Feed.Reads E₁ g₁ c st items w₁ result) {w₂ : World τ} (hw : R w₁ w₂) :
    ∃ f₂ v₂, (Feed.reading g₂ c st items).next E₂ w₂ = (result.1, f₂, v₂) ∧
      result.2.1.Twin g₁ g₂ f₂ ∧ R result.2.2 v₂ := by
  induction reads generalizing w₂ with
  | ok st e rest w =>
      exact ⟨_, _, Feed.next_reading_ok E₂ g₂ c st e rest w₂, .reading c _ rest, hw⟩
  | error st e rest w =>
      exact ⟨_, _, Feed.next_reading_error E₂ g₂ c st e rest w₂, .closed c st, hw⟩
  | @whole st whole w =>
      refine ⟨_, _, Feed.next_reading_nil_of_whole E₂ g₂ c whole w₂, .closed c st, ?_⟩
      rw [Generator.noteEnd, Generator.noteEnd]
      split
      · exact h.note hw _
      · exact hw
  | @refused st e cut refused w =>
      exact ⟨_, _, Feed.next_reading_nil_of_refused E₂ g₂ c cut refused w₂, .closed c st, hw⟩
  | @unanswered st st' o e w w' cut begun asked unanswered =>
      obtain ⟨v₂, asked₂, hv⟩ := h.answer (h.note hw _) asked
      rw [Feed.next_reading_nil_of_begun E₂ g₂ c cut begun, asked₂]
      rcases o with e' | ⟨e' | items⟩
      · cases unanswered
        exact ⟨_, _, rfl, .closed c st', hv⟩
      · cases unanswered
        exact ⟨_, _, rfl, .closed c st', hv⟩
      · cases unanswered
  | continued cut begun asked rest ih =>
      -- within the same request both go on with the stream that the call has brought
      obtain ⟨v₂, asked₂, hv⟩ := h.answer (h.note hw _) asked
      rw [Feed.next_reading_nil_of_begun E₂ g₂ c cut begun, asked₂]
      exact ih hv

/-- Asked for an item, twins give the same one and are twins again. -/
theorem next (h : E₁.Agrees g₁ E₂ g₂ R) {f₁ f₂ : Feed} (twin : f₁.Twin g₁ g₂ f₂) {w₁ : World σ}
    {w₂ : World τ} (hw : R w₁ w₂) :
    ∃ f₂' v₂, f₂.next E₂ w₂ = ((f₁.next E₁ w₁).1, f₂', v₂) ∧
      (f₁.next E₁ w₁).2.1.Twin g₁ g₂ f₂' ∧ R (f₁.next E₁ w₁).2.2 v₂ := by
  cases twin with
  | plain items =>
      cases items with
      | nil => exact ⟨_, _, rfl, .plain [], hw⟩
      | cons item rest => exact ⟨_, _, rfl, .plain rest, hw⟩
  | reading c st items => exact h.reads (Feed.reads_next E₁ g₁ c st items w₁) hw
  | closed c st =>
      rw [Feed.closed_ended E₁ g₁ c st w₁]
      exact ⟨_, _, Feed.closed_ended E₂ g₂ c st w₂, .closed c st, hw⟩

end Executor.Agrees

/-! ## Clients -/

/-- Opened as they are, streams are twins. -/
theorem sameResult_opened (g₁ g₂ : Regime) (reply : Reply (List Item)) :
    SameResult g₁ g₂ (.ok reply.opened) (.ok reply.opened) := by
  cases reply with
  | single e => exact .single e
  | stream items => exact .stream (.plain items)

namespace Client.Agrees

variable {c₁ : Client σ} {c₂ : Client τ} {g₁ g₂ : Regime} {R : World σ → World τ → Prop}

theorem alternateFor (h : c₁.Agrees g₁ c₂ g₂ R) (model : Option String) :
    Option.Rel (fun B₁ B₂ => B₁.Agrees g₁ B₂ g₂ R) (c₁.alternateFor model)
      (c₂.alternateFor model) := by
  unfold Client.alternateFor
  rw [← h.settings]
  -- either both have a backend or neither
  have served := h.alternate
  generalize c₁.alternate = B₁ at served ⊢
  generalize c₂.alternate = B₂ at served ⊢
  cases served with
  | none => exact .none
  | some agree =>
      cases model with
      | none => exact .none
      | some m =>
          dsimp only
          split
          · exact .some agree
          · exact .none

theorem notices (h : c₁.Agrees g₁ c₂ g₂ R) (ns : List Notice) {w₁ : World σ} {w₂ : World τ}
    (hw : R w₁ w₂) : R (ns.foldl World.note w₁) (ns.foldl World.note w₂) := by
  induction ns generalizing w₁ w₂ with
  | nil => exact hw
  | cons n ns ih => exact ih (h.executor.note hw n)

theorem continueReply (h : c₁.Agrees g₁ c₂ g₂ R) (k : Continuation) (reply : Reply (List Item))
    {w₁ : World σ} {w₂ : World τ} (hw : R w₁ w₂) :
    SameResult g₁ g₂ (c₁.continueReply g₁ k reply w₁).1 (c₂.continueReply g₂ k reply w₂).1 ∧
      R (c₁.continueReply g₁ k reply w₁).2 (c₂.continueReply g₂ k reply w₂).2 := by
  rw [Client.continueReply, Client.continueReply]
  split
  · cases reply with
    | single e => exact ⟨.error _, hw⟩
    | stream items =>
        refine ⟨.stream ?_, hw⟩
        rw [Feed.feed_eq_reading, Feed.feed_eq_reading]
        exact .reading k k.start items
  · cases reply with
    | single first =>
        obtain ⟨same, hv⟩ := h.executor.completes
          (Continuation.completes k c₁.executor g₁ (k.start.absorb first) first w₁) hw
        dsimp only [Reply.intoEnvelope]
        rw [Continuation.complete, Continuation.complete]
        generalize k.completeFrom c₁.executor g₁ (k.start.absorb first) first w₁ = p at same hv
        generalize k.completeFrom c₂.executor g₂ (k.start.absorb first) first w₂ = q at same hv
        obtain ⟨r, v₁⟩ := p
        obtain ⟨r', v₂⟩ := q
        obtain rfl : r = r' := same
        cases r with
        | error e => exact ⟨.error e, hv⟩
        | ok e => exact ⟨.single e, hv⟩
    | stream items => exact ⟨.error _, hw⟩

theorem completeNative (h : c₁.Agrees g₁ c₂ g₂ R) (q : CompletionRequest) (r : Request)
    {w₁ : World σ} {w₂ : World τ} (hw : R w₁ w₂) :
    SameResult g₁ g₂ (c₁.completeNative g₁ q r w₁).1 (c₂.completeNative g₂ q r w₂).1 ∧
      R (c₁.completeNative g₁ q r w₁).2 (c₂.completeNative g₂ q r w₂).2 := by
  generalize asked : c₁.executor.invoke g₁ r w₁ = answer
  obtain ⟨o, v₁⟩ := answer
  obtain ⟨v₂, asked₂, hv⟩ := h.executor.answer hw asked
  rw [Client.completeNative, Client.completeNative, asked, asked₂]
  cases o with
  | error e => exact ⟨.error e, hv⟩
  | ok reply =>
      dsimp only
      rw [cap, cap, ← h.settings]
      split
      · exact h.continueReply _ reply hv
      · exact ⟨sameResult_opened g₁ g₂ reply, hv⟩

theorem completeAlternate (h : c₁.Agrees g₁ c₂ g₂ R) {B₁ : Backend σ} {B₂ : Backend τ}
    (agree : B₁.Agrees g₁ B₂ g₂ R) (r : Request) {w₁ : World σ} {w₂ : World τ} (hw : R w₁ w₂) :
    SameResult g₁ g₂ (c₁.completeAlternate B₁ g₁ r w₁).1 (c₂.completeAlternate B₂ g₂ r w₂).1 ∧
      R (c₁.completeAlternate B₁ g₁ r w₁).2 (c₂.completeAlternate B₂ g₂ r w₂).2 := by
  have calls : c₁.alternateCall r = c₂.alternateCall r := by
    rw [alternateCall, alternateCall, h.settings]
  rw [Client.completeAlternate, Client.completeAlternate, ← calls]
  have noted := h.executor.note hw (.delegating (c₁.alternateCall r).model)
  obtain ⟨same, hv⟩ := agree noted (c₁.alternateCall r)
  generalize B₁.create g₁ _ _ = p at same hv
  generalize B₂.create g₂ _ _ = q at same hv
  obtain ⟨o, v₁⟩ := p
  obtain ⟨o', v₂⟩ := q
  obtain rfl : o = o' := same
  cases o with
  | error e => exact ⟨.error e, hv⟩
  | ok reply => exact ⟨sameResult_opened g₁ g₂ reply, hv⟩

/-- A completion gives the same result, and the worlds stay related. -/
theorem complete (h : c₁.Agrees g₁ c₂ g₂ R) (q : CompletionRequest) {w₁ : World σ} {w₂ : World τ}
    (hw : R w₁ w₂) :
    SameResult g₁ g₂ (c₁.complete g₁ q w₁).1 (c₂.complete g₂ q w₂).1 ∧
      R (c₁.complete g₁ q w₁).2 (c₂.complete g₂ q w₂).2 := by
  rw [Client.complete, Client.complete]
  cases q.messages.normalize with
  | error e => exact ⟨.error e, hw⟩
  | ok messages =>
      dsimp only
      have noted := h.notices (q.notices messages) hw
      have served := h.alternateFor (q.request messages).model
      generalize c₁.alternateFor _ = B₁ at served
      generalize c₂.alternateFor _ = B₂ at served
      cases served with
      | none => exact h.completeNative q _ noted
      | some agree => exact h.completeAlternate agree _ noted

end Client.Agrees

/-! ## Logs -/

/-- Logged worlds that are related, with the same log. -/
def WithLogs (R : World σ → World τ → Prop) (w₁ : World (σ × Log)) (w₂ : World (τ × Log)) : Prop :=
  R w₁.unlogged w₂.unlogged ∧ w₁.log = w₂.log

section Logs

variable {g₁ g₂ : Regime} {R : World σ → World τ → Prop}

theorem WithLogs.observe {w₁ : World (σ × Log)} {w₂ : World (τ × Log)} (hw : WithLogs R w₁ w₂)
    (ob : Observation) : WithLogs R (w₁.observe ob) (w₂.observe ob) :=
  ⟨hw.1, congrArg (· ++ [ob]) hw.2⟩

theorem Executor.Agrees.logged {E₁ : Executor σ} {E₂ : Executor τ} (h : E₁.Agrees g₁ E₂ g₂ R) :
    E₁.logged.Agrees g₁ E₂.logged g₂ (WithLogs R) where
  note hw n := ⟨h.note hw.1 n, hw.2⟩
  invoke := by
    intro w₁ w₂ hw r
    obtain ⟨same, hv⟩ := h.invoke hw.1 r
    refine ⟨same, hv, ?_⟩
    show w₁.log ++ [.called r _] = w₂.log ++ [.called r _]
    rw [hw.2, same]

theorem Backend.Agrees.logged {B₁ : Backend σ} {B₂ : Backend τ} (h : B₁.Agrees g₁ B₂ g₂ R) :
    B₁.logged.Agrees g₁ B₂.logged g₂ (WithLogs R) := by
  intro w₁ w₂ hw call
  obtain ⟨same, hv⟩ := h hw.1 call
  refine ⟨same, hv, ?_⟩
  show w₁.log ++ [.delegated call _] = w₂.log ++ [.delegated call _]
  rw [hw.2, same]

theorem Client.Agrees.logged {c₁ : Client σ} {c₂ : Client τ} (h : c₁.Agrees g₁ c₂ g₂ R) :
    c₁.logged.Agrees g₁ c₂.logged g₂ (WithLogs R) where
  settings := h.settings
  executor := h.executor.logged
  alternate := by
    unfold Client.logged
    have served := h.alternate
    generalize c₁.alternate = B₁ at served ⊢
    generalize c₂.alternate = B₂ at served ⊢
    cases served with
    | none => exact .none
    | some agree => exact .some agree.logged

/-- Twins that are watched leave the same log. -/
theorem Executor.Agrees.watch {E₁ : Executor (σ × Log)} {E₂ : Executor (τ × Log)}
    (h : E₁.Agrees g₁ E₂ g₂ (WithLogs R)) {f₁ f₂ : Feed} (twin : f₁.Twin g₁ g₂ f₂)
    {w₁ : World (σ × Log)} {w₂ : World (τ × Log)} (hw : WithLogs R w₁ w₂) (n : Nat) :
    WithLogs R (f₁.watch E₁ n w₁).2 (f₂.watch E₂ n w₂).2 := by
  induction n generalizing f₁ f₂ w₁ w₂ with
  | zero => exact hw
  | succ n ih =>
      obtain ⟨f₂', v₂, step, twin', hv⟩ := h.next twin hw
      rw [Feed.watch, Feed.watch, step]
      exact ih twin' (hv.observe _)

/-- Clients that agree are seen to do the same. -/
theorem Client.Agrees.trace {c₁ : Client σ} {c₂ : Client τ} (h : c₁.Agrees g₁ c₂ g₂ R)
    (q : CompletionRequest) {w₁ : World σ} {w₂ : World τ} (hw : R w₁ w₂) (n : Nat) :
    c₁.trace g₁ q n w₁ = c₂.trace g₂ q n w₂ := by
  have start : WithLogs R (w₁.withLog []) (w₂.withLog []) := ⟨hw, rfl⟩
  obtain ⟨same, hv⟩ := h.logged.complete q start
  rw [Client.trace, Client.trace]
  generalize c₁.logged.complete g₁ q (w₁.withLog []) = p at same hv
  generalize c₂.logged.complete g₂ q (w₂.withLog []) = p' at same hv
  obtain ⟨r, v₁⟩ := p
  obtain ⟨r', v₂⟩ := p'
  cases same with
  | error e => exact hv.2
  | single e => exact hv.2
  | stream twin => exact (h.logged.executor.watch twin hv n).2

end Logs

/-- A client does with a log what it does without one. -/
theorem Client.agrees_logged (c : Client σ) (g : Regime) :
    c.Agrees g c.logged g (fun w w' => w'.unlogged = w) where
  settings := rfl
  executor := {
    note := by
      rintro w w' rfl n
      rfl
    invoke := by
      rintro w w' rfl r
      exact ⟨rfl, rfl⟩ }
  alternate := by
    unfold logged
    cases c.alternate with
    | none => exact .none
    | some B =>
        refine .some ?_
        rintro w w' rfl call
        exact ⟨rfl, rfl⟩

/-- In the same regime the same result is just that. -/
theorem SameResult.eq {g : Regime} {r r' : Except Error (Reply Feed)} (h : SameResult g g r r') :
    r = r' := by
  cases h with
  | error e => rfl
  | single e => rfl
  | stream twin => cases twin <;> rfl

/-- The result of a completion with a log, and its world but for the log, are those without one. -/
theorem Client.complete_logged (c : Client σ) (g : Regime) (q : CompletionRequest)
    (w : World (σ × Log)) :
    (c.logged.complete g q w).1 = (c.complete g q w.unlogged).1 ∧
      (c.logged.complete g q w).2.unlogged = (c.complete g q w.unlogged).2 := by
  have start : (fun (v : World σ) (v' : World (σ × Log)) => v'.unlogged = v) w.unlogged w := rfl
  obtain ⟨same, hv⟩ := (c.agrees_logged g).complete q start
  exact ⟨same.eq.symm, hv⟩

namespace Client

/-- It is enough that the executor and the backend do not look at the regime. -/
theorem agrees_of_eq {c : Client σ}
    (executor : ∀ r w, c.executor.invoke .async r w = c.executor.invoke .blocking r w)
    (alternate : ∀ B ∈ c.alternate, ∀ call w, B.create .async call w = B.create .blocking call w) :
    c.Agrees .async c .blocking Eq where
  settings := rfl
  executor := {
    note := by
      rintro w _ rfl n
      rfl
    invoke := by
      rintro w _ rfl r
      rw [executor]
      exact ⟨rfl, rfl⟩ }
  alternate := by
    cases served : c.alternate with
    | none => exact .none
    | some B =>
        refine .some ?_
        rintro w _ rfl call
        rw [alternate B served]
        exact ⟨rfl, rfl⟩

/-- A client whose executor and backend answer alike in both regimes does the same in both: a
completion gives the same error, the same envelope or streams at the same place, and however many
items are asked for, the same calls are made between the same items. No call is made before all
items have been handed on that the calls before it have brought. -/
theorem regimes_agree {c : Client σ} {R : World σ → World σ → Prop}
    (agree : c.Agrees .async c .blocking R) (q : CompletionRequest) {w₁ w₂ : World σ}
    (hw : R w₁ w₂) :
    SameResult .async .blocking (c.complete .async q w₁).1 (c.complete .blocking q w₂).1 ∧
      ∀ n, c.trace .async q n w₁ = c.trace .blocking q n w₂ ∧ (c.trace .async q n w₁).Patient := by
  refine ⟨(agree.complete q hw).1, ?_⟩
  intro n
  exact ⟨agree.trace q hw n, c.patient_trace .async q n w₁⟩

/-- A scripted client, whose stream is continued once and read past its end. -/
theorem regimes_agree_of_script :
    let c : Client Script := { settings := {}, executor := Script.executor,
                               alternate := some Script.backend }
    let q : CompletionRequest := { messages := .typed [⟨.user, "hi"⟩], stream := true,
                                   autoContinue := true }
    let w : World Script := { supplier := [.ok (.stream [.ok (.fragment "a" true)]),
                                           .ok (.stream [.ok (.fragment "b" false)])] }
    c.Agrees .async c .blocking Eq ∧ c.trace .async q 4 w = c.trace .blocking q 4 w ∧
      (c.trace .async q 4 w).Patient := by
  intro c q w
  have agree : c.Agrees .async c .blocking Eq :=
    agrees_of_eq (fun _ _ => rfl) (by rintro B hB call w; cases hB; rfl)
  exact ⟨agree, (regimes_agree agree q rfl).2 4⟩

end Client

end ChatClient
