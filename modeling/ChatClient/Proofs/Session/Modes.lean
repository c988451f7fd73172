import ChatClient.Proofs.Continuation.Stream
import ChatClient.Proofs.Session.Patience

/-!
# A reply at once and in pieces

The same completion can be asked for as a single reply and as a stream. Two executors correspond
when each call is answered by the one with an envelope and by the other with a stream that renders
it (`Renders`), or fails for both with the same error (`Executor.Corresponds`). The envelopes of the
one run and the streams of the other then go side by side (`Continuation.Mirrors`); as the calls
depend on the texts alone, every round of the one is a round of the other
(`Continuation.streamRun_of_singleRun`), and both come to the same end.
-/

namespace ChatClient

variable {σ τ : Type}

/-- A stream of envelopes with the text of one envelope, the last of them truncated just if that one
is. Nothing is said of the flags before. -/
def Renders (items : List Item) (e : Envelope) : Prop :=
  ∃ chunks last, items = (chunks ++ [last]).map .ok ∧
    String.join ((chunks ++ [last]).map Envelope.result) = e.result ∧
    last.isTruncated = e.isTruncated

/-- Outcomes of the same call, for a single reply and for a stream. -/
inductive OutcomesCorrespond : Outcome → Outcome → Prop
  | answered {e : Envelope} {items : List Item} (renders : Renders items e) :
      OutcomesCorrespond (.ok (.single e)) (.ok (.stream items))
  | failed (e : Error) : OutcomesCorrespond (.error e) (.error e)

/-- The second executor answers calls for a stream as the first one answers those for a single
reply. What either session notes makes no difference. -/
structure Executor.Corresponds (E₁ : Executor σ) (g₁ : Regime) (E₂ : Executor τ) (g₂ : Regime)
    (R : World σ → World τ → Prop) : Prop where
  note_left : ∀ {w₁ w₂}, R w₁ w₂ → ∀ n, R (w₁.note n) w₂
  note_right : ∀ {w₁ w₂}, R w₁ w₂ → ∀ n, R w₁ (w₂.note n)
  invoke : ∀ {w₁ w₂}, R w₁ w₂ → ∀ r : Request,
    OutcomesCorrespond (E₁.invoke g₁ { r with stream := false } w₁).1
      (E₂.invoke g₂ { r with stream := true } w₂).1 ∧
    R (E₁.invoke g₁ { r with stream := false } w₁).2 (E₂.invoke g₂ { r with stream := true } w₂).2

/-- The envelopes that the calls have brought. -/
def Log.replies (l : Log) : List Envelope :=
  l.outcomes.filterMap fun o =>
    match o with
    | .ok (.single e) => some e
    | _ => none

theorem Log.replies_append (l m : Log) : replies (l ++ m) = replies l ++ replies m := by
  rw [replies, outcomes_append, List.filterMap_append]
  rfl

/-- The same calls in the same order, made for a single reply and for a stream. -/
def SameCalls (l₁ l₂ : Log) : Prop :=
  l₂.requests = l₁.requests.map fun r => { r with stream := true }

/-- What a stream gives in place of what the same completion gives at once. The envelopes are those
of the calls that were answered. -/
inductive Retold : Except Error (Reply Feed) → List Envelope → Except Error (List Item) → Prop
  /-- Both fail with the error of the first call. -/
  | refused (e : Error) : Retold (.error e) [] (.error e)
  /-- All items are envelopes, which have the text of the reply, and the last one is whole. -/
  | whole {r : Envelope} {answered : List Envelope} (chunks : List Envelope) (last : Envelope)
      (text : String.join ((chunks ++ [last]).map Envelope.result) = r.result)
      (uncut : last.isTruncated = false) :
      Retold (.ok (.single r)) answered (.ok ((chunks ++ [last]).map .ok))
  /-- After the text of all calls that were answered comes the error, as the last item. -/
  | broken {e : Error} {answered : List Envelope} (begun : answered ≠ []) (chunks : List Envelope)
      (text : String.join (chunks.map Envelope.result) =
        String.join (answered.map Envelope.result)) :
      Retold (.error e) answered (.ok (chunks.map .ok ++ [.error e]))

/-! ## One stream for one envelope -/

namespace Renders

open Continuation

variable {items : List Item} {e : Envelope}

theorem errorFree (h : Renders items e) : ErrorFree items := by
  obtain ⟨chunks, last, rfl, -, -⟩ := h
  exact errorFree_map_ok _

theorem text (h : Renders items e) : streamText items = e.result := by
  obtain ⟨chunks, last, rfl, text, -⟩ := h
  rw [streamText, envelopes_map_ok, text]

theorem flagAfter (h : Renders items e) (before : Bool) :
    Continuation.flagAfter before items = e.isTruncated := by
  obtain ⟨chunks, last, rfl, -, flag⟩ := h
  rw [Continuation.flagAfter, envelopes_map_ok, List.getLast?_concat]
  exact flag

end Renders

namespace Continuation

/-- The streams of one run beside the envelopes of another. -/
structure Mirrors (first : List Item) (next : List (List Item)) (r₀ : Envelope)
    (rs : List Envelope) : Prop where
  length : next.length = rs.length
  texts : (first :: next).map streamText = (r₀ :: rs).map Envelope.result
  last : Renders (next.getLastD first) (rs.getLastD r₀)

namespace Mirrors

variable {first : List Item} {next : List (List Item)} {r₀ : Envelope} {rs : List Envelope}

theorem flag (h : Mirrors first next r₀ rs) :
    truncatedAfter (first :: next).flatten = (rs.getLastD r₀).isTruncated := by
  rw [← StreamRun.flatten_dropLast_append, truncatedAfter, flagAfter_append, h.last.flagAfter]

theorem concat (h : Mirrors first next r₀ rs) {items : List Item} {e : Envelope}
    (renders : Renders items e) : Mirrors first (next ++ [items]) r₀ (rs ++ [e]) where
  length := by rw [List.length_append, List.length_append, h.length]; rfl
  texts := by
    rw [← List.cons_append, ← List.cons_append, List.map_append, List.map_append, h.texts,
      List.map_singleton, List.map_singleton, renders.text]
  last := by
    rw [List.getLastD_concat, List.getLastD_concat]
    exact renders

/-- The streams together are the envelopes of one long stream. -/
theorem flatten (h : Mirrors first next r₀ rs)
    (free : ∀ s ∈ (first :: next).dropLast, ErrorFree s) :
    ∃ chunks last, (first :: next).flatten = (chunks ++ [last]).map .ok ∧
      String.join ((chunks ++ [last]).map Envelope.result) =
        String.join ((r₀ :: rs).map Envelope.result) ∧
      last.isTruncated = (rs.getLastD r₀).isTruncated := by
  obtain ⟨chunks, last, items, -, flag⟩ := h.last
  have all : (first :: next).flatten =
      ((envelopes (first :: next).dropLast.flatten ++ chunks) ++ [last]).map .ok := by
    rw [← StreamRun.flatten_dropLast_append, items]
    conv => lhs; rw [← map_ok_envelopes (errorFree_flatten free)]
    rw [← List.map_append, List.append_assoc]
  refine ⟨_, last, all, ?_, flag⟩
  rw [← h.texts, ← streamText_flatten, all, streamText, envelopes_map_ok]

end Mirrors

/-! ## The simulation -/

section Simulation

variable {E₁ : Executor σ} {E₂ : Executor τ} {g₁ g₂ : Regime} {R : World σ → World τ → Prop}
  {c₁ c₂ : Continuation}

/-- The next calls of both correspond when the texts so far are the same. -/
theorem ask_corresponds (corr : E₁.Corresponds g₁ E₂ g₂ R) (calls : c₁.followUp = c₂.followUp)
    (texts : List String) {w₁ : World σ} {w₂ : World τ} (hw : R w₁ w₂) :
    OutcomesCorrespond (c₁.ask E₁ g₁ false texts w₁).1 (c₂.ask E₂ g₂ true texts w₂).1 ∧
      R (c₁.ask E₁ g₁ false texts w₁).2 (c₂.ask E₂ g₂ true texts w₂).2 := by
  have noted := corr.note_right (corr.note_left hw (c₁.round false texts).1) (c₂.round true texts).1
  have answers := corr.invoke noted (c₁.followUp false texts)
  rw [ask, ask, ← calls]
  exact answers

/-- Every run for a single reply is mirrored by a run for a stream. -/
theorem streamRun_of_singleRun (corr : E₁.Corresponds g₁ E₂ g₂ R)
    (calls : c₁.followUp = c₂.followUp) (caps : c₁.maxRounds = c₂.maxRounds) {first : List Item}
    {r₀ : Envelope} (renders : Renders first r₀) {w₁ w₁' : World σ} {w₂ : World τ} (hw : R w₁ w₂)
    {rs : List Envelope} (run : c₁.SingleRun E₁ g₁ r₀ rs w₁ w₁') :
    ∃ next w₂', c₂.StreamRun E₂ g₂ first next w₂ w₂' ∧ Mirrors first next r₀ rs ∧ R w₁' w₂' := by
  induction rs using List.reverseRecOn generalizing w₁' with
  | nil =>
      have same : (([] : List Outcome), w₁) = ([], w₁') := run.asked
      cases same
      exact ⟨[], w₂, .nil c₂ E₂ g₂ first w₂, ⟨rfl, by simp [renders.text], renders⟩, hw⟩
  | append_singleton rs e ih =>
      obtain ⟨v₁, before, cut, allowed, answered⟩ := SingleRun.concat_iff.1 run
      obtain ⟨next, v₂, stream, mirrors, hv⟩ := ih before
      -- the texts so far are the same, so the two next calls correspond
      obtain ⟨same, hv'⟩ := ask_corresponds corr calls ((r₀ :: rs).map Envelope.result) hv
      rw [answered] at same hv'
      generalize answer : c₂.ask E₂ g₂ true ((r₀ :: rs).map Envelope.result) v₂ = result
        at same hv'
      obtain ⟨o, w₂'⟩ := result
      cases same with
      | answered shown =>
          rw [← mirrors.texts] at answer
          rw [← mirrors.length] at allowed
          have room : c₂.Allows (next.length + 1) := fun m hm => allowed m (caps ▸ hm)
          exact ⟨_, w₂', StreamRun.concat_iff.2
            ⟨v₂, stream, mirrors.last.errorFree, mirrors.flag.trans cut, room, answer⟩,
            mirrors.concat shown, hv'⟩

end Simulation

/-- The envelopes of a run are logged. -/
theorem SingleRun.replies {c : Continuation} {E : Executor σ} {g : Regime} {r₀ : Envelope}
    {rs : List Envelope} {w w' : World (σ × Log)} (run : c.SingleRun E.logged g r₀ rs w w') :
    w'.log.replies = w.log.replies ++ rs := by
  induction rs using List.reverseRecOn generalizing w' with
  | nil =>
      have same : (([] : List Outcome), w) = ([], w') := run.asked
      cases same
      exact (List.append_nil _).symm
  | append_singleton rs e ih =>
      obtain ⟨v, before, -, -, answered⟩ := SingleRun.concat_iff.1 run
      rw [Executor.log_of_invoke answered, World.log_note, Log.replies_append, ih before,
        List.append_assoc]
      rfl

end Continuation

/-! ## With the calls -/

/-- Logged worlds that are related, with the same calls so far. -/
def WithSameCalls (R : World σ → World τ → Prop) (w₁ : World (σ × Log)) (w₂ : World (τ × Log)) :
    Prop :=
  R w₁.unlogged w₂.unlogged ∧ SameCalls w₁.log w₂.log

section Logged

variable {E₁ : Executor σ} {E₂ : Executor τ} {g₁ g₂ : Regime} {R : World σ → World τ → Prop}

theorem SameCalls.concat {l₁ l₂ : Log} (h : SameCalls l₁ l₂) (r : Request) (o₁ o₂ : Outcome) :
    SameCalls (l₁ ++ [.called { r with stream := false } o₁])
      (l₂ ++ [.called { r with stream := true } o₂]) := by
  rw [SameCalls, Log.requests_append, Log.requests_append, h, List.map_append]
  rfl

/-- Logged, corresponding executors correspond. -/
theorem Executor.Corresponds.logged (h : E₁.Corresponds g₁ E₂ g₂ R) :
    E₁.logged.Corresponds g₁ E₂.logged g₂ (WithSameCalls R) where
  note_left hw n := ⟨h.note_left hw.1 n, hw.2⟩
  note_right hw n := ⟨h.note_right hw.1 n, hw.2⟩
  invoke := by
    intro w₁ w₂ hw r
    obtain ⟨same, hv⟩ := h.invoke hw.1 r
    exact ⟨same, hv, hw.2.concat r _ _⟩

open Continuation

/-- Continued from its first items, the stream tells what the single reply tells that is continued
from its first envelope, with the same calls. -/
def Continuation.Retells (c₁ : Continuation) (E₁ : Executor σ) (g₁ : Regime) (r₀ : Envelope)
    (w₁ : World (σ × Log)) (c₂ : Continuation) (E₂ : Executor τ) (g₂ : Regime)
    (first : List Item) (w₂ : World (τ × Log)) : Prop :=
  ∃ result v₁ items v₂, c₁.complete E₁.logged g₁ r₀ w₁ = (result, v₁) ∧
    (c₂.feed g₂ first).Yields E₂.logged w₂ items v₂ ∧ SameCalls v₁.log v₂.log ∧
    Retold (result.map .single) v₁.log.replies (.ok items)

namespace Continuation.Mirrors

variable {c₁ c₂ : Continuation} {first : List Item} {next : List (List Item)} {r₀ : Envelope}
  {rs : List Envelope} {w₁ v₁ : World (σ × Log)} {w₂ v₂ : World (τ × Log)}

theorem retells_of_whole (mirrors : Mirrors first next r₀ rs)
    (run : c₁.SingleRun E₁.logged g₁ r₀ rs w₁ v₁)
    (stream : c₂.StreamRun E₂.logged g₂ first next w₂ v₂) (hv : WithSameCalls R v₁ v₂)
    (whole : (rs.getLastD r₀).isTruncated = false) :
    c₁.Retells E₁ g₁ r₀ w₁ c₂ E₂ g₂ first w₂ := by
  obtain ⟨chunks, last, items, text, flag⟩ := mirrors.flatten stream.whole
  obtain ⟨r, u, completed, result, noted⟩ := run.result_of_whole whole
  have log : u.log = v₁.log := by
    rcases noted with rfl | rfl
    · rfl
    · rfl
  have yields := stream.yields_of_whole mirrors.last.errorFree (mirrors.flag.trans whole)
  rw [items] at yields
  refine ⟨_, _, _, _, completed, yields, ?_,
    .whole chunks last (text.trans result.symm) (flag.trans whole)⟩
  rw [log]
  split
  · exact hv.2
  · exact hv.2

theorem retells_of_cap (mirrors : Mirrors first next r₀ rs) (caps : c₁.maxRounds = c₂.maxRounds)
    (run : c₁.SingleRun E₁.logged g₁ r₀ rs w₁ v₁)
    (stream : c₂.StreamRun E₂.logged g₂ first next w₂ v₂) (hv : WithSameCalls R v₁ v₂)
    (answered : v₁.log.replies = r₀ :: rs) (cut : (rs.getLastD r₀).isTruncated = true)
    (cap : c₁.maxRounds = some rs.length) : c₁.Retells E₁ g₁ r₀ w₁ c₂ E₂ g₂ first w₂ := by
  obtain ⟨chunks, last, items, text, -⟩ := mirrors.flatten stream.whole
  have full : c₂.maxRounds = some next.length := by
    rw [← caps, cap, mirrors.length]
  have yields := stream.yields_of_cap mirrors.last.errorFree (mirrors.flag.trans cut) full
  rw [items, mirrors.length] at yields
  refine ⟨_, _, _, _, run.complete_of_cap cut cap, yields, hv.2, ?_⟩
  rw [answered]
  exact .broken (List.cons_ne_nil _ _) _ text

theorem retells_of_unanswered (corr : E₁.Corresponds g₁ E₂ g₂ R)
    (calls : c₁.followUp = c₂.followUp) (caps : c₁.maxRounds = c₂.maxRounds)
    (mirrors : Mirrors first next r₀ rs) (run : c₁.SingleRun E₁.logged g₁ r₀ rs w₁ v₁)
    (stream : c₂.StreamRun E₂.logged g₂ first next w₂ v₂) (hv : WithSameCalls R v₁ v₂)
    (answered : v₁.log.replies = r₀ :: rs) (cut : (rs.getLastD r₀).isTruncated = true)
    (allowed : c₁.Allows (rs.length + 1)) {o : Outcome} {u : World (σ × Log)} {e : Error}
    (asked : c₁.ask E₁.logged g₁ false ((r₀ :: rs).map Envelope.result) v₁ = (o, u))
    (unanswered : o.bind Reply.intoEnvelope = .error e) :
    c₁.Retells E₁ g₁ r₀ w₁ c₂ E₂ g₂ first w₂ := by
  obtain ⟨chunks, last, items, text, -⟩ := mirrors.flatten stream.whole
  obtain ⟨same, hu⟩ := ask_corresponds corr.logged calls ((r₀ :: rs).map Envelope.result) hv
  rw [asked] at same hu
  generalize answer : c₂.ask E₂.logged g₂ true ((r₀ :: rs).map Envelope.result) v₂ = outcome
    at same hu
  obtain ⟨o₂, u₂⟩ := outcome
  -- a call that brings no envelope has failed, for a stream would not correspond to anything
  cases same with
  | answered shown => cases unanswered
  | failed e' =>
      have room : c₂.Allows (next.length + 1) := by
        rw [mirrors.length]
        exact fun m hm => allowed m (caps ▸ hm)
      rw [← mirrors.texts] at answer
      have yields := stream.yields_of_unanswered mirrors.last.errorFree (mirrors.flag.trans cut)
        room answer rfl
      rw [items] at yields
      refine ⟨_, _, _, _, run.complete_of_unanswered cut allowed asked rfl, yields, hu.2, ?_⟩
      rw [Executor.log_of_invoke asked, Log.replies_append, World.log_note, answered]
      exact .broken (List.cons_ne_nil _ _) _ (text.trans (by simp [Log.replies]))

end Continuation.Mirrors

/-- From a stream that renders the first envelope, all is told that the single reply tells. -/
theorem Continuation.retells (corr : E₁.Corresponds g₁ E₂ g₂ R) (c₁ c₂ : Continuation)
    (calls : c₁.followUp = c₂.followUp) (caps : c₁.maxRounds = c₂.maxRounds) {first : List Item}
    {r₀ : Envelope} (renders : Renders first r₀) {w₁ : World (σ × Log)} {w₂ : World (τ × Log)}
    (hw : WithSameCalls R w₁ w₂) (replies : w₁.log.replies = [r₀]) :
    c₁.Retells E₁ g₁ r₀ w₁ c₂ E₂ g₂ first w₂ := by
  -- the run for the single reply is followed to its end, and the other one beside it
  obtain ⟨rs, v₁, run, ending⟩ := (SingleRun.nil c₁ E₁.logged g₁ r₀ w₁).exists_ending
  obtain ⟨next, v₂, stream, mirrors, hv⟩ :=
    streamRun_of_singleRun corr.logged calls caps renders hw run
  have answered : v₁.log.replies = r₀ :: rs := by
    rw [run.replies, replies]
    rfl
  cases ending with
  | whole whole => exact mirrors.retells_of_whole run stream hv whole
  | capped cut cap => exact mirrors.retells_of_cap caps run stream hv answered cut cap
  | unanswered cut allowed o u e asked unanswered =>
      exact mirrors.retells_of_unanswered corr calls caps run stream hv answered cut allowed asked
        unanswered

/-- What both sessions note before the first call makes no difference either. -/
theorem Executor.Corresponds.notices (h : E₁.Corresponds g₁ E₂ g₂ R) (ns₁ ns₂ : List Notice)
    {w₁ : World σ} {w₂ : World τ} (hw : R w₁ w₂) :
    R (ns₁.foldl World.note w₁) (ns₂.foldl World.note w₂) := by
  induction ns₁ generalizing w₁ with
  | cons n ns₁ ih => exact ih (h.note_left hw n)
  | nil =>
      induction ns₂ generalizing w₂ with
      | nil => exact hw
      | cons n ns₂ ih => exact ih (h.note_right hw n)

/-- The first calls of two sessions, each after some notices. -/
theorem Executor.Corresponds.first_calls (h : E₁.Corresponds g₁ E₂ g₂ R) (ns₁ ns₂ : List Notice)
    (r : Request) {w₁ : World σ} {w₂ : World τ} (hw : R w₁ w₂) :
    ∃ o₁ v₁ o₂ v₂,
      E₁.logged.invoke g₁ { r with stream := false } (ns₁.foldl World.note (w₁.withLog [])) =
        (o₁, v₁) ∧
      E₂.logged.invoke g₂ { r with stream := true } (ns₂.foldl World.note (w₂.withLog [])) =
        (o₂, v₂) ∧
      OutcomesCorrespond o₁ o₂ ∧ WithSameCalls R v₁ v₂ ∧
      v₁.log = [.called { r with stream := false } o₁] := by
  have start : WithSameCalls R (w₁.withLog []) (w₂.withLog []) := ⟨hw, rfl⟩
  obtain ⟨same, hv⟩ := h.logged.invoke (h.logged.notices ns₁ ns₂ start) r
  refine ⟨_, _, _, _, rfl, rfl, same, hv, ?_⟩
  rw [Executor.log_of_invoke rfl, Client.log_notices]
  rfl

end Logged

/-- Scripts correspond when their outcomes do, one by one. -/
theorem Script.corresponds (g₁ g₂ : Regime) :
    Script.executor.Corresponds g₁ Script.executor g₂
      (fun w₁ w₂ => List.Forall₂ OutcomesCorrespond w₁.supplier w₂.supplier) where
  note_left hw _ := hw
  note_right hw _ := hw
  invoke := by
    intro w₁ w₂ hw r
    show OutcomesCorrespond w₁.supplier.next.1 w₂.supplier.next.1 ∧
      List.Forall₂ OutcomesCorrespond w₁.supplier.next.2 w₂.supplier.next.2
    generalize w₁.supplier = s₁ at hw ⊢
    generalize w₂.supplier = s₂ at hw ⊢
    cases hw with
    | nil => exact ⟨.failed Script.exhausted, .nil⟩
    | cons same rest => exact ⟨same, rest⟩

/-! ## Completions -/

/-- The completion in one of the two modes, with automatic continuation. -/
def CompletionRequest.continued (q : CompletionRequest) (stream : Bool) : CompletionRequest :=
  { q with stream, autoContinue := true }

namespace Client

/-- What a completion for a stream gives when the stream is read to its end, and what is seen of
it. -/
inductive StreamsOut (c : Client σ) (g : Regime) (q : CompletionRequest) (w : World σ) :
    Except Error (List Item) → Log → Prop
  | refused {e : Error} {v : World (σ × Log)}
      (completed : c.logged.complete g q (w.withLog []) = (.error e, v)) :
      StreamsOut c g q w (.error e) v.log
  | read {f : Feed} {items : List Item} {v v' : World (σ × Log)}
      (completed : c.logged.complete g q (w.withLog []) = (.ok (.stream f), v))
      (yields : f.Yields c.executor.logged v items v') :
      StreamsOut c g q w (.ok items) v'.log

theorem continueReply_single (c : Client σ) (g : Regime) {k : Continuation}
    (mode : k.template.stream = false) (first : Envelope) (w : World σ) :
    c.continueReply g k (.single first) w =
      ((k.complete c.executor g first w).1.map .single, (k.complete c.executor g first w).2) := by
  rw [continueReply, if_neg (by simp [mode])]
  dsimp only [Reply.intoEnvelope]
  generalize k.complete c.executor g first w = result
  obtain ⟨r, v⟩ := result
  cases r <;> rfl

theorem continueReply_stream (c : Client σ) (g : Regime) {k : Continuation}
    (mode : k.template.stream = true) (items : List Item) (w : World σ) :
    c.continueReply g k (.stream items) w = (.ok (.stream (k.feed g items)), w) := by
  rw [continueReply, if_pos mode]
  rfl

/-- A continued completion that the executor serves. -/
theorem complete_continued (c : Client σ) (g : Regime) {q : CompletionRequest}
    (native : c.alternateFor q.model = none) {messages : Conversation}
    (normal : q.messages.normalize = .ok messages) (stream : Bool) (w : World (σ × Log)) :
    c.logged.complete g (q.continued stream) w =
      match c.executor.logged.invoke g { q.request messages with stream }
          (((q.continued stream).notices messages).foldl World.note w) with
      | (.error e, w) => (.error e, w)
      | (.ok reply, w) =>
          c.logged.continueReply g ⟨{ q.request messages with stream }, c.cap q⟩ reply w := by
  have understood : (q.continued stream).messages.normalize = .ok messages := normal
  have served : c.logged.alternateFor ((q.continued stream).request messages).model = none := by
    show c.logged.alternateFor q.model = none
    rw [alternateFor_logged, native]
    rfl
  rw [complete, understood]
  dsimp only
  rw [served]
  show c.logged.completeNative g (q.continued stream) { q.request messages with stream } _ = _
  rw [completeNative, executor_logged]
  generalize c.executor.logged.invoke g _ _ = result
  obtain ⟨o, v⟩ := result
  cases o <;> rfl

/-- The same completion as a single reply and as a stream, by executors that correspond: the calls
are the same but for the mode, and the stream tells what the single reply tells. When the reply is
whole, all items are envelopes with its text and the last one is whole. When a later call or the cap
ends it, the stream ends with the same error after the text of all answered calls. When the first
call fails, or the messages are refused, both completions fail with that error. -/
theorem modes_agree {c₁ : Client σ} {c₂ : Client τ} {g₁ g₂ : Regime}
    {R : World σ → World τ → Prop} (corr : c₁.executor.Corresponds g₁ c₂.executor g₂ R)
    (q : CompletionRequest) (caps : c₁.cap q = c₂.cap q)
    (native₁ : c₁.alternateFor q.model = none) (native₂ : c₂.alternateFor q.model = none)
    {w₁ : World σ} {w₂ : World τ} (hw : R w₁ w₂) :
    ∃ single v streamed l,
      c₁.logged.complete g₁ (q.continued false) (w₁.withLog []) = (single, v) ∧
        c₂.StreamsOut g₂ (q.continued true) w₂ streamed l ∧ SameCalls v.log l ∧
        Retold single v.log.replies streamed := by
  cases normal : q.messages.normalize with
  | error e =>
      have refused (stream : Bool) : (q.continued stream).messages.normalize = .error e := normal
      have single : c₁.logged.complete g₁ (q.continued false) (w₁.withLog []) =
          (.error e, w₁.withLog []) := by
        rw [complete, refused]
      have streamed : c₂.logged.complete g₂ (q.continued true) (w₂.withLog []) =
          (.error e, w₂.withLog []) := by
        rw [complete, refused]
      exact ⟨_, _, _, _, single, .refused streamed, rfl, .refused e⟩
  | ok messages =>
      have single := complete_continued c₁ g₁ native₁ normal false (w₁.withLog [])
      have streamed := complete_continued c₂ g₂ native₂ normal true (w₂.withLog [])
      obtain ⟨o₁, v₁, o₂, v₂, h₁, h₂, same, hv, called⟩ := corr.first_calls
        ((q.continued false).notices messages) ((q.continued true).notices messages)
        (q.request messages) hw
      rw [h₁] at single
      rw [h₂] at streamed
      cases same with
      | failed e =>
          refine ⟨_, _, _, _, single, .refused streamed, hv.2, ?_⟩
          rw [called]
          exact .refused e
      | @answered r₀ items renders =>
          dsimp only at single streamed
          rw [continueReply_single c₁.logged g₁ rfl, executor_logged] at single
          rw [continueReply_stream c₂.logged g₂ rfl] at streamed
          have replies : v₁.log.replies = [r₀] := by
            rw [called]
            rfl
          obtain ⟨result, v₁', items', v₂', completed, yields, calls, retold⟩ :=
            Continuation.retells corr ⟨{ q.request messages with stream := false }, c₁.cap q⟩
              ⟨{ q.request messages with stream := true }, c₂.cap q⟩ rfl caps renders hv replies
          rw [completed] at single
          exact ⟨_, _, _, _, single, .read streamed yields, calls, retold⟩

/-- A truncated reply in two pieces, then a whole one. -/
theorem modes_agree_of_scripts :
    let c : Client Script := { settings := {}, executor := Script.executor }
    let q : CompletionRequest := { messages := .typed [⟨.user, "hi"⟩] }
    let w₁ : World Script := { supplier := [.ok (.single (.fragment "ab" true)),
                                            .ok (.single (.fragment "c" false))] }
    let w₂ : World Script := { supplier := [.ok (.stream [.ok (.fragment "a" false),
                                                          .ok (.fragment "b" true)]),
                                            .ok (.stream [.ok (.fragment "c" false)])] }
    List.Forall₂ OutcomesCorrespond w₁.supplier w₂.supplier ∧
      ∃ single v streamed l,
        c.logged.complete .async (q.continued false) (w₁.withLog []) = (single, v) ∧
          c.StreamsOut .blocking (q.continued true) w₂ streamed l ∧ SameCalls v.log l ∧
          Retold single v.log.replies streamed := by
  intro c q w₁ w₂
  have same : List.Forall₂ OutcomesCorrespond w₁.supplier w₂.supplier := by
    refine .cons (.answered ?_) (.cons (.answered ?_) .nil)
    · exact ⟨[.fragment "a" false], .fragment "b" true, rfl, by decide, rfl⟩
    · exact ⟨[], .fragment "c" false, rfl, by decide, rfl⟩
  exact ⟨same, modes_agree (Script.corresponds .async .blocking) q rfl rfl rfl same⟩

end Client

end ChatClient
