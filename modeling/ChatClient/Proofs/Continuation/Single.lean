import ChatClient.Proofs.Continuation.Rounds

/-!
# Runs of a continuation of a single reply

What a completion does is told by the envelopes that it gets: the first one, `r₀`, and those of the
follow-up calls, `rs`, all but the last of them truncated (`Continuation.SingleRun`). A run ends in
one of three ways (`SingleRun.exists_ending`): the last envelope is whole, the cap is reached, or
the next call fails or brings a stream. In each case the result and the calls are known, and the
world is that after just these calls (`complete_of_singleRun`).
-/

namespace ChatClient

variable {σ : Type}

/-- The envelope `e'` is `e` with another text, in the field and in the payload, and with nothing
else changed. -/
structure Envelope.Reworded (e : Envelope) (text : String) (e' : Envelope) : Prop where
  result : e'.result = text
  payload : e'.get? "result" = some (.string text)
  others : ∀ key, key ≠ "result" → e'.get? key = e.get? key
  isTruncated : e'.isTruncated = e.isTruncated
  isEnd : e'.isEnd = e.isEnd
  status : e'.status = e.status
  headers : e'.headers = e.headers
  statistics : e'.statistics = e.statistics

theorem Envelope.reworded_replaceResult (e : Envelope) (text : String) :
    e.Reworded text (e.replaceResult text) where
  result := rfl
  payload := by simp [get?, replaceResult, Fields.get?_insert]
  others key h := by simp [get?, replaceResult, Fields.get?_insert, Ne.symm h]
  isTruncated := rfl
  isEnd := rfl
  status := rfl
  headers := rfl
  statistics := rfl

namespace Continuation

/-- The first call has brought the envelope `r₀` and the follow-up calls have brought `rs`. Every
one of them was asked for because the envelope before it was truncated. -/
structure SingleRun (c : Continuation) (E : Executor σ) (g : Regime) (r₀ : Envelope)
    (rs : List Envelope) (w w' : World σ) : Prop where
  cut : ∀ e ∈ (r₀ :: rs).dropLast, e.isTruncated = true
  allowed : c.Allows rs.length
  asked : exchange (E.invoke g) (c.rounds false ((r₀ :: rs).map Envelope.result) rs.length) w =
    (rs.map fun e => .ok (.single e), w')

/-- The calls that a completion makes. -/
def completeCalls (c : Continuation) (E : Executor σ) (g : Regime) (first : Envelope)
    (w : World σ) : List Request :=
  (c.complete E.logged g first (w.withLog [])).2.log.requests

/-! ## One round -/

section Round

variable (c : Continuation) (E : Executor σ) (g : Regime) {last : Envelope}

theorem completeFrom_of_whole {st : State} (h : st.isTruncated = false) (w : World σ) :
    c.completeFrom E g st last w = finish st last w := by
  rw [completeFrom, if_neg (by simp [h])]

theorem completeFrom_of_refused {st : State} {e : Error} (cut : st.isTruncated = true)
    (refused : st.beginRound = .error e) (w : World σ) :
    c.completeFrom E g st last w = (.error e, w) := by
  rw [completeFrom, if_pos cut, refused]

/-- A truncated reply is asked for further once a round has begun. -/
theorem completeFrom_of_begun {st st' : State} (cut : st.isTruncated = true)
    (begun : st.beginRound = .ok st') (w : World σ) :
    c.completeFrom E g st last w =
      match E.invoke g (c.template.followUp st'.messages false) (w.note st'.roundNotice) with
      | (.error e, w) => (.error e, w)
      | (.ok reply, w) =>
          match reply.intoEnvelope with
          | .error e => (.error e, w)
          | .ok e => c.completeFrom E g (st'.absorb e) e w := by
  rw [completeFrom, if_pos cut, begun]
  dsimp only
  split
  · next h => rw [h]
  · next reply v h =>
      rewrite [h]
      cases reply <;> rfl

/-- How a completion goes on from an envelope. It does so only with a call that brings another
one. -/
inductive Completes : State → Envelope → World σ → Except Error Envelope × World σ → Prop
  | whole {st : State} (whole : st.isTruncated = false) (last : Envelope) (w : World σ) :
      Completes st last w (finish st last w)
  | refused {st : State} {e : Error} (cut : st.isTruncated = true)
      (refused : st.beginRound = .error e) (last : Envelope) (w : World σ) :
      Completes st last w (.error e, w)
  | unanswered {st st' : State} {o : Outcome} {e : Error} {last : Envelope} {w w' : World σ}
      (cut : st.isTruncated = true) (begun : st.beginRound = .ok st')
      (asked : E.invoke g (c.template.followUp st'.messages false) (w.note st'.roundNotice) =
        (o, w'))
      (unanswered : o.bind Reply.intoEnvelope = .error e) : Completes st last w (.error e, w')
  | continued {st st' : State} {e last : Envelope} {w w' : World σ}
      {result : Except Error Envelope × World σ} (cut : st.isTruncated = true)
      (begun : st.beginRound = .ok st')
      (asked : E.invoke g (c.template.followUp st'.messages false) (w.note st'.roundNotice) =
        (.ok (.single e), w'))
      (rest : Completes (st'.absorb e) e w' result) : Completes st last w result

theorem completes (st : State) (last : Envelope) (w : World σ) :
    Completes c E g st last w (c.completeFrom E g st last w) := by
  induction supply : E.supply w.supplier using Nat.strongRecOn generalizing st last w with
  | ind n ih =>
      cases cut : st.isTruncated with
      | false =>
          rw [completeFrom_of_whole c E g cut]
          exact .whole cut last w
      | true =>
          cases begun : st.beginRound with
          | error e =>
              rw [completeFrom_of_refused c E g cut begun]
              exact .refused cut begun last w
          | ok st' =>
              rw [completeFrom_of_begun c E g cut begun]
              generalize asked : E.invoke g _ _ = result
              obtain ⟨o, v⟩ := result
              rcases o with e | ⟨e | items⟩
              · exact .unanswered cut begun asked rfl
              · have lt := E.supply_lt _ _ _ _ _ asked
                rw [World.supplier_note, supply] at lt
                exact .continued cut begun asked (ih _ lt (st'.absorb e) e v rfl)
              · exact .unanswered cut begun asked rfl

variable {texts : List String} {text : String} {w w' : World σ}

theorem completeFrom_of_cap (hm : c.maxRounds = some texts.length) :
    c.completeFrom E g (c.reached texts text true) last w =
      (.error (.continuationLimitExceeded texts.length), w) := by
  have refused := reached_beginRound_of_cap c texts text true hm (Nat.le_refl _)
  exact completeFrom_of_refused c E g rfl refused w

/-- A truncated reply is asked for further when the cap allows it. -/
theorem completeFrom_of_cut (allowed : c.Allows (texts.length + 1)) :
    c.completeFrom E g (c.reached texts text true) last w =
      match c.ask E g false (texts ++ [text]) w with
      | (.error e, w) => (.error e, w)
      | (.ok reply, w) =>
          match reply.intoEnvelope with
          | .error e => (.error e, w)
          | .ok e =>
              c.completeFrom E g ((c.reached (texts ++ [text]) "" true).absorb e) e w :=
  completeFrom_of_begun c E g rfl (reached_beginRound c texts text true allowed) w

theorem completeFrom_of_reply (allowed : c.Allows (texts.length + 1)) {e : Envelope}
    (h : c.ask E g false (texts ++ [text]) w = (.ok (.single e), w')) :
    c.completeFrom E g (c.reached texts text true) last w =
      c.completeFrom E g (c.reached (texts ++ [text]) e.result e.isTruncated) e w' := by
  rw [completeFrom_of_cut c E g allowed, h]
  simp only [Reply.intoEnvelope, reached_absorb, String.empty_append]

/-- A call that brings no envelope ends the completion with its error. -/
theorem completeFrom_of_unanswered (allowed : c.Allows (texts.length + 1)) {o : Outcome}
    {e : Error} (asked : c.ask E g false (texts ++ [text]) w = (o, w'))
    (unanswered : o.bind Reply.intoEnvelope = .error e) :
    c.completeFrom E g (c.reached texts text true) last w = (.error e, w') := by
  rw [completeFrom_of_cut c E g allowed, asked]
  rcases o with e' | ⟨e' | items⟩
  · cases unanswered
    rfl
  · cases unanswered
  · cases unanswered
    rfl

end Round

/-! ## Whole runs -/

namespace SingleRun

variable {c : Continuation} {E : Executor σ} {g : Regime} {r₀ : Envelope} {rs : List Envelope}
  {w w' : World σ}

/-- Before the first follow-up call. -/
theorem nil (c : Continuation) (E : Executor σ) (g : Regime) (r₀ : Envelope) (w : World σ) :
    c.SingleRun E g r₀ [] w w where
  cut := by simp
  allowed _ _ := Nat.zero_le _
  asked := rfl

/-- A run with one more envelope is the run without it and then the call that brings it. -/
theorem concat_iff {e : Envelope} :
    c.SingleRun E g r₀ (rs ++ [e]) w w' ↔
      ∃ v, c.SingleRun E g r₀ rs w v ∧ (rs.getLastD r₀).isTruncated = true ∧
        c.Allows (rs.length + 1) ∧
        c.ask E g false ((r₀ :: rs).map Envelope.result) v = (.ok (.single e), w') := by
  have texts : (r₀ :: (rs ++ [e])).map Envelope.result =
      (r₀ :: rs).map Envelope.result ++ [e.result] := by simp
  have known : ((r₀ :: rs).map Envelope.result).length = rs.length + 1 := by simp
  -- the lists of the longer run, taken apart at their ends
  have outcomes : ((rs ++ [e]).map fun e => .ok (.single e) : List Outcome) =
      (rs.map fun e => .ok (.single e)) ++ [.ok (.single e)] := by simp
  have length : (rs ++ [e]).length = rs.length + 1 := by simp
  constructor
  · rintro ⟨cut, allowed, asked⟩
    rw [length] at allowed
    rw [length, texts, outcomes] at asked
    obtain ⟨v, before, answered⟩ := (exchange_rounds_concat_iff c E g known e.result).1 asked
    obtain ⟨cut, last⟩ := (forall_dropLast_concat_iff _ r₀ e rs).1 cut
    exact ⟨v, ⟨cut, allowed.le (Nat.le_succ _), before⟩, last, allowed, answered⟩
  · rintro ⟨v, run, last, allowed, answered⟩
    refine ⟨(forall_dropLast_concat_iff _ r₀ e rs).2 ⟨run.cut, last⟩, ?_, ?_⟩
    · rw [length]
      exact allowed
    · rw [length, texts, outcomes]
      exact (exchange_rounds_concat_iff c E g known e.result).2 ⟨v, run.asked, answered⟩

/-- The run with a log: the calls are logged in order. -/
theorem logged (run : c.SingleRun E g r₀ rs w w') (l : Log) :
    ∃ m : Log, c.SingleRun E.logged g r₀ rs (w.withLog l) (w'.withLog (l ++ m)) ∧
      m.requests = c.followUps false ((r₀ :: rs).map Envelope.result) rs.length := by
  obtain ⟨m, same, requests, -⟩ := exchange_logged E g
    (c.rounds false ((r₀ :: rs).map Envelope.result) rs.length) w l
  rw [run.asked] at same
  exact ⟨m, ⟨run.cut, run.allowed, same⟩, requests.trans (map_snd_rounds c _ _ _)⟩

/-- A completion comes to the last envelope of a run with the texts of all. -/
theorem complete_eq (run : c.SingleRun E g r₀ rs w w') :
    c.complete E g r₀ w =
      c.completeFrom E g
        (c.reached ((r₀ :: rs).dropLast.map Envelope.result) (rs.getLastD r₀).result
          (rs.getLastD r₀).isTruncated) (rs.getLastD r₀) w' := by
  induction rs using List.reverseRecOn generalizing w' with
  | nil =>
      have same : (([] : List (Outcome)), w) = ([], w') := run.asked
      cases same
      simp [complete, start_eq_reached, reached_absorb]
  | append_singleton rs e ih =>
      -- the envelope that was the last one is truncated, so the call for the next one is made
      obtain ⟨v, before, cut, allowed, answered⟩ := concat_iff.1 run
      rw [ih before, cut]
      rw [← length_map_dropLast Envelope.result r₀ rs] at allowed
      rw [← map_dropLast_append_getLastD] at answered
      rw [completeFrom_of_reply c E g allowed answered, map_dropLast_append_getLastD,
        dropLast_cons_concat, List.getLastD_concat]

/-! ## The ends of a run -/

/-- What can come after a run: nothing, for the last envelope is whole or the cap is reached, or a
call that brings no envelope. -/
inductive Ending (c : Continuation) (E : Executor σ) (g : Regime) (r₀ : Envelope)
    (rs : List Envelope) (w' : World σ) : Prop where
  | whole (h : (rs.getLastD r₀).isTruncated = false)
  | capped (h : (rs.getLastD r₀).isTruncated = true) (cap : c.maxRounds = some rs.length)
  | unanswered (h : (rs.getLastD r₀).isTruncated = true) (allowed : c.Allows (rs.length + 1))
      (o : Outcome) (v : World σ) (e : Error)
      (asked : c.ask E g false ((r₀ :: rs).map Envelope.result) w' = (o, v))
      (unanswered : o.bind Reply.intoEnvelope = .error e)

/-- Every run goes on until it ends: the supply of the executor falls with each envelope. -/
theorem exists_ending (run : c.SingleRun E g r₀ rs w w') :
    ∃ rs' v, c.SingleRun E g r₀ rs' w v ∧ Ending c E g r₀ rs' v := by
  induction supply : E.supply w'.supplier using Nat.strongRecOn generalizing rs w' with
  | ind n ih =>
      cases cut : (rs.getLastD r₀).isTruncated with
      | false => exact ⟨rs, w', run, .whole cut⟩
      | true =>
          rcases run.allowed.succ_or_cap with allowed | cap
          · generalize answer : c.ask E g false ((r₀ :: rs).map Envelope.result) w' = result
            obtain ⟨o, v⟩ := result
            rcases o with e | ⟨e | items⟩
            · exact ⟨rs, w', run, .unanswered cut allowed _ v _ answer rfl⟩
            · -- one more envelope is a longer run, which leaves less of the supply
              have longer := concat_iff.2 ⟨w', run, cut, allowed, answer⟩
              have lt := E.supply_lt _ _ _ _ _ answer
              rw [World.supplier_note, supply] at lt
              exact ih _ lt longer rfl
            · exact ⟨rs, w', run, .unanswered cut allowed _ v _ answer rfl⟩
          · exact ⟨rs, w', run, .capped cut cap⟩

theorem complete_of_whole (run : c.SingleRun E g r₀ rs w w')
    (whole : (rs.getLastD r₀).isTruncated = false) :
    c.complete E g r₀ w =
      if 0 < rs.length then
        (.ok ((rs.getLastD r₀).replaceResult (String.join ((r₀ :: rs).map Envelope.result))),
          w'.note (.replyCompleted rs.length))
      else (.ok (rs.getLastD r₀), w') := by
  -- the state keeps the text of the last call apart from those before it
  have texts : String.join ((r₀ :: rs).dropLast.map Envelope.result) ++ (rs.getLastD r₀).result =
      String.join ((r₀ :: rs).map Envelope.result) := by
    rw [← map_dropLast_append_getLastD Envelope.result, String.join_append]
    simp
  rw [run.complete_eq, completeFrom_of_whole c E g whole, finish, reached_rounds,
    length_map_dropLast]
  simp only [reached, texts]

/-- Whichever envelope the answer is, it has the texts of all calls. -/
theorem result_of_whole (run : c.SingleRun E g r₀ rs w w')
    (whole : (rs.getLastD r₀).isTruncated = false) :
    ∃ r v, c.complete E g r₀ w = (.ok r, v) ∧
      r.result = String.join ((r₀ :: rs).map Envelope.result) ∧
      (v = w' ∨ v = w'.note (.replyCompleted rs.length)) := by
  rw [run.complete_of_whole whole]
  rcases rs.eq_nil_or_concat with rfl | ⟨init, e, rfl⟩
  · exact ⟨r₀, w', rfl, by simp, .inl rfl⟩
  · rw [if_pos (by simp)]
    exact ⟨_, _, rfl, rfl, .inr rfl⟩

theorem complete_of_cap (run : c.SingleRun E g r₀ rs w w')
    (cut : (rs.getLastD r₀).isTruncated = true) (cap : c.maxRounds = some rs.length) :
    c.complete E g r₀ w = (.error (.continuationLimitExceeded rs.length), w') := by
  have rounds := length_map_dropLast Envelope.result r₀ rs
  rw [run.complete_eq, cut, completeFrom_of_cap c E g (rounds.symm ▸ cap), rounds]

theorem complete_of_unanswered (run : c.SingleRun E g r₀ rs w w')
    (cut : (rs.getLastD r₀).isTruncated = true) (allowed : c.Allows (rs.length + 1)) {o : Outcome}
    {v : World σ} {e : Error}
    (asked : c.ask E g false ((r₀ :: rs).map Envelope.result) w' = (o, v))
    (unanswered : o.bind Reply.intoEnvelope = .error e) :
    c.complete E g r₀ w = (.error e, v) := by
  rw [← length_map_dropLast Envelope.result r₀ rs] at allowed
  rw [← map_dropLast_append_getLastD] at asked
  rw [run.complete_eq, cut]
  exact completeFrom_of_unanswered c E g allowed asked unanswered

/-! ## The calls -/

/-- The calls of a completion that ends without a further call. -/
theorem completeCalls_of_run (run : c.SingleRun E g r₀ rs w w')
    (ends : (rs.getLastD r₀).isTruncated = false ∨
      (rs.getLastD r₀).isTruncated = true ∧ c.maxRounds = some rs.length) :
    c.completeCalls E g r₀ w = c.followUps false ((r₀ :: rs).map Envelope.result) rs.length := by
  obtain ⟨m, logged, requests⟩ := run.logged []
  rw [completeCalls, ← requests]
  rcases ends with whole | ⟨cut, cap⟩
  · rw [logged.complete_of_whole whole]
    split <;> rfl
  · rw [logged.complete_of_cap cut cap]
    rfl

/-- The calls of a completion whose last call brings no envelope. -/
theorem completeCalls_of_unanswered (run : c.SingleRun E g r₀ rs w w')
    (cut : (rs.getLastD r₀).isTruncated = true) (allowed : c.Allows (rs.length + 1))
    {o : Outcome} {v : World σ} {e : Error}
    (asked : c.ask E g false ((r₀ :: rs).map Envelope.result) w' = (o, v))
    (unanswered : o.bind Reply.intoEnvelope = .error e) :
    c.completeCalls E g r₀ w =
      c.followUps false ((r₀ :: rs).map Envelope.result) (rs.length + 1) := by
  obtain ⟨m, logged, requests⟩ := run.logged []
  have call : c.ask E.logged g false ((r₀ :: rs).map Envelope.result) (w'.withLog ([] ++ m)) =
      (o, v.withLog (m ++ [.called (c.followUp false ((r₀ :: rs).map Envelope.result)) o])) := by
    rw [ask_logged, asked, List.nil_append]
  have known : ((r₀ :: rs).map Envelope.result).length = rs.length + 1 := by simp
  rw [completeCalls, ← requests_append_followUp c known requests o,
    logged.complete_of_unanswered cut allowed call unanswered]
  rfl

end SingleRun

/-- What a completion gives, which calls it makes and which world it leaves. A whole last envelope
is the answer: the first one as it is, a later one with the texts of all calls. A call that fails
gives its error, one that brings a stream gives a breach of contract, and both are the last. At the
cap no further call is made. -/
theorem complete_of_singleRun {c : Continuation} {E : Executor σ} {g : Regime} {r₀ : Envelope}
    {rs : List Envelope} {w w' : World σ} (run : c.SingleRun E g r₀ rs w w') :
    ((rs.getLastD r₀).isTruncated = false →
      (∃ e v, c.complete E g r₀ w = (.ok e, v) ∧ (rs = [] → e = r₀ ∧ v = w') ∧
        (rs ≠ [] →
          (rs.getLastD r₀).Reworded (String.join ((r₀ :: rs).map Envelope.result)) e ∧
            v = w'.note (.replyCompleted rs.length))) ∧
      c.completeCalls E g r₀ w = c.followUps false ((r₀ :: rs).map Envelope.result) rs.length) ∧
    ((rs.getLastD r₀).isTruncated = true → c.Allows (rs.length + 1) → ∀ o v,
      c.ask E g false ((r₀ :: rs).map Envelope.result) w' = (o, v) →
        (∀ e, o = .error e → c.complete E g r₀ w = (.error e, v)) ∧
        (∀ items, o = .ok (.stream items) → c.complete E g r₀ w =
          (.error (.contractViolation "expected a single response, got a stream"
            { origin := some "request_executor" }), v)) ∧
        ((∀ e, o ≠ .ok (.single e)) → c.completeCalls E g r₀ w =
          c.followUps false ((r₀ :: rs).map Envelope.result) (rs.length + 1))) ∧
    ((rs.getLastD r₀).isTruncated = true → c.maxRounds = some rs.length →
      c.complete E g r₀ w = (.error (.continuationLimitExceeded rs.length), w') ∧
      c.completeCalls E g r₀ w =
        c.followUps false ((r₀ :: rs).map Envelope.result) rs.length) := by
  refine ⟨?_, ?_, ?_⟩
  · intro whole
    refine ⟨?_, run.completeCalls_of_run (Or.inl whole)⟩
    rw [run.complete_of_whole whole]
    rcases rs.eq_nil_or_concat with rfl | ⟨init, last, rfl⟩
    · exact ⟨r₀, w', rfl, fun _ => ⟨rfl, rfl⟩, fun h => absurd rfl h⟩
    · rw [if_pos (by simp)]
      refine ⟨_, _, rfl, fun h => absurd h (by simp), fun _ => ⟨?_, rfl⟩⟩
      exact Envelope.reworded_replaceResult _ _
  · intro cut allowed o v asked
    refine ⟨?_, ?_, ?_⟩
    · rintro e rfl
      exact run.complete_of_unanswered cut allowed asked rfl
    · rintro items rfl
      exact run.complete_of_unanswered cut allowed asked rfl
    · intro none
      rcases o with e | ⟨e | items⟩
      · exact run.completeCalls_of_unanswered cut allowed asked rfl
      · exact absurd rfl (none e)
      · exact run.completeCalls_of_unanswered cut allowed asked rfl
  · intro cut cap
    exact ⟨run.complete_of_cap cut cap, run.completeCalls_of_run (Or.inr ⟨cut, cap⟩)⟩

/-- Two follow-up calls, as many as the cap allows, bring a whole reply. -/
theorem complete_of_singleRun_at_cap :
    ∃ w', SingleRun ⟨{ messages := [⟨.user, "hi"⟩] }, some 2⟩ Script.executor .blocking
        (.fragment "ab" true) [.fragment "" true, .fragment "cd" false]
        { supplier := [.ok (.single (.fragment "" true)), .ok (.single (.fragment "cd" false))] }
        w' ∧
      ∃ e, (complete ⟨{ messages := [⟨.user, "hi"⟩] }, some 2⟩ Script.executor .blocking
          (.fragment "ab" true)
          { supplier :=
              [.ok (.single (.fragment "" true)), .ok (.single (.fragment "cd" false))] }) =
            (.ok e, w'.note (.replyCompleted 2)) ∧ e.result = "abcd" := by
  have run : SingleRun ⟨{ messages := [⟨.user, "hi"⟩] }, some 2⟩ Script.executor .blocking
      (.fragment "ab" true) [.fragment "" true, .fragment "cd" false]
      { supplier := [.ok (.single (.fragment "" true)), .ok (.single (.fragment "cd" false))] }
      _ := ⟨by decide, fun m hm => by cases hm; decide, rfl⟩
  refine ⟨_, run, ?_⟩
  obtain ⟨⟨e, v, completed, -, later⟩, -⟩ := (complete_of_singleRun run).1 rfl
  obtain ⟨reworded, rfl⟩ := later (by simp)
  exact ⟨e, completed, reworded.result⟩

end Continuation

end ChatClient
