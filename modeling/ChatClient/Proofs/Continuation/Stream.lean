import ChatClient.Proofs.Continuation.Reading

/-!
# Runs of a continuation of a stream

What a caller reads of a continued stream is told by the streams of its calls: the first one and
those of the follow-up calls (`Continuation.StreamRun`). All but the last are free of errors, and
after each of them the last envelope so far was truncated. The invariant of the induction over a run
is `StreamRun.comesTo`: the reader has got all items of the earlier streams and stands before the
last one, in the state that the texts of the earlier streams determine.

A run ends with an error in its last stream, with a whole envelope, at the cap, or with a call that
brings no stream (`StreamRun.exists_ending`). In each case all items and all calls are known
(`readsOut_of_streamRun`).
-/

namespace ChatClient

variable {σ : Type}

namespace Continuation

/-! ## Items -/

/-- The envelopes among items. -/
def envelopes (items : List Item) : List Envelope := items.filterMap Except.toOption

/-- The text of the envelopes of a stream. -/
def streamText (items : List Item) : String := String.join ((envelopes items).map Envelope.result)

/-- Whether the last envelope was truncated, given what was known before. -/
def flagAfter (before : Bool) (items : List Item) : Bool :=
  ((envelopes items).getLast?.map Envelope.isTruncated).getD before

/-- Whether the last envelope was truncated; not when there is none. -/
def truncatedAfter (items : List Item) : Bool := flagAfter false items

/-- None of the items is an error. -/
def ErrorFree (items : List Item) : Prop := ∀ e, .error e ∉ items

/-- The items up to the first error, with that error. -/
def upToError : List Item → List Item
  | [] => []
  | .ok e :: rest => .ok e :: upToError rest
  | .error e :: _ => [.error e]

section Items

variable {items more : List Item} {e : Envelope}

@[simp] theorem envelopes_ok_cons : envelopes (.ok e :: items) = e :: envelopes items := rfl

theorem envelopes_append : envelopes (items ++ more) = envelopes items ++ envelopes more :=
  List.filterMap_append

theorem envelopes_map_ok (es : List Envelope) : envelopes (es.map .ok) = es := by
  induction es with
  | nil => rfl
  | cons e es ih => rw [List.map_cons, envelopes_ok_cons, ih]

@[simp] theorem streamText_nil : streamText [] = "" := rfl

theorem streamText_ok_cons : streamText (.ok e :: items) = e.result ++ streamText items := by
  simp [streamText]

theorem streamText_append : streamText (items ++ more) = streamText items ++ streamText more := by
  rw [streamText, envelopes_append, List.map_append, String.join_append]
  rfl

theorem streamText_flatten (streams : List (List Item)) :
    streamText streams.flatten = String.join (streams.map streamText) := by
  induction streams with
  | nil => rfl
  | cons s streams ih =>
      rw [List.flatten_cons, streamText_append, ih, List.map_cons, String.join_cons]

@[simp] theorem flagAfter_nil (before : Bool) : flagAfter before [] = before := rfl

theorem flagAfter_ok_cons (before : Bool) :
    flagAfter before (.ok e :: items) = flagAfter e.isTruncated items := by
  rw [flagAfter, flagAfter, envelopes_ok_cons, List.getLast?_cons]
  cases (envelopes items).getLast? <;> rfl

theorem flagAfter_append (before : Bool) :
    flagAfter before (items ++ more) = flagAfter (flagAfter before items) more := by
  rw [flagAfter, flagAfter, flagAfter, envelopes_append, List.getLast?_append]
  cases (envelopes more).getLast? <;> rfl

theorem errorFree_nil : ErrorFree [] := fun _ => List.not_mem_nil

theorem errorFree_ok_cons : ErrorFree (.ok e :: items) ↔ ErrorFree items := by
  constructor
  · intro h e' he
    exact h e' (List.mem_cons_of_mem _ he)
  · intro h e' he
    rcases List.mem_cons.1 he with he | he
    · cases he
    · exact h e' he

theorem not_errorFree_error_cons {e : Error} : ¬ErrorFree (.error e :: items) :=
  fun h => h e List.mem_cons_self

theorem errorFree_map_ok (es : List Envelope) : ErrorFree (es.map .ok) := by
  intro e he
  obtain ⟨a, -, h⟩ := List.mem_map.1 he
  cases h

theorem errorFree_flatten {streams : List (List Item)} (h : ∀ s ∈ streams, ErrorFree s) :
    ErrorFree streams.flatten := by
  intro e he
  obtain ⟨s, hs, he⟩ := List.mem_flatten.1 he
  exact h s hs e he

/-- Items without an error are envelopes. -/
theorem map_ok_envelopes (h : ErrorFree items) : (envelopes items).map .ok = items := by
  induction items with
  | nil => rfl
  | cons item rest ih =>
      cases item with
      | error e => exact absurd h not_errorFree_error_cons
      | ok e => rw [envelopes_ok_cons, List.map_cons, ih (errorFree_ok_cons.1 h)]

theorem upToError_append (h : ErrorFree items) :
    upToError (items ++ more) = items ++ upToError more := by
  induction items with
  | nil => rfl
  | cons item rest ih =>
      cases item with
      | error e => exact absurd h not_errorFree_error_cons
      | ok e => rw [List.cons_append, upToError, ih (errorFree_ok_cons.1 h), List.cons_append]

/-- Items either have no error or have a first one. -/
theorem errorFree_or_first_error (items : List Item) :
    ErrorFree items ∨
      ∃ before e after, ErrorFree before ∧ items = before ++ .error e :: after := by
  induction items with
  | nil => exact .inl errorFree_nil
  | cons item rest ih =>
      cases item with
      | error e => exact .inr ⟨[], e, rest, errorFree_nil, rfl⟩
      | ok r =>
          rcases ih with free | ⟨before, e, after, free, rfl⟩
          · exact .inl (errorFree_ok_cons.2 free)
          · exact .inr ⟨.ok r :: before, e, after, errorFree_ok_cons.2 free, rfl⟩

end Items

/-- The first call has brought the stream `first` and the follow-up calls have brought `next`. Every
stream but the last is free of errors, and after it the last envelope so far was truncated. -/
structure StreamRun (c : Continuation) (E : Executor σ) (g : Regime) (first : List Item)
    (next : List (List Item)) (w w' : World σ) : Prop where
  whole : ∀ s ∈ (first :: next).dropLast, ErrorFree s
  cut : ∀ k < next.length, truncatedAfter ((first :: next).take (k + 1)).flatten = true
  allowed : c.Allows next.length
  asked : exchange (E.invoke g) (c.rounds true ((first :: next).map streamText) next.length) w =
    (next.map fun items => .ok (.stream items), w')

/-! ## One stream -/

section Reading

variable (c : Continuation) (E : Executor σ) (g : Regime) {texts : List String} {w w' : World σ}

/-- Envelopes are handed on one by one and absorbed. -/
theorem comesTo_of_errorFree {items : List Item} (free : ErrorFree items) (rest : List Item)
    (texts : List String) (current : String) (truncated : Bool) (w : World σ) :
    Feed.ComesTo E (Feed.reading g c (c.reached texts current truncated) (items ++ rest)) w items
      (Feed.reading g c
        (c.reached texts (current ++ streamText items) (flagAfter truncated items)) rest) w := by
  induction items generalizing current truncated with
  | nil =>
      apply Feed.ComesTo.same
      simp
  | cons item items ih =>
      cases item with
      | error e => exact absurd free not_errorFree_error_cons
      | ok e =>
          have step := Feed.next_reading_ok E g c (c.reached texts current truncated) e
            (items ++ rest) w
          rw [reached_absorb] at step
          rw [streamText_ok_cons, ← String.append_assoc, flagAfter_ok_cons]
          exact .item step (ih (errorFree_ok_cons.1 free) _ _)

/-- A stream that the reader has come to is read to its end. -/
theorem comesTo_exhausted {f : Feed} {earlier items : List Item}
    (begun : Feed.ComesTo E f w earlier
      (Feed.reading g c (c.reached texts "" (truncatedAfter earlier)) items) w')
    (free : ErrorFree items) :
    Feed.ComesTo E f w (earlier ++ items)
      (Feed.reading g c
        (c.reached texts (streamText items) (truncatedAfter (earlier ++ items))) []) w' := by
  have rest := comesTo_of_errorFree c E g free [] texts "" (truncatedAfter earlier) w'
  rw [List.append_nil, String.empty_append] at rest
  rw [truncatedAfter, flagAfter_append]
  exact begun.trans rest

/-- What the next call has brought takes the place of the stream that is exhausted. -/
theorem comesTo_of_reply {text : String} (allowed : c.Allows (texts.length + 1))
    {items : List Item}
    (answered : c.ask E g true (texts ++ [text]) w = (.ok (.stream items), w')) :
    Feed.ComesTo E (Feed.reading g c (c.reached texts text true) []) w []
      (Feed.reading g c (c.reached (texts ++ [text]) "" true) items) w' := by
  apply Feed.ComesTo.same
  have begun := reached_beginRound c texts text true allowed
  rw [Feed.next_reading_nil_of_begun E g c rfl begun, template_followUp,
    reached_roundNotice c true]
  rw [ask] at answered
  rw [answered]
  rfl

/-- A call that brings no stream ends the items with its error. -/
theorem next_of_unanswered {text : String} (allowed : c.Allows (texts.length + 1)) {o : Outcome}
    {e : Error} (asked : c.ask E g true (texts ++ [text]) w = (o, w'))
    (unanswered : o.bind Reply.intoStream = .error e) :
    (Feed.reading g c (c.reached texts text true) []).next E w =
      (some (.error e), Feed.closed g c (c.reached (texts ++ [text]) "" true), w') := by
  have begun := reached_beginRound c texts text true allowed
  rw [Feed.next_reading_nil_of_begun E g c rfl begun, template_followUp,
    reached_roundNotice c true]
  rw [ask] at asked
  rw [asked]
  rcases o with e' | ⟨e' | items⟩
  · cases unanswered
    rfl
  · cases unanswered
    rfl
  · cases unanswered

end Reading

/-! ## Whole runs -/

namespace StreamRun

variable {c : Continuation} {E : Executor σ} {g : Regime} {first : List Item}
  {next : List (List Item)} {w w' : World σ}

/-- Before the first follow-up call. -/
theorem nil (c : Continuation) (E : Executor σ) (g : Regime) (first : List Item) (w : World σ) :
    c.StreamRun E g first [] w w where
  whole := by simp
  cut k hk := absurd hk (Nat.not_lt_zero k)
  allowed _ _ := Nat.zero_le _
  asked := rfl

/-- The flags after the streams of a run with one more stream. -/
theorem cut_concat_iff (items : List Item) :
    (∀ k < (next ++ [items]).length,
        truncatedAfter ((first :: (next ++ [items])).take (k + 1)).flatten = true) ↔
      (∀ k < next.length, truncatedAfter ((first :: next).take (k + 1)).flatten = true) ∧
        truncatedAfter (first :: next).flatten = true := by
  -- the last stream is beyond reach of these prefixes
  have earlier (k : Nat) (h : k ≤ next.length) :
      (first :: (next ++ [items])).take (k + 1) = (first :: next).take (k + 1) := by
    rw [← List.cons_append]
    apply List.take_append_of_le_length
    rw [List.length_cons]
    omega
  have all : (first :: next).take (next.length + 1) = first :: next :=
    List.take_of_length_le (Nat.le_refl _)
  rw [List.length_append, List.length_singleton]
  constructor
  · intro cut
    constructor
    · intro k hk
      rw [← earlier k (Nat.le_of_lt hk)]
      exact cut k (by omega)
    · have last := cut next.length (Nat.lt_succ_self _)
      rwa [earlier _ (Nat.le_refl _), all] at last
  · rintro ⟨before, last⟩ k hk
    rcases Nat.lt_or_eq_of_le (Nat.le_of_lt_succ hk) with lt | rfl
    · rw [earlier k (Nat.le_of_lt lt)]
      exact before k lt
    · rw [earlier _ (Nat.le_refl _), all]
      exact last

/-- A run with one more stream is the run without it and then the call that brings it. -/
theorem concat_iff {items : List Item} :
    c.StreamRun E g first (next ++ [items]) w w' ↔
      ∃ v, c.StreamRun E g first next w v ∧ ErrorFree (next.getLastD first) ∧
        truncatedAfter (first :: next).flatten = true ∧ c.Allows (next.length + 1) ∧
        c.ask E g true ((first :: next).map streamText) v = (.ok (.stream items), w') := by
  have texts : (first :: (next ++ [items])).map streamText =
      (first :: next).map streamText ++ [streamText items] := by simp
  have known : ((first :: next).map streamText).length = next.length + 1 := by simp
  -- the lists of the longer run, taken apart at their ends
  have outcomes : ((next ++ [items]).map fun items => .ok (.stream items) : List Outcome) =
      (next.map fun items => .ok (.stream items)) ++ [.ok (.stream items)] := by simp
  have length : (next ++ [items]).length = next.length + 1 := by simp
  constructor
  · rintro ⟨whole, cut, allowed, asked⟩
    rw [length] at allowed
    rw [length, texts, outcomes] at asked
    obtain ⟨v, before, answered⟩ :=
      (exchange_rounds_concat_iff c E g known (streamText items)).1 asked
    obtain ⟨whole, free⟩ := (forall_dropLast_concat_iff _ first items next).1 whole
    obtain ⟨cut, last⟩ := (cut_concat_iff items).1 cut
    exact ⟨v, ⟨whole, cut, allowed.le (Nat.le_succ _), before⟩, free, last, allowed, answered⟩
  · rintro ⟨v, run, free, last, allowed, answered⟩
    refine ⟨(forall_dropLast_concat_iff _ first items next).2 ⟨run.whole, free⟩,
      (cut_concat_iff items).2 ⟨run.cut, last⟩, ?_, ?_⟩
    · rw [length]
      exact allowed
    · rw [length, texts, outcomes]
      exact (exchange_rounds_concat_iff c E g known (streamText items)).2
        ⟨v, run.asked, answered⟩

/-- The run with a log: the calls are logged in order. -/
theorem logged (run : c.StreamRun E g first next w w') (l : Log) :
    ∃ m : Log, c.StreamRun E.logged g first next (w.withLog l) (w'.withLog (l ++ m)) ∧
      m.requests = c.followUps true ((first :: next).map streamText) next.length := by
  obtain ⟨m, same, requests, -⟩ := exchange_logged E g
    (c.rounds true ((first :: next).map streamText) next.length) w l
  rw [run.asked] at same
  exact ⟨m, ⟨run.whole, run.cut, run.allowed, same⟩, requests.trans (map_snd_rounds c _ _ _)⟩

theorem flatten_dropLast_append (first : List Item) (next : List (List Item)) :
    (first :: next).dropLast.flatten ++ next.getLastD first = (first :: next).flatten := by
  rw [← List.flatten_concat, dropLast_append_getLastD]

/-- The reader has got the items of the earlier streams and stands before the last one. -/
theorem comesTo (run : c.StreamRun E g first next w w') :
    Feed.ComesTo E (c.feed g first) w (first :: next).dropLast.flatten
      (Feed.reading g c
        (c.reached ((first :: next).dropLast.map streamText) ""
          (truncatedAfter (first :: next).dropLast.flatten))
        (next.getLastD first)) w' := by
  induction next using List.reverseRecOn generalizing w' with
  | nil =>
      have same : (([] : List Outcome), w) = ([], w') := run.asked
      cases same
      apply Feed.ComesTo.same
      rw [Feed.feed_eq_reading, start_eq_reached]
      rfl
  | append_singleton next items ih =>
      obtain ⟨v, before, free, cut, allowed, answered⟩ := concat_iff.1 run
      rw [← length_map_dropLast streamText first next] at allowed
      rw [← map_dropLast_append_getLastD] at answered
      -- the stream that was the last one is read to its end, then the call brings the next one
      have exhausted := comesTo_exhausted c E g (ih before) free
      rw [flatten_dropLast_append, cut] at exhausted
      have reply := comesTo_of_reply c E g allowed answered
      rw [map_dropLast_append_getLastD] at reply
      rw [dropLast_cons_concat, List.getLastD_concat, cut, ← List.append_nil (List.flatten _)]
      exact exhausted.trans reply

/-- The reader has got the items of all streams. -/
theorem exhausted (run : c.StreamRun E g first next w w') (free : ErrorFree (next.getLastD first)) :
    Feed.ComesTo E (c.feed g first) w (first :: next).flatten
      (Feed.reading g c
        (c.reached ((first :: next).dropLast.map streamText) (streamText (next.getLastD first))
          (truncatedAfter (first :: next).flatten)) []) w' := by
  rw [← flatten_dropLast_append]
  exact comesTo_exhausted c E g run.comesTo free

/-! ## The ends of a run -/

/-- What can come after a run: nothing, for its last stream fails, its last envelope is whole or the
cap is reached, or a call that brings no stream. -/
inductive Ending (c : Continuation) (E : Executor σ) (g : Regime) (first : List Item)
    (next : List (List Item)) (w' : World σ) : Prop where
  | failed (h : ¬ErrorFree (next.getLastD first))
  | whole (free : ErrorFree (next.getLastD first))
      (h : truncatedAfter (first :: next).flatten = false)
  | capped (free : ErrorFree (next.getLastD first))
      (h : truncatedAfter (first :: next).flatten = true) (cap : c.maxRounds = some next.length)
  | unanswered (free : ErrorFree (next.getLastD first))
      (h : truncatedAfter (first :: next).flatten = true) (allowed : c.Allows (next.length + 1))
      (o : Outcome) (v : World σ) (e : Error)
      (asked : c.ask E g true ((first :: next).map streamText) w' = (o, v))
      (unanswered : o.bind Reply.intoStream = .error e)

/-- Every run goes on until it ends: the supply of the executor falls with each stream. -/
theorem exists_ending (run : c.StreamRun E g first next w w') :
    ∃ next' v, c.StreamRun E g first next' w v ∧ Ending c E g first next' v := by
  induction supply : E.supply w'.supplier using Nat.strongRecOn generalizing next w' with
  | ind n ih =>
      by_cases free : ErrorFree (next.getLastD first)
      · cases cut : truncatedAfter (first :: next).flatten with
        | false => exact ⟨next, w', run, .whole free cut⟩
        | true =>
            rcases run.allowed.succ_or_cap with allowed | cap
            · generalize answer : c.ask E g true ((first :: next).map streamText) w' = result
              obtain ⟨o, v⟩ := result
              rcases o with e | ⟨e | items⟩
              · exact ⟨next, w', run, .unanswered free cut allowed _ v _ answer rfl⟩
              · exact ⟨next, w', run, .unanswered free cut allowed _ v _ answer rfl⟩
              · -- one more stream is a longer run, which leaves less of the supply
                have longer := concat_iff.2 ⟨w', run, free, cut, allowed, answer⟩
                have lt := E.supply_lt _ _ _ _ _ answer
                rw [World.supplier_note, supply] at lt
                exact ih _ lt longer rfl
            · exact ⟨next, w', run, .capped free cut cap⟩
      · exact ⟨next, w', run, .failed free⟩

theorem yields_of_failed (run : c.StreamRun E g first next w w')
    (failed : ¬ErrorFree (next.getLastD first)) :
    (c.feed g first).Yields E w (upToError (first :: next).flatten) w' := by
  rcases errorFree_or_first_error (next.getLastD first) with free | ⟨before, e, after, free, last⟩
  · exact absurd free failed
  · -- what stands before the first error is read like a stream without one
    have begun := run.comesTo
    rw [last] at begun
    have read := begun.trans (comesTo_of_errorFree c E g free _ _ _ _ w')
    have items : upToError (first :: next).flatten =
        ((first :: next).dropLast.flatten ++ before) ++ [.error e] := by
      rw [← flatten_dropLast_append, last, upToError_append (errorFree_flatten run.whole),
        upToError_append free, upToError, List.append_assoc]
    rw [items]
    apply read.yields
    exact .of_closing (Feed.next_reading_error E g c _ e after w')

theorem yields_of_whole (run : c.StreamRun E g first next w w')
    (free : ErrorFree (next.getLastD first))
    (whole : truncatedAfter (first :: next).flatten = false) :
    (c.feed g first).Yields E w (first :: next).flatten
      (if 0 < next.length then w'.note (.streamCompleted next.length) else w') := by
  have done : (c.reached ((first :: next).dropLast.map streamText)
      (streamText (next.getLastD first)) (truncatedAfter (first :: next).flatten)).isTruncated =
        false := whole
  have last := Feed.next_reading_nil_of_whole E g c done w'
  rw [Generator.noteEnd, reached_rounds, length_map_dropLast] at last
  rw [← List.append_nil (List.flatten _)]
  apply (run.exhausted free).yields
  exact .ended last (Feed.closed_ended E g c _)

theorem yields_of_cap (run : c.StreamRun E g first next w w')
    (free : ErrorFree (next.getLastD first))
    (cut : truncatedAfter (first :: next).flatten = true) (cap : c.maxRounds = some next.length) :
    (c.feed g first).Yields E w
      ((first :: next).flatten ++ [.error (.continuationLimitExceeded next.length)]) w' := by
  have exhausted := run.exhausted free
  rw [cut] at exhausted
  apply exhausted.yields
  rw [← length_map_dropLast streamText first next] at cap ⊢
  have refused := reached_beginRound_of_cap c ((first :: next).dropLast.map streamText)
    (streamText (next.getLastD first)) true cap (Nat.le_refl _)
  exact .of_closing (Feed.next_reading_nil_of_refused E g c rfl refused w')

theorem yields_of_unanswered (run : c.StreamRun E g first next w w')
    (free : ErrorFree (next.getLastD first))
    (cut : truncatedAfter (first :: next).flatten = true) (allowed : c.Allows (next.length + 1))
    {o : Outcome} {v : World σ} {e : Error}
    (asked : c.ask E g true ((first :: next).map streamText) w' = (o, v))
    (unanswered : o.bind Reply.intoStream = .error e) :
    (c.feed g first).Yields E w ((first :: next).flatten ++ [.error e]) v := by
  have exhausted := run.exhausted free
  rw [cut] at exhausted
  rw [← length_map_dropLast streamText first next] at allowed
  rw [← map_dropLast_append_getLastD] at asked
  apply exhausted.yields
  exact .of_closing (next_of_unanswered c E g allowed asked unanswered)

/-! ## With the calls -/

theorem readsOut_of_failed (run : c.StreamRun E g first next w w')
    (failed : ¬ErrorFree (next.getLastD first)) :
    (c.feed g first).ReadsOut E w (upToError (first :: next).flatten)
      (c.followUps true ((first :: next).map streamText) next.length) w' := by
  obtain ⟨m, logged, requests⟩ := run.logged []
  exact ⟨run.yields_of_failed failed, _, logged.yields_of_failed failed, requests⟩

theorem readsOut_of_whole (run : c.StreamRun E g first next w w')
    (free : ErrorFree (next.getLastD first))
    (whole : truncatedAfter (first :: next).flatten = false) :
    (c.feed g first).ReadsOut E w (first :: next).flatten
      (c.followUps true ((first :: next).map streamText) next.length)
      (if 0 < next.length then w'.note (.streamCompleted next.length) else w') := by
  obtain ⟨m, logged, requests⟩ := run.logged []
  refine ⟨run.yields_of_whole free whole, _, logged.yields_of_whole free whole, ?_⟩
  rw [← requests]
  split <;> rfl

theorem readsOut_of_cap (run : c.StreamRun E g first next w w')
    (free : ErrorFree (next.getLastD first))
    (cut : truncatedAfter (first :: next).flatten = true) (cap : c.maxRounds = some next.length) :
    (c.feed g first).ReadsOut E w
      ((first :: next).flatten ++ [.error (.continuationLimitExceeded next.length)])
      (c.followUps true ((first :: next).map streamText) next.length) w' := by
  obtain ⟨m, logged, requests⟩ := run.logged []
  exact ⟨run.yields_of_cap free cut cap, _, logged.yields_of_cap free cut cap, requests⟩

theorem readsOut_of_unanswered (run : c.StreamRun E g first next w w')
    (free : ErrorFree (next.getLastD first))
    (cut : truncatedAfter (first :: next).flatten = true) (allowed : c.Allows (next.length + 1))
    {o : Outcome} {v : World σ} {e : Error}
    (asked : c.ask E g true ((first :: next).map streamText) w' = (o, v))
    (unanswered : o.bind Reply.intoStream = .error e) :
    (c.feed g first).ReadsOut E w ((first :: next).flatten ++ [.error e])
      (c.followUps true ((first :: next).map streamText) (next.length + 1)) v := by
  obtain ⟨m, logged, requests⟩ := run.logged []
  have known : ((first :: next).map streamText).length = next.length + 1 := by simp
  have call : c.ask E.logged g true ((first :: next).map streamText) (w'.withLog ([] ++ m)) =
      (o, v.withLog (m ++ [.called (c.followUp true ((first :: next).map streamText)) o])) := by
    rw [ask_logged, asked, List.nil_append]
  exact ⟨run.yields_of_unanswered free cut allowed asked unanswered, _,
    logged.yields_of_unanswered free cut allowed call unanswered,
    requests_append_followUp c known requests o⟩

end StreamRun

/-- What a caller reads of a continued stream, which calls are made for it and which world is left.
All items of all streams are handed on in order, up to the first error. After streams without an
error comes the end when the last envelope was whole or there was none; the error of the cap when
the cap is reached; and else one more call, of which a failure is the last item, and so is the
breach of contract when it brings a single reply. -/
theorem readsOut_of_streamRun {c : Continuation} {E : Executor σ} {g : Regime} {first : List Item}
    {next : List (List Item)} {w w' : World σ} (run : c.StreamRun E g first next w w') :
    (¬ErrorFree (next.getLastD first) →
      (c.feed g first).ReadsOut E w (upToError (first :: next).flatten)
        (c.followUps true ((first :: next).map streamText) next.length) w') ∧
    (ErrorFree (next.getLastD first) → truncatedAfter (first :: next).flatten = false →
      (c.feed g first).ReadsOut E w (first :: next).flatten
        (c.followUps true ((first :: next).map streamText) next.length)
        (if 0 < next.length then w'.note (.streamCompleted next.length) else w')) ∧
    (ErrorFree (next.getLastD first) → truncatedAfter (first :: next).flatten = true →
      c.maxRounds = some next.length →
      (c.feed g first).ReadsOut E w
        ((first :: next).flatten ++ [.error (.continuationLimitExceeded next.length)])
        (c.followUps true ((first :: next).map streamText) next.length) w') ∧
    (ErrorFree (next.getLastD first) → truncatedAfter (first :: next).flatten = true →
      c.Allows (next.length + 1) → ∀ o v,
      c.ask E g true ((first :: next).map streamText) w' = (o, v) →
      (∀ e, o = .error e →
        (c.feed g first).ReadsOut E w ((first :: next).flatten ++ [.error e])
          (c.followUps true ((first :: next).map streamText) (next.length + 1)) v) ∧
      (∀ e, o = .ok (.single e) →
        (c.feed g first).ReadsOut E w
          ((first :: next).flatten ++
            [.error (.contractViolation "expected a stream, got a single response"
              { origin := some "request_executor" })])
          (c.followUps true ((first :: next).map streamText) (next.length + 1)) v)) := by
  refine ⟨run.readsOut_of_failed, run.readsOut_of_whole, run.readsOut_of_cap, ?_⟩
  intro free cut allowed o v asked
  constructor
  · rintro e rfl
    exact run.readsOut_of_unanswered free cut allowed asked rfl
  · rintro e rfl
    exact run.readsOut_of_unanswered free cut allowed asked rfl

/-- An empty stream between two others keeps the flag, so that a third call is made. -/
theorem readsOut_of_streamRun_past_empty :
    ∃ w', StreamRun ⟨{ messages := [⟨.user, "hi"⟩], stream := true }, some 2⟩ Script.executor .async
        [.ok (.fragment "a" false), .ok (.fragment "b" true)] [[], [.ok (.fragment "c" false)]]
        { supplier := [.ok (.stream []), .ok (.stream [.ok (.fragment "c" false)])] } w' ∧
      (feed ⟨{ messages := [⟨.user, "hi"⟩], stream := true }, some 2⟩ .async
          [.ok (.fragment "a" false), .ok (.fragment "b" true)]).ReadsOut Script.executor
        { supplier := [.ok (.stream []), .ok (.stream [.ok (.fragment "c" false)])] }
        [.ok (.fragment "a" false), .ok (.fragment "b" true), .ok (.fragment "c" false)]
        [{ messages := [⟨.user, "hi"⟩, ⟨.assistant, "ab"⟩, ⟨.user, continuationPrompt⟩],
           stream := true },
         { messages := [⟨.user, "hi"⟩, ⟨.assistant, "ab"⟩, ⟨.user, continuationPrompt⟩,
             ⟨.assistant, ""⟩, ⟨.user, continuationPrompt⟩],
           stream := true }]
        (w'.note (.streamCompleted 2)) := by
  have run : StreamRun ⟨{ messages := [⟨.user, "hi"⟩], stream := true }, some 2⟩ Script.executor
      .async [.ok (.fragment "a" false), .ok (.fragment "b" true)]
      [[], [.ok (.fragment "c" false)]]
      { supplier := [.ok (.stream []), .ok (.stream [.ok (.fragment "c" false)])] } _ := {
    whole := by
      intro s hs
      rcases List.mem_cons.1 hs with rfl | hs
      · exact errorFree_ok_cons.2 (errorFree_ok_cons.2 errorFree_nil)
      · rw [List.mem_singleton.1 hs]
        exact errorFree_nil
    cut := by decide
    allowed := fun m hm => by cases hm; decide
    asked := rfl }
  exact ⟨_, run,
    (readsOut_of_streamRun run).2.1 (errorFree_ok_cons.2 errorFree_nil) rfl⟩

end Continuation

end ChatClient
