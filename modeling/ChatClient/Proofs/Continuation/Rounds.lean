import ChatClient.Continuation.Iterator
import ChatClient.Proofs.Session.Exchange
import Mathlib.Data.List.Induction

/-!
# The rounds of a continuation

A round is one more call. What it asks for depends on nothing but the texts of the calls before it:
the conversation is that of the template, then for every text a turn of the assistant with it and
the user's prompt to go on (`Continuation.followUp`). `Continuation.rounds` lists the first rounds
in the form in which `exchange` makes their calls.

The state of a continuation is a function of the same texts (`Continuation.reached`): `absorb` and
`beginRound` lead from one state of that form to the next, so no proof has to look into the state
itself.
-/

namespace ChatClient

variable {σ : Type}

/-- An envelope that says no more than a text and whether it was cut short. -/
def Envelope.fragment (text : String) (truncated : Bool) : Envelope where
  result := text
  isTruncated := truncated
  isEnd := true
  body := [("is_truncated", .bool truncated), ("result", .string text)]

theorem dropLast_append_getLastD {α : Type} (a : α) (l : List α) :
    (a :: l).dropLast ++ [l.getLastD a] = a :: l := by
  rw [← List.getLast_eq_getLastD (List.cons_ne_nil a l)]
  exact List.dropLast_concat_getLast (List.cons_ne_nil a l)

theorem map_dropLast_append_getLastD {α β : Type} (f : α → β) (a : α) (l : List α) :
    (a :: l).dropLast.map f ++ [f (l.getLastD a)] = (a :: l).map f := by
  rw [← List.map_singleton, ← List.map_append, dropLast_append_getLastD]

theorem length_map_dropLast {α β : Type} (f : α → β) (a : α) (l : List α) :
    ((a :: l).dropLast.map f).length = l.length := by
  rw [List.length_map, List.length_dropLast, List.length_cons, Nat.add_sub_cancel]

theorem dropLast_cons_concat {α : Type} (a b : α) (l : List α) :
    (a :: (l ++ [b])).dropLast = a :: l := by
  rw [← List.cons_append, List.dropLast_concat]

/-- With one more at the end, what held of all but the last holds of the former last as well. -/
theorem forall_dropLast_concat_iff {α : Type} (P : α → Prop) (a b : α) (l : List α) :
    (∀ x ∈ (a :: (l ++ [b])).dropLast, P x) ↔
      (∀ x ∈ (a :: l).dropLast, P x) ∧ P (l.getLastD a) := by
  have mem (x : α) : x ∈ a :: l ↔ x ∈ (a :: l).dropLast ∨ x = l.getLastD a := by
    rw [← List.mem_singleton, ← List.mem_append, dropLast_append_getLastD]
  rw [dropLast_cons_concat]
  constructor
  · intro h
    constructor
    · intro x hx
      exact h x ((mem x).2 (.inl hx))
    · exact h _ ((mem _).2 (.inr rfl))
  · rintro ⟨h, last⟩ x hx
    rcases (mem x).1 hx with hx | rfl
    · exact h x hx
    · exact last

namespace Continuation

/-- The turns that are added to a conversation for the texts of the calls so far. -/
def turns (texts : List String) : Conversation :=
  texts.flatMap fun text => [⟨.assistant, text⟩, ⟨.user, continuationPrompt⟩]

/-- The call after calls with the given texts. -/
def followUp (c : Continuation) (stream : Bool) (texts : List String) : Request :=
  { c.template with stream, messages := c.template.messages ++ turns texts }

/-- The call after calls with the given texts, and the notice before it. -/
def round (c : Continuation) (stream : Bool) (texts : List String) : Notice × Request :=
  (.requestingContinuation texts.length (c.followUp stream texts).messages.length,
    c.followUp stream texts)

/-- The first `k` rounds; the one after `j + 1` calls knows the texts of just these. -/
def rounds (c : Continuation) (stream : Bool) (texts : List String) (k : Nat) :
    List (Notice × Request) :=
  (List.range k).map fun j => c.round stream (texts.take (j + 1))

/-- The calls of the first `k` rounds. -/
def followUps (c : Continuation) (stream : Bool) (texts : List String) (k : Nat) : List Request :=
  (List.range k).map fun j => c.followUp stream (texts.take (j + 1))

/-- The outcome of the call after calls with the given texts. -/
def ask (c : Continuation) (E : Executor σ) (g : Regime) (stream : Bool) (texts : List String)
    (w : World σ) : Outcome × World σ :=
  E.invoke g (c.followUp stream texts) (w.note (c.round stream texts).1)

/-- The cap leaves room for `k` rounds. -/
def Allows (c : Continuation) (k : Nat) : Prop := ∀ m ∈ c.maxRounds, k ≤ m

/-- The state in the call after calls with the given texts, when `current` has come of its own text
and the last envelope was truncated or not. -/
def reached (c : Continuation) (texts : List String) (current : String) (truncated : Bool) :
    State where
  accumulated := String.join texts ++ current
  current := current
  isTruncated := truncated
  messages := c.template.messages ++ turns texts
  rounds := texts.length
  maxRounds := c.maxRounds

variable (c : Continuation)

@[simp] theorem reached_rounds (texts : List String) (current : String) (truncated : Bool) :
    (c.reached texts current truncated).rounds = texts.length := rfl

theorem turns_concat (texts : List String) (text : String) :
    turns (texts ++ [text]) =
      turns texts ++ [⟨.assistant, text⟩, ⟨.user, continuationPrompt⟩] := by
  simp [turns]

theorem Allows.le {c : Continuation} {k l : Nat} (h : c.Allows l) (hk : k ≤ l) : c.Allows k :=
  fun m hm => Nat.le_trans hk (h m hm)

/-- The cap either leaves room for one more round or is reached. -/
theorem Allows.succ_or_cap {c : Continuation} {k : Nat} (h : c.Allows k) :
    c.Allows (k + 1) ∨ c.maxRounds = some k := by
  cases hm : c.maxRounds with
  | none =>
      left
      intro m hm'
      rw [hm] at hm'
      cases hm'
  | some m =>
      rcases Nat.lt_or_eq_of_le (h m hm) with lt | eq
      · left
        intro m' hm'
        rw [hm] at hm'
        cases hm'
        exact lt
      · right
        rw [eq]

/-- One more round is the one that knows all texts so far; the text to come is not among them. -/
theorem rounds_last (stream : Bool) {texts : List String} {k : Nat} (known : texts.length = k + 1)
    (text : String) :
    c.rounds stream (texts ++ [text]) (k + 1) =
      c.rounds stream texts k ++ [c.round stream texts] := by
  have earlier (j : Nat) (h : j ≤ k) : (texts ++ [text]).take (j + 1) = texts.take (j + 1) :=
    List.take_append_of_le_length (by omega)
  rw [rounds, rounds, List.range_succ, List.map_append, List.map_singleton,
    earlier k (Nat.le_refl _), List.take_of_length_le (Nat.le_of_eq known)]
  congr 1
  apply List.map_congr_left
  intro j hj
  rw [earlier j (Nat.le_of_lt (List.mem_range.1 hj))]

/-- The calls of one more round are those of the rounds so far and then the one that knows all
texts. -/
theorem exchange_rounds_concat_iff (E : Executor σ) (g : Regime) {stream : Bool}
    {texts : List String} {k : Nat} (known : texts.length = k + 1) (text : String)
    {os : List Outcome} {o : Outcome} {w w' : World σ} :
    exchange (E.invoke g) (c.rounds stream (texts ++ [text]) (k + 1)) w = (os ++ [o], w') ↔
      ∃ v, exchange (E.invoke g) (c.rounds stream texts k) w = (os, v) ∧
        c.ask E g stream texts v = (o, w') := by
  rw [rounds_last c stream known text]
  exact exchange_concat_iff _

theorem map_snd_rounds (stream : Bool) (texts : List String) (k : Nat) :
    (c.rounds stream texts k).map Prod.snd = c.followUps stream texts k := by
  rw [rounds, followUps, List.map_map]
  rfl

/-- The calls of a log, and one more call. -/
theorem requests_append_followUp {stream : Bool} {texts : List String} {k : Nat}
    (known : texts.length = k + 1) {l : Log} (requests : l.requests = c.followUps stream texts k)
    (o : Outcome) :
    Log.requests (l ++ [.called (c.followUp stream texts) o]) =
      c.followUps stream texts (k + 1) := by
  rw [Log.requests_append, requests, Log.requests_called, followUps, followUps, List.range_succ,
    List.map_append, List.map_singleton, List.take_of_length_le (Nat.le_of_eq known)]

/-! ## The state of a continuation -/

theorem start_eq_reached : c.start = c.reached [] "" false := by
  simp [start, State.new, reached, turns]

theorem reached_absorb (texts : List String) (current : String) (truncated : Bool) (e : Envelope) :
    (c.reached texts current truncated).absorb e =
      c.reached texts (current ++ e.result) e.isTruncated := by
  simp [reached, State.absorb, String.append_assoc]

theorem reached_beginRound (texts : List String) (current : String) (truncated : Bool)
    (h : c.Allows (texts.length + 1)) :
    (c.reached texts current truncated).beginRound =
      .ok (c.reached (texts ++ [current]) "" truncated) := by
  -- the rounds begun so far are as many as the texts
  have room : (c.reached texts current truncated).atCap = false := by
    cases hm : c.maxRounds with
    | none => simp [State.atCap, reached, hm]
    | some m =>
        have le := h m hm
        simp only [State.atCap, reached, hm, decide_eq_false_iff_not]
        omega
  rw [State.beginRound, room]
  simp [reached, turns_concat, Conversation.appendContinuation_eq, String.join_append]

theorem reached_beginRound_of_cap (texts : List String) (current : String) (truncated : Bool)
    {m : Nat} (hm : c.maxRounds = some m) (hc : m ≤ texts.length) :
    (c.reached texts current truncated).beginRound =
      .error (.continuationLimitExceeded texts.length) := by
  have full : (c.reached texts current truncated).atCap = true := by
    simp only [State.atCap, reached, hm, decide_eq_true_eq]
    exact hc
  rw [State.beginRound, full]
  rfl

/-- A round that begins leads to the state that knows one more text. -/
theorem reached_of_beginRound {texts : List String} {current : String} {truncated : Bool}
    {st : State} (begun : (c.reached texts current truncated).beginRound = .ok st) :
    st = c.reached (texts ++ [current]) "" truncated := by
  by_cases room : c.Allows (texts.length + 1)
  · rw [reached_beginRound c texts current truncated room] at begun
    cases begun
    rfl
  · simp only [Allows, not_forall] at room
    obtain ⟨m, hm, full⟩ := room
    have refused := reached_beginRound_of_cap c texts current truncated hm
      (Nat.le_of_lt_succ (Nat.lt_of_not_le full))
    cases refused.symm.trans begun

/-- The call that a round makes from its state. -/
theorem template_followUp (stream : Bool) (texts : List String) (current : String)
    (truncated : Bool) :
    c.template.followUp (c.reached texts current truncated).messages stream =
      c.followUp stream texts := rfl

/-- A logged call is the same call, and it is logged. -/
theorem ask_logged (E : Executor σ) (g : Regime) (stream : Bool) (texts : List String)
    (w : World σ) (l : Log) :
    c.ask E.logged g stream texts (w.withLog l) =
      ((c.ask E g stream texts w).1,
        (c.ask E g stream texts w).2.withLog
          (l ++ [.called (c.followUp stream texts) (c.ask E g stream texts w).1])) := rfl

theorem reached_roundNotice (stream : Bool) (texts : List String) (current : String)
    (truncated : Bool) :
    (c.reached texts current truncated).roundNotice = (c.round stream texts).1 := rfl

end Continuation

end ChatClient
