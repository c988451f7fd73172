import ChatClient.Proofs.Continuation.Rounds

/-!
# Operations on a state in any order

A continuation takes in the envelopes of a call and then begins a round, but a state can be handled
in any order: many envelopes in a round, a round without one, rounds asked for at the cap, and
anything after a refusal. `State.performAll` performs operations one after the other and tells what
came of each of them (`Event`).

The events alone determine the state (`accounts_performAll`). The rounds that began cut them into
calls: the text of each call but the last has become a turn of the assistant, and the text of the
last one is still open. The induction runs over the operations from any state of the form
`Continuation.reached`, for each operation leads from such a state to another one.
-/

namespace ChatClient.Continuation

/-- What can be done with a state. -/
inductive Operation where
  | absorb (e : Envelope)
  | beginRound

/-- What came of an operation. -/
inductive Event where
  | absorbed (e : Envelope)
  | begun
  | refused (error : Error)

namespace Event

/-- The operation that the event came of. -/
def operation : Event → Operation
  | .absorbed e => .absorb e
  | .begun => .beginRound
  | .refused _ => .beginRound

/-- A round began. -/
def isBegun : Event → Bool
  | .begun => true
  | _ => false

/-- The envelope that was taken in. -/
def envelope? : Event → Option Envelope
  | .absorbed e => some e
  | _ => none

end Event

/-- What came of operations, in order. -/
abbrev History := List Event

namespace History

/-- The envelopes that were taken in. -/
def envelopes (h : History) : List Envelope := h.filterMap Event.envelope?

/-- The text of the envelopes. -/
def text (h : History) : String := String.join (h.envelopes.map Envelope.result)

/-- Whether the last envelope was truncated, given what was known before. -/
def truncatedAfter (before : Bool) (h : History) : Bool :=
  (h.envelopes.getLast?.map Envelope.isTruncated).getD before

/-- How many rounds began. -/
def rounds (h : History) : Nat := h.countP Event.isBegun

/-- The parts of a history between the rounds that began. -/
def calls (h : History) : List History := h.splitOnP Event.isBegun

section Cons

variable (h : History) (e : Envelope)

theorem text_absorbed : text (.absorbed e :: h) = e.result ++ text h := by
  simp [text, envelopes, Event.envelope?]

theorem truncatedAfter_absorbed (before : Bool) :
    truncatedAfter before (.absorbed e :: h) = truncatedAfter e.isTruncated h := by
  have first : envelopes (.absorbed e :: h) = e :: envelopes h := rfl
  rw [truncatedAfter, truncatedAfter, first, List.getLast?_cons]
  cases (envelopes h).getLast? <;> rfl

theorem calls_begun : calls (.begun :: h) = [] :: calls h := by
  rw [calls, List.splitOnP_cons_eq_if_modifyHead]
  rfl

/-- There is a first call, before any round has begun. -/
theorem exists_first_call : ∃ first later, calls h = first :: later :=
  List.exists_cons_of_ne_nil (List.splitOnP_ne_nil Event.isBegun h)

variable {h} in
/-- Whatever is no round belongs to the first call. -/
theorem calls_cons {event : Event} (other : event.isBegun = false) {first : History}
    {later : List History} (cut : calls h = first :: later) :
    calls (event :: h) = (event :: first) :: later := by
  rw [calls] at cut
  rw [calls, List.splitOnP_cons_eq_if_modifyHead, other, cut]
  rfl

end Cons

/-- Each round that begins opens one more call. -/
theorem length_calls (h : History) : h.calls.length = rounds h + 1 := by
  induction h with
  | nil => rfl
  | cons event h ih =>
      obtain ⟨first, later, cut⟩ := exists_first_call h
      cases event with
      | begun =>
          have counted : rounds (.begun :: h) = rounds h + 1 := List.countP_cons_of_pos rfl
          rw [calls_begun, List.length_cons, ih, counted]
      | absorbed | refused =>
          rw [cut] at ih
          rw [calls_cons rfl cut]
          exact ih

/-- The texts of the calls make up the text of all. -/
theorem join_map_text_calls (h : History) : String.join (h.calls.map text) = text h := by
  induction h with
  | nil => rfl
  | cons event h ih =>
      obtain ⟨first, later, cut⟩ := exists_first_call h
      cases event with
      | begun =>
          rw [calls_begun, List.map_cons, String.join_cons, ih]
          exact String.empty_append
      | absorbed e =>
          rw [cut, List.map_cons, String.join_cons] at ih
          rw [calls_cons rfl cut, List.map_cons, String.join_cons, text_absorbed, text_absorbed,
            String.append_assoc, ih]
      | refused error =>
          rw [cut] at ih
          rw [calls_cons rfl cut]
          exact ih

end History

namespace State

/-- One operation on a state, which a refusal leaves as it is. -/
def perform (st : State) : Operation → Event × State
  | .absorb e => (.absorbed e, st.absorb e)
  | .beginRound =>
      match st.beginRound with
      | .ok st' => (.begun, st')
      | .error e => (.refused e, st)

/-- Operations on a state, one after the other. -/
def performAll (st : State) : List Operation → History × State
  | [] => ([], st)
  | op :: ops =>
      let (event, st') := st.perform op
      let (later, last) := st'.performAll ops
      (event :: later, last)

theorem operation_perform (st : State) (op : Operation) : (st.perform op).1.operation = op := by
  cases op with
  | absorb e => rfl
  | beginRound =>
      rw [perform]
      cases st.beginRound <;> rfl

/-- Every operation has its event. -/
theorem map_operation_performAll (st : State) (ops : List Operation) :
    (st.performAll ops).1.map Event.operation = ops := by
  induction ops generalizing st with
  | nil => rfl
  | cons op ops ih =>
      rw [performAll, List.map_cons, operation_perform, ih]

end State

/-- What the state of a continuation holds after a history that began with a conversation and a
cap. -/
structure Accounts (messages : Conversation) (cap : Option Nat) (h : History) (st : State) :
    Prop where
  accumulated : st.accumulated = h.text
  /-- The conversation is as it was, and after it stand the text of each call that a round has
  closed, as a turn of the assistant, and the prompt. -/
  turns : ∃ texts, st.messages = messages ++ turns texts ∧ texts.length = st.rounds ∧
    texts ++ [st.current] = h.calls.map History.text ∧
    st.accumulated = String.join texts ++ st.current
  length : st.messages.length = messages.length + 2 * st.rounds
  isTruncated : st.isTruncated = h.truncatedAfter false
  rounds : st.rounds = h.rounds
  maxRounds : st.maxRounds = cap
  allowed : ∀ m ∈ cap, st.rounds ≤ m

/-! ## From one state to the next -/

section Step

variable (c : Continuation) (texts : List String) (current : String) (truncated : Bool)

theorem perform_absorb_reached (e : Envelope) :
    (c.reached texts current truncated).perform (.absorb e) =
      (.absorbed e, c.reached texts (current ++ e.result) e.isTruncated) := by
  rw [State.perform, reached_absorb]

theorem perform_beginRound_reached (allowed : c.Allows (texts.length + 1)) :
    (c.reached texts current truncated).perform .beginRound =
      (.begun, c.reached (texts ++ [current]) "" truncated) := by
  rw [State.perform, reached_beginRound c texts current truncated allowed]

theorem perform_beginRound_reached_of_cap (cap : c.maxRounds = some texts.length) :
    (c.reached texts current truncated).perform .beginRound =
      (.refused (.continuationLimitExceeded texts.length), c.reached texts current truncated) := by
  rw [State.perform, reached_beginRound_of_cap c texts current truncated cap (Nat.le_refl _)]

/-- Each round adds its text and the prompt. -/
theorem length_turns : (turns texts).length = 2 * texts.length := by
  induction texts using List.reverseRecOn with
  | nil => rfl
  | append_singleton texts text ih =>
      rw [turns_concat, List.length_append, List.length_append, ih, List.length_singleton]
      exact (Nat.mul_succ 2 _).symm

end Step

/-- Operations lead from one state of the form `reached` to another. What had come of the open call
before goes on in the first call of their history; its text and those of the calls after it are the
new ones. -/
theorem exists_reached_performAll (c : Continuation) (ops : List Operation) (texts : List String)
    (current : String) (truncated : Bool) (room : c.Allows texts.length) :
    let h := ((c.reached texts current truncated).performAll ops).1
    ∃ texts' current' first later,
      ((c.reached texts current truncated).performAll ops).2 =
        c.reached texts' current' (h.truncatedAfter truncated) ∧
      c.Allows texts'.length ∧ h.calls = first :: later ∧
      texts' ++ [current'] =
        texts ++ (current ++ History.text first) :: later.map History.text := by
  induction ops generalizing texts current truncated with
  | nil =>
      refine ⟨texts, current, [], [], rfl, room, rfl, ?_⟩
      show _ = texts ++ [current ++ ""]
      rw [String.append_empty]
  | cons op ops ih =>
      cases op with
      | absorb e =>
          obtain ⟨texts', current', first, later, after, room', cut, known⟩ :=
            ih texts (current ++ e.result) e.isTruncated room
          rw [State.performAll, perform_absorb_reached]
          refine ⟨texts', current', _, later, ?_, room', History.calls_cons rfl cut, ?_⟩
          · rw [History.truncatedAfter_absorbed]
            exact after
          · rw [known, History.text_absorbed, String.append_assoc]
      | beginRound =>
          rcases room.succ_or_cap with allowed | cap
          · -- the round closes the open call, and nothing of what follows belongs to it
            have longer : c.Allows (texts ++ [current]).length := by
              rw [List.length_append, List.length_singleton]
              exact allowed
            obtain ⟨texts', current', first, later, after, room', cut, known⟩ :=
              ih (texts ++ [current]) "" truncated longer
            rw [State.performAll, perform_beginRound_reached c _ _ _ allowed]
            refine ⟨texts', current', [], first :: later, after, room', ?_, ?_⟩
            · rw [History.calls_begun, cut]
            · have nothing : current ++ History.text [] = current := String.append_empty
              rw [known, nothing, String.empty_append, List.append_assoc]
              rfl
          · obtain ⟨texts', current', first, later, after, room', cut, known⟩ :=
              ih texts current truncated room
            rw [State.performAll, perform_beginRound_reached_of_cap c _ _ _ cap]
            exact ⟨texts', current', _, later, after, room', History.calls_cons rfl cut, known⟩

section Reached

variable {c : Continuation} {texts : List String} {current : String}

/-- A state that knows the texts of the calls of a history accounts for it. -/
theorem accounts_reached {h : History} (room : c.Allows texts.length)
    (known : texts ++ [current] = h.calls.map History.text) :
    Accounts c.template.messages c.maxRounds h
      (c.reached texts current (h.truncatedAfter false)) where
  accumulated := by
    have joined := History.join_map_text_calls h
    rw [← known, String.join_append] at joined
    rw [← joined]
    show String.join texts ++ current = _
    simp
  turns := ⟨texts, rfl, rfl, known, rfl⟩
  length := by
    show (c.template.messages ++ turns texts).length = _
    rw [List.length_append, length_turns]
    rfl
  isTruncated := rfl
  rounds := by
    have counted := congrArg List.length known
    rw [List.length_append, List.length_map, History.length_calls] at counted
    exact Nat.succ.inj counted
  maxRounds := rfl
  allowed := room

/-- A round is refused just at the cap, and then the state is as it was. -/
theorem perform_beginRound_eq_refused_iff (room : c.Allows texts.length) (truncated : Bool)
    (e : Error) (st : State) :
    (c.reached texts current truncated).perform .beginRound = (.refused e, st) ↔
      ∃ m, c.maxRounds = some m ∧ texts.length = m ∧ e = .continuationLimitExceeded m ∧
        st = c.reached texts current truncated := by
  rcases room.succ_or_cap with allowed | cap
  · rw [perform_beginRound_reached c _ _ _ allowed]
    constructor
    · intro begun
      cases begun
    · rintro ⟨m, cap, rfl, -⟩
      exact absurd (allowed _ cap) (Nat.not_succ_le_self _)
  · rw [perform_beginRound_reached_of_cap c _ _ _ cap]
    constructor
    · intro refused
      cases refused
      exact ⟨_, cap, rfl, rfl, rfl⟩
    · rintro ⟨m, -, rfl, rfl, rfl⟩
      rfl

end Reached

/-- What a new state holds after any operations. It accounts for all that came of them, one event for
each. Its count of rounds fits into 32 bits if the cap does, or if without a cap no more rounds than
that began. One more round is refused just at the cap, which leaves the state as it is. -/
theorem accounts_performAll (messages : Conversation) (cap : Option Nat) (ops : List Operation) :
    let h := ((State.new messages cap).performAll ops).1
    let st := ((State.new messages cap).performAll ops).2
    h.map Event.operation = ops ∧ Accounts messages cap h st ∧
      ((∀ m ∈ cap, m < UInt32.size) → (cap = none → h.rounds < UInt32.size) →
        st.rounds < UInt32.size) ∧
      ∀ e st', st.perform .beginRound = (.refused e, st') ↔
        ∃ m, cap = some m ∧ st.rounds = m ∧ e = .continuationLimitExceeded m ∧ st' = st := by
  let c : Continuation := ⟨{ messages }, cap⟩
  have start : State.new messages cap = c.reached [] "" false := c.start_eq_reached
  have none_begun : c.Allows ([] : List String).length := fun _ _ => Nat.zero_le _
  obtain ⟨texts, current, first, later, after, room, cut, known⟩ :=
    exists_reached_performAll c ops [] "" false none_begun
  have operations := (State.new messages cap).map_operation_performAll ops
  rw [start] at operations ⊢
  generalize (c.reached [] "" false).performAll ops = result at operations after cut ⊢
  obtain ⟨h, st⟩ := result
  dsimp only at operations after cut ⊢
  subst after
  -- the first call of the history begins with nothing
  have known : texts ++ [current] = h.calls.map History.text := by
    rw [known, cut, List.nil_append, String.empty_append]
    rfl
  have account := accounts_reached room known
  refine ⟨operations, account, ?_, perform_beginRound_eq_refused_iff room _⟩
  intro small few
  rw [account.rounds]
  cases limit : cap with
  | none => exact few limit
  | some m =>
      rw [← account.rounds]
      exact Nat.lt_of_le_of_lt (account.allowed m limit) (small m limit)

/-- Two envelopes in the first round, and a second round that the cap of one refuses; the envelope
after it still belongs to the first. -/
example :
    ((State.new [⟨.user, "hi"⟩] (some 1)).performAll
        [.absorb (.fragment "a" true), .absorb (.fragment "b" true), .beginRound, .beginRound,
          .absorb (.fragment "c" false)]).2 =
      { accumulated := "abc", current := "c", rounds := 1, maxRounds := some 1,
        messages := [⟨.user, "hi"⟩, ⟨.assistant, "ab"⟩, ⟨.user, continuationPrompt⟩] } := by
  decide

end ChatClient.Continuation
