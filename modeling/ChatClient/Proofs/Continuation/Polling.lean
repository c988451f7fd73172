import ChatClient.Proofs.Continuation.Rounds
import Mathlib.Logic.Basic

/-!
# Iterators over live streams

The iterator of a continuation holds the stream that it reads as a list, so nobody sees when it
looks into it. Here streams are live: they are polled for one item after the other, and to be polled
is an event like a call (`LiveExecutor`). A live iterator answers a request in passes through a loop
(`LiveIterator.pass`): a pass polls the stream at hand, and then either answers, or makes the next
call and leaves the answer to another pass. No executor and no stream need ever come to an end, so a
request may take passes without end. All statements are about any number of passes, and hold in the
middle of a request as well as between two.

A pass finds an iterator reading or at its end (`LiveIterator.Rests`) and leaves it so. In between,
when a stream is exhausted, it is neither; what is left of the pass then closes it or gives it
another stream (`LiveIterator.GoesOn`). An iterator over lists does in a request what the live one
does in the passes of that request (`Iterator.exists_passes_of_next`), so that one rule holds of
both (`Iterator.reading_or_closed`).
-/

namespace ChatClient

variable {σ ρ : Type}

/-! ## Live streams -/

/-- An executor whose replies bring live streams. Such a stream may go on for ever, or have more
items after an error or after its end; polling it may change the world as a call may. -/
structure LiveExecutor (σ ρ : Type) where
  invoke : Request → World σ → Except Error (Reply ρ) × World σ
  /-- The next item of a stream, if there is one, and the stream after it. -/
  poll : ρ → World σ → Option Item × ρ × World σ

/-- A blocking executor, the lists that it brings being polled for their items. -/
def Executor.live (E : Executor σ) : LiveExecutor σ (List Item) where
  invoke := E.invoke .blocking
  poll
    | [], w => (none, [], w)
    | item :: rest, w => (some item, rest, w)

/-- What can be done to an executor and its streams. -/
inductive Deed (ρ : Type) where
  | called (request : Request)
  | polled (stream : ρ)

namespace World

/-- The world with a record of deeds beside its supplier. -/
def withDeeds (w : World σ) (ds : List (Deed ρ)) : World (σ × List (Deed ρ)) :=
  w.withSupplier (w.supplier, ds)

/-- The deeds on record, first to last. -/
def deeds (w : World (σ × List (Deed ρ))) : List (Deed ρ) := w.supplier.2

@[simp] theorem deeds_withDeeds (w : World σ) (ds : List (Deed ρ)) : (w.withDeeds ds).deeds = ds :=
  rfl

@[simp] theorem deeds_note (w : World (σ × List (Deed ρ))) (n : Notice) :
    (w.note n).deeds = w.deeds := rfl

end World

/-- The live executor that keeps a record of what is done to it and to its streams. -/
def LiveExecutor.recorded (L : LiveExecutor σ ρ) : LiveExecutor (σ × List (Deed ρ)) ρ where
  invoke r w :=
    let (o, v) := L.invoke r (w.withSupplier w.supplier.1)
    (o, v.withDeeds (w.deeds ++ [.called r]))
  poll s w :=
    let (item, rest, v) := L.poll s (w.withSupplier w.supplier.1)
    (item, rest, v.withDeeds (w.deeds ++ [.polled s]))

namespace LiveExecutor

variable {L : LiveExecutor σ ρ}

theorem deeds_of_invoke {r : Request} {w v : World (σ × List (Deed ρ))}
    {o : Except Error (Reply ρ)} (h : L.recorded.invoke r w = (o, v)) :
    v.deeds = w.deeds ++ [.called r] := by
  cases h
  rfl

theorem deeds_of_poll {s rest : ρ} {w v : World (σ × List (Deed ρ))} {item : Option Item}
    (h : L.recorded.poll s w = (item, rest, v)) : v.deeds = w.deeds ++ [.polled s] := by
  cases h
  rfl

end LiveExecutor

namespace Continuation

/-! ## Live iterators -/

/-- An answer after which there are no more items: none, or an error. -/
def isFinal : Option Item → Bool
  | some (.ok _) => false
  | some (.error _) => true
  | none => true

/-- How a pass through the loop ends. -/
inductive Exit where
  | answer (item : Option Item)
  /-- With another stream at hand, for another pass. -/
  | again

/-- The answers given at the end of a pass: one, or none yet. -/
def Exit.answers : Exit → List (Option Item)
  | .answer item => [item]
  | .again => []

/-- An iterator over live streams. -/
structure LiveIterator (ρ : Type) where
  continuation : Continuation
  state : State
  /-- The stream that is being read. -/
  current : Option ρ
  /-- The last item has been handed on. -/
  done : Bool := false

namespace LiveIterator

/-- The iterator before the first item. -/
def new (c : Continuation) (first : ρ) : LiveIterator ρ :=
  { continuation := c, state := c.start, current := some first }

/-- A pass that ends in an error. -/
def fail (it : LiveIterator ρ) (e : Error) (w : World σ) : Exit × LiveIterator ρ × World σ :=
  (.answer (some (.error e)), { it with done := true, current := none }, w)

/-- What is left of a pass when there is nothing more to read: the end, or the next call. -/
def goOn (L : LiveExecutor σ ρ) (it : LiveIterator ρ) (w : World σ) :
    Exit × LiveIterator ρ × World σ :=
  if it.state.isTruncated then
    match it.state.beginRound with
    | .error e => it.fail e w
    | .ok st =>
        match L.invoke (it.continuation.template.followUp st.messages true)
            (w.note st.roundNotice) with
        | (.error e, w) => { it with state := st }.fail e w
        | (.ok reply, w) =>
            match reply.intoStream with
            | .error e => { it with state := st }.fail e w
            | .ok s => (.again, { it with state := st, current := some s }, w)
  else (.answer none, { it with done := true }, Generator.noteEnd it.state w)

/-- One pass through the loop of a request. -/
def pass (L : LiveExecutor σ ρ) (it : LiveIterator ρ) (w : World σ) :
    Exit × LiveIterator ρ × World σ :=
  if it.done then (.answer none, it, w)
  else
    match it.current with
    | none => it.goOn L w
    | some s =>
        match L.poll s w with
        | (some (.ok e), s, w) =>
            (.answer (some (.ok e)), { it with current := some s, state := it.state.absorb e }, w)
        | (some (.error e), _, w) => it.fail e w
        | (none, _, w) => { it with current := none }.goOn L w

/-- Passes one after the other, each request being followed by another one: the answers so far, the
iterator and the world. -/
def passes (L : LiveExecutor σ ρ) : Nat → LiveIterator ρ → World σ →
    List (Option Item) × LiveIterator ρ × World σ
  | 0, it, w => ([], it, w)
  | k + 1, it, w =>
      let (exit, it, w) := it.pass L w
      let (answers, it, w) := passes L k it w
      (exit.answers ++ answers, it, w)

/-- Between two passes an iterator is reading a stream, or at its end and without one. -/
inductive Rests : Bool → LiveIterator ρ → Prop
  | reading (c : Continuation) (st : State) (s : ρ) : Rests false ⟨c, st, some s, false⟩
  | closed (c : Continuation) (st : State) : Rests true ⟨c, st, none, true⟩

/-- A pass leaves the iterator at its end just if it ends in a final answer. -/
def Lands (result : Exit × LiveIterator ρ × World σ) : Prop :=
  Rests (result.1.answers.any isFinal) result.2.1

theorem Rests.done_eq {ended : Bool} {it : LiveIterator ρ} (h : Rests ended it) :
    it.done = ended := by
  cases h with
  | reading => rfl
  | closed => rfl

theorem Rests.exactly_one {ended : Bool} {it : LiveIterator ρ} (h : Rests ended it) :
    Xor (it.done = true) (it.current.isSome = true) := by
  cases h with
  | reading => exact .inr ⟨rfl, Bool.false_ne_true⟩
  | closed => exact .inl ⟨rfl, Bool.false_ne_true⟩

section Pass

variable (L : LiveExecutor σ ρ) (c : Continuation) (st : State)

theorem goOn_of_whole {st : State} (whole : st.isTruncated = false) (w : World σ) :
    goOn L ⟨c, st, none, false⟩ w = (.answer none, ⟨c, st, none, true⟩, Generator.noteEnd st w) :=
  if_neg (Bool.eq_false_iff.1 whole)

theorem goOn_of_refused {st : State} {e : Error} (cut : st.isTruncated = true)
    (refused : st.beginRound = .error e) (w : World σ) :
    goOn L ⟨c, st, none, false⟩ w = (.answer (some (.error e)), ⟨c, st, none, true⟩, w) := by
  rw [goOn, if_pos cut, refused]
  rfl

theorem goOn_of_unanswered {st st' : State} {o : Except Error (Reply ρ)} {e : Error}
    {w v : World σ} (cut : st.isTruncated = true) (begun : st.beginRound = .ok st')
    (asked : L.invoke (c.template.followUp st'.messages true) (w.note st'.roundNotice) = (o, v))
    (unanswered : o.bind Reply.intoStream = .error e) :
    goOn L ⟨c, st, none, false⟩ w = (.answer (some (.error e)), ⟨c, st', none, true⟩, v) := by
  rw [goOn, if_pos cut, begun]
  dsimp only
  rw [asked]
  rcases o with e' | ⟨first | s⟩
  · cases unanswered
    rfl
  · cases unanswered
    rfl
  · cases unanswered

theorem goOn_of_continued {st st' : State} {s : ρ} {w v : World σ} (cut : st.isTruncated = true)
    (begun : st.beginRound = .ok st')
    (asked : L.invoke (c.template.followUp st'.messages true) (w.note st'.roundNotice) =
      (.ok (.stream s), v)) :
    goOn L ⟨c, st, none, false⟩ w = (.again, ⟨c, st', some s, false⟩, v) := by
  rw [goOn, if_pos cut, begun]
  dsimp only
  rw [asked]
  rfl

/-- What becomes of a pass when there is nothing more to read. -/
inductive GoesOn (st : State) (w : World σ) : Exit × LiveIterator ρ × World σ → Prop
  | whole (whole : st.isTruncated = false) :
      GoesOn st w (.answer none, ⟨c, st, none, true⟩, Generator.noteEnd st w)
  | refused {e : Error} (cut : st.isTruncated = true) (refused : st.beginRound = .error e) :
      GoesOn st w (.answer (some (.error e)), ⟨c, st, none, true⟩, w)
  | unanswered {st' : State} {o : Except Error (Reply ρ)} {e : Error} {w' : World σ}
      (cut : st.isTruncated = true) (begun : st.beginRound = .ok st')
      (asked : L.invoke (c.template.followUp st'.messages true) (w.note st'.roundNotice) = (o, w'))
      (unanswered : o.bind Reply.intoStream = .error e) :
      GoesOn st w (.answer (some (.error e)), ⟨c, st', none, true⟩, w')
  | continued {st' : State} {s : ρ} {w' : World σ} (cut : st.isTruncated = true)
      (begun : st.beginRound = .ok st')
      (asked : L.invoke (c.template.followUp st'.messages true) (w.note st'.roundNotice) =
        (.ok (.stream s), w')) :
      GoesOn st w (.again, ⟨c, st', some s, false⟩, w')

theorem goesOn_goOn (st : State) (w : World σ) :
    GoesOn L c st w (goOn L ⟨c, st, none, false⟩ w) := by
  cases cut : st.isTruncated with
  | false =>
      rw [goOn_of_whole L c cut]
      exact .whole cut
  | true =>
      cases begun : st.beginRound with
      | error e =>
          rw [goOn_of_refused L c cut begun]
          exact .refused cut begun
      | ok st' =>
          generalize asked : L.invoke (c.template.followUp st'.messages true)
            (w.note st'.roundNotice) = result
          obtain ⟨o, v⟩ := result
          rcases o with e | ⟨e | s⟩
          · rw [goOn_of_unanswered L c cut begun asked rfl]
            exact .unanswered cut begun asked rfl
          · rw [goOn_of_unanswered L c cut begun asked rfl]
            exact .unanswered cut begun asked rfl
          · rw [goOn_of_continued L c cut begun asked]
            exact .continued cut begun asked

/-- From where a stream is exhausted, and the iterator neither reads nor is at its end, the pass
gets on to one of the two. -/
theorem GoesOn.lands {st : State} {w : World σ} {result : Exit × LiveIterator ρ × World σ}
    (h : GoesOn L c st w result) : Lands result := by
  cases h with
  | whole whole => exact .closed c st
  | refused cut refused => exact .closed c st
  | @unanswered st' o e w' cut begun asked unanswered => exact .closed c st'
  | @continued st' s w' cut begun asked => exact .reading c st' s

theorem lands_pass (s : ρ) (w : World σ) : Lands (pass L ⟨c, st, some s, false⟩ w) := by
  rw [pass, if_neg Bool.false_ne_true]
  dsimp only
  split
  · next e rest v _ => exact .reading c (st.absorb e) rest
  · exact .closed c st
  · -- the stream is exhausted, and the pass is not over
    next v _ => exact (goesOn_goOn L c st v).lands

/-- At its end an iterator answers at once, and does nothing. -/
theorem pass_of_done {it : LiveIterator ρ} (ended : it.done = true) (w : World σ) :
    it.pass L w = (.answer none, it, w) :=
  if_pos ended

/-- A pass keeps an iterator at rest. It is at its end if it was, or if the pass ended in a final
answer. -/
theorem Rests.pass {ended : Bool} {it : LiveIterator ρ} (h : Rests ended it) (w : World σ) :
    Rests (ended || (it.pass L w).1.answers.any isFinal) (it.pass L w).2.1 := by
  cases h with
  | reading c st s => exact lands_pass L c st s w
  | closed c st =>
      rw [pass_of_done L rfl]
      exact .closed c st

theorem Rests.passes {ended : Bool} {it : LiveIterator ρ} (h : Rests ended it) (k : Nat)
    (w : World σ) :
    Rests (ended || (it.passes L k w).1.any isFinal) (it.passes L k w).2.1 := by
  induction k generalizing ended it w with
  | zero =>
      rw [LiveIterator.passes, List.any_nil, Bool.or_false]
      exact h
  | succ k ih =>
      -- the answer of the first pass counts for all later ones as what has ended before
      have later := ih (h.pass L w) (it.pass L w).2.2
      rw [LiveIterator.passes, List.any_append, ← Bool.or_assoc]
      exact later

theorem passes_of_done {it : LiveIterator ρ} (ended : it.done = true) (k : Nat) (w : World σ) :
    it.passes L k w = (List.replicate k none, it, w) := by
  induction k with
  | zero => rfl
  | succ k ih =>
      rw [passes, pass_of_done L ended]
      dsimp only
      rw [ih]
      rfl

variable {L} in
theorem passes_of_answer {it it' : LiveIterator ρ} {w w' : World σ} {item : Option Item}
    (answered : it.pass L w = (.answer item, it', w')) : it.passes L 1 w = ([item], it', w') := by
  rw [passes, answered]
  rfl

variable {L} in
theorem passes_of_again {it it' : LiveIterator ρ} {w w' : World σ}
    (again : it.pass L w = (.again, it', w')) (k : Nat) :
    it.passes L (k + 1) w = it'.passes L k w' := by
  rw [passes, again]
  rfl

theorem passes_add (j k : Nat) (it : LiveIterator ρ) (w : World σ) :
    it.passes L (j + k) w =
      let (before, it, w) := it.passes L j w
      let (after, it, w) := it.passes L k w
      (before ++ after, it, w) := by
  induction j generalizing it w with
  | zero =>
      rw [Nat.zero_add]
      rfl
  | succ j ih =>
      rw [Nat.succ_add, passes, passes]
      dsimp only
      rw [ih]
      dsimp only
      rw [List.append_assoc]

/-- When there is nothing more to read no stream is polled, and one call is made at most. -/
theorem GoesOn.deeds {st : State} {w : World (σ × List (Deed ρ))}
    {result : Exit × LiveIterator ρ × World (σ × List (Deed ρ))}
    (h : GoesOn L.recorded c st w result) :
    ∃ calls : List Request, calls.length ≤ 1 ∧
      result.2.2.deeds = w.deeds ++ calls.map .called := by
  cases h with
  | whole whole =>
      refine ⟨[], Nat.zero_le 1, ?_⟩
      rw [List.map_nil, List.append_nil, Generator.noteEnd]
      split
      · rfl
      · rfl
  | refused cut refused => exact ⟨[], Nat.zero_le 1, (List.append_nil _).symm⟩
  | unanswered cut begun asked unanswered =>
      have made := LiveExecutor.deeds_of_invoke asked
      rw [World.deeds_note] at made
      exact ⟨[_], Nat.le_refl 1, made⟩
  | continued cut begun asked =>
      have made := LiveExecutor.deeds_of_invoke asked
      rw [World.deeds_note] at made
      exact ⟨[_], Nat.le_refl 1, made⟩

/-- A pass polls the stream at hand first, and nothing else. -/
theorem deeds_pass (s : ρ) (w : World (σ × List (Deed ρ))) :
    ∃ calls : List Request, calls.length ≤ 1 ∧
      (pass L.recorded ⟨c, st, some s, false⟩ w).2.2.deeds =
        w.deeds ++ .polled s :: calls.map .called := by
  rw [pass, if_neg Bool.false_ne_true]
  dsimp only
  split
  · next polled => exact ⟨[], Nat.zero_le 1, LiveExecutor.deeds_of_poll polled⟩
  · next polled => exact ⟨[], Nat.zero_le 1, LiveExecutor.deeds_of_poll polled⟩
  · -- the exhausted stream has been polled before the call
    next v polled =>
    obtain ⟨calls, few, made⟩ := (goesOn_goOn L.recorded c st v).deeds
    refine ⟨calls, few, ?_⟩
    rw [made, LiveExecutor.deeds_of_poll polled, List.append_assoc]
    rfl

end Pass

/-- What holds of an iterator over live streams that has given these answers. -/
structure Kept (L : LiveExecutor σ ρ) (answers : List (Option Item)) (it : LiveIterator ρ)
    (w : World σ) : Prop where
  /-- It is at its end, or it has a stream at hand, and not both. -/
  exactly_one : Xor (it.done = true) (it.current.isSome = true)
  /-- It came to its end in the very pass that gave the first final answer. -/
  done_eq : it.done = answers.any isFinal
  /-- With a stream at hand, it polls just this stream next, once, and makes one call at most. -/
  polls : ∀ s, it.current = some s → ∃ calls : List Request, calls.length ≤ 1 ∧
    (it.pass L.recorded (w.withDeeds [])).2.2.deeds = .polled s :: calls.map .called
  /-- At its end, it answers every request at once and with none; it makes no call and polls no
  stream. -/
  silent : it.done = true → ∀ k, it.passes L.recorded k (w.withDeeds []) =
    (List.replicate k none, it, w.withDeeds [])

theorem Rests.kept (L : LiveExecutor σ ρ) {answers : List (Option Item)} {it : LiveIterator ρ}
    (h : Rests (answers.any isFinal) it) (w : World σ) : Kept L answers it w where
  exactly_one := h.exactly_one
  done_eq := h.done_eq
  polls s reading := by
    generalize answers.any isFinal = ended at h
    cases h with
    | reading c st s' =>
        cases reading
        obtain ⟨calls, few, made⟩ := deeds_pass L c st s (w.withDeeds [])
        rw [World.deeds_withDeeds, List.nil_append] at made
        exact ⟨calls, few, made⟩
    | closed c st => cases reading
  silent ended k := passes_of_done L.recorded ended k (w.withDeeds [])

/-- After any number of passes the rule is kept. -/
theorem kept_passes (L : LiveExecutor σ ρ) (c : Continuation) (first : ρ) (k : Nat) (w : World σ) :
    Kept L ((new c first).passes L k w).1 ((new c first).passes L k w).2.1
      ((new c first).passes L k w).2.2 := by
  have start : Rests false (new c first) := .reading c c.start first
  have later := start.passes L k w
  rw [Bool.false_or] at later
  exact later.kept L _

end LiveIterator

/-! ## Iterators over lists -/

namespace Iterator

/-- An iterator as one over live streams. -/
def live (it : Iterator) : LiveIterator (List Item) :=
  ⟨it.continuation, it.state, it.current, it.done⟩

/-- The answers to `n` requests for an item, the iterator and the world. -/
def requests (E : Executor σ) : Nat → Iterator → World σ →
    List (Option Item) × Iterator × World σ
  | 0, it, w => ([], it, w)
  | n + 1, it, w =>
      let (item, it, w) := it.next E w
      let (items, it, w) := requests E n it w
      (item :: items, it, w)

variable (E : Executor σ) {it : Iterator}

theorem length_requests (n : Nat) (it : Iterator) (w : World σ) :
    (it.requests E n w).1.length = n := by
  induction n generalizing it w with
  | zero => rfl
  | succ n ih => exact congrArg Nat.succ (ih _ _)

theorem next_of_done (ended : it.done = true) (w : World σ) : it.next E w = (none, it, w) := by
  rw [next, if_pos ended]

theorem requests_of_done (ended : it.done = true) (n : Nat) (w : World σ) :
    it.requests E n w = (List.replicate n none, it, w) := by
  induction n with
  | zero => rfl
  | succ n ih =>
      rw [requests, next_of_done E ended]
      dsimp only
      rw [ih]
      rfl

/-- A pass that reads an item from the list at hand. -/
theorem pass_of_read? {item : Item} {it' : Iterator} (running : ¬it.done = true)
    (read : it.read? = some (item, it')) (w : World σ) :
    it.live.pass E.live w = (.answer (some item), it'.live, w) := by
  have unfinished : ¬it.live.done = true := running
  rw [LiveIterator.pass, if_neg unfinished]
  obtain ⟨c, st, current, done⟩ := it
  rcases current with _ | _ | ⟨e | e, rest⟩
  · cases read
  · cases read
  · cases read
    rfl
  · cases read
    rfl

/-- A pass that finds nothing more to read. -/
theorem pass_of_read?_eq_none (running : ¬it.done = true) (read : it.read? = none) (w : World σ) :
    it.live.pass E.live w =
      LiveIterator.goOn E.live ⟨it.continuation, it.state, none, false⟩ w := by
  have unfinished : ¬it.live.done = true := running
  rw [LiveIterator.pass, if_neg unfinished]
  obtain ⟨c, st, current, done⟩ := it
  obtain rfl : done = false := Bool.eq_false_iff.2 running
  rcases current with _ | _ | ⟨e | e, rest⟩
  · rfl
  · rfl
  · cases read
  · cases read

/-- A request is answered after some passes: each turn of its recursion is a pass, and the last one
gives the answer. -/
theorem exists_passes_of_next (w : World σ) {item : Option Item} {it' : Iterator} {w' : World σ}
    (asked : it.next E w = (item, it', w')) :
    ∃ k, it.live.passes E.live k w = ([item], it'.live, w') := by
  fun_induction next E it w with
  | case1 it w ended =>
      have finished : it.live.done = true := ended
      have pass := LiveIterator.pass_of_done E.live finished w
      cases asked
      exact ⟨1, LiveIterator.passes_of_answer pass⟩
  | case2 it w running item it₁ read =>
      have pass := pass_of_read? E running read w
      cases asked
      exact ⟨1, LiveIterator.passes_of_answer pass⟩
  | case3 it w running read cut e refused =>
      have pass := pass_of_read?_eq_none E running read w
      rw [LiveIterator.goOn_of_refused E.live _ cut refused] at pass
      cases asked
      exact ⟨1, LiveIterator.passes_of_answer pass⟩
  | case4 it w running read cut st begun e v invoked =>
      have pass := pass_of_read?_eq_none E running read w
      rw [LiveIterator.goOn_of_unanswered E.live _ cut begun invoked rfl] at pass
      cases asked
      exact ⟨1, LiveIterator.passes_of_answer pass⟩
  | case5 it w running read cut st begun reply v invoked e single =>
      have pass := pass_of_read?_eq_none E running read w
      rw [LiveIterator.goOn_of_unanswered E.live _ cut begun invoked single] at pass
      cases asked
      exact ⟨1, LiveIterator.passes_of_answer pass⟩
  | case6 it w running read cut st begun reply v invoked items stream ih =>
      have pass := pass_of_read?_eq_none E running read w
      obtain rfl : reply = .stream items := by
        cases reply with
        | single e => cases stream
        | stream s => exact congrArg Reply.stream (Except.ok.inj stream)
      rw [LiveIterator.goOn_of_continued E.live _ cut begun invoked] at pass
      -- the only pass without an answer; the request goes on with the new stream
      obtain ⟨k, later⟩ := ih asked
      rw [Bool.eq_false_iff.2 running] at later
      exact ⟨k + 1, (LiveIterator.passes_of_again pass k).trans later⟩
  | case7 it w running read whole =>
      have pass := pass_of_read?_eq_none E running read w
      rw [LiveIterator.goOn_of_whole E.live _ (Bool.eq_false_iff.2 whole)] at pass
      cases asked
      exact ⟨1, LiveIterator.passes_of_answer pass⟩

/-- Requests are answered in passes, and leave the iterator as the passes do. -/
theorem exists_passes_eq_requests (n : Nat) (it : Iterator) (w : World σ) :
    ∃ k, it.live.passes E.live k w =
      ((it.requests E n w).1, (it.requests E n w).2.1.live, (it.requests E n w).2.2) := by
  induction n generalizing it w with
  | zero => exact ⟨0, rfl⟩
  | succ n ih =>
      -- the passes of the first request, and then those of the other ones
      generalize asked : it.next E w = result
      obtain ⟨item, it', v⟩ := result
      obtain ⟨j, first⟩ := exists_passes_of_next E w asked
      obtain ⟨k, later⟩ := ih it' v
      refine ⟨j + k, ?_⟩
      rw [LiveIterator.passes_add, first, requests, asked]
      dsimp only
      rw [later]
      rfl

/-- Between two passes an iterator is at its end or has a stream at hand, and not both, whatever
answers its calls and whatever its streams do; so no pass begins with neither. It comes to its end
in the pass that answers with none or with an error. From then on it answers with none, makes no
call and polls no stream, though the last one may have more items. After any number of requests an
iterator over lists stands where some number of passes has led, and at its end it stays silent. -/
theorem reading_or_closed (c : Continuation) (w : World σ) :
    (∀ (L : LiveExecutor σ ρ) (first : ρ) (k : Nat),
      let (answers, it, v) := (LiveIterator.new c first).passes L k w
      LiveIterator.Kept L answers it v) ∧
    ∀ (E : Executor σ) (first : List Item) (n : Nat),
      let (answers, it, v) := (Iterator.new c first).requests E n w
      answers.length = n ∧
      (∃ k, (LiveIterator.new c first).passes E.live k w = (answers, it.live, v)) ∧
      LiveIterator.Kept E.live answers it.live v ∧
      (it.done = true → ∀ m, it.requests E.logged m (v.withLog []) =
        (List.replicate m none, it, v.withLog [])) := by
  constructor
  · intro L first k
    exact LiveIterator.kept_passes L c first k w
  · intro E first n
    have count := length_requests E n (Iterator.new c first) w
    obtain ⟨k, passed⟩ := exists_passes_eq_requests E n (Iterator.new c first) w
    have kept := LiveIterator.kept_passes E.live c first k w
    have start : (Iterator.new c first).live = LiveIterator.new c first := rfl
    -- the requests stop between two passes, where the rule is known
    rw [start] at passed
    rw [passed] at kept
    exact ⟨count, ⟨k, passed⟩, kept, fun ended m => requests_of_done E.logged ended m _⟩

/-- The second stream has an item after an error. It is polled for the error, and not again. -/
example :
    let c : Continuation := ⟨{ messages := [⟨.user, "hi"⟩] }, none⟩
    let first : List Item := [.ok (.fragment "a" true)]
    let second : List Item := [.error Script.exhausted, .ok (.fragment "b" false)]
    let w : World Script := { supplier := [.ok (.stream second)] }
    let r := (LiveIterator.new c first).passes Script.executor.live.recorded 6 (w.withDeeds [])
    r.1 = [some (.ok (.fragment "a" true)), some (.error Script.exhausted), none, none, none] ∧
      r.2.2.deeds =
        [.polled first, .polled [], .called (c.followUp true ["a"]), .polled second] :=
  ⟨rfl, rfl⟩

end Iterator

end Continuation

end ChatClient
