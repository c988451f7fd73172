import ChatClient.Proofs.Continuation.Rounds

/-!
# Continuations as open streams

A generator and an iterator are two ways to keep the same thing: a continuation that stands in the
stream of a call (`Feed.reading`) or has come to its end (`Feed.closed`). The equations of
`Feed.next` at these two are the same in both regimes, and all that is proved of streams is proved
from them.

`Feed.ComesTo` says which items a stream gives on the way to some other one, `Feed.Yields` which
ones it gives in all: after the last of them it is at its end, and asked again it stays there.
-/

namespace ChatClient

variable {σ : Type}

namespace Feed

open Continuation

/-- A continuation that stands in the stream of a call, before these items. -/
def reading (g : Regime) (c : Continuation) (st : State) (items : List Item) : Feed :=
  match g with
  | .async => .generated ⟨c, st, .draining items⟩
  | .blocking => .iterated ⟨c, st, some items, false⟩

/-- A continuation that has come to its end. -/
def closed (g : Regime) (c : Continuation) (st : State) : Feed :=
  match g with
  | .async => .generated ⟨c, st, .finished⟩
  | .blocking => .iterated ⟨c, st, none, true⟩

/-- After these items the stream `f` goes on like `f'`. The two need not be the same: a call that is
made when its first item is asked for lies between them. -/
inductive ComesTo (E : Executor σ) : Feed → World σ → List Item → Feed → World σ → Prop
  | same {f f' : Feed} {w w' : World σ} :
      f.next E w = f'.next E w' → ComesTo E f w [] f' w'
  | item {f f₁ f' : Feed} {w w₁ w' : World σ} {item : Item} {items : List Item} :
      f.next E w = (some item, f₁, w₁) → ComesTo E f₁ w₁ items f' w' →
        ComesTo E f w (item :: items) f' w'

/-- Asked for an item, the stream gives none and does nothing. -/
def Ended (E : Executor σ) (f : Feed) : Prop := ∀ w, f.next E w = (none, f, w)

/-- All the items that a stream gives, and the world when it has come to its end, where it stays. -/
inductive Yields (E : Executor σ) : Feed → World σ → List Item → World σ → Prop
  | ended {f f' : Feed} {w w' : World σ} :
      f.next E w = (none, f', w') → f'.Ended E → Yields E f w [] w'
  | item {f f₁ : Feed} {w w₁ w' : World σ} {item : Item} {items : List Item} :
      f.next E w = (some item, f₁, w₁) → Yields E f₁ w₁ items w' →
        Yields E f w (item :: items) w'

/-- Read to its end, the stream gives these items, makes these calls and leaves this world. -/
structure ReadsOut (E : Executor σ) (f : Feed) (w : World σ) (items : List Item)
    (calls : List Request) (w' : World σ) : Prop where
  yields : f.Yields E w items w'
  calls : ∃ v, f.Yields E.logged (w.withLog []) items v ∧ v.log.requests = calls

variable {E : Executor σ} {f f' f₁ : Feed} {w w' w₁ : World σ} {items more : List Item}

theorem ComesTo.of_next_eq {w₂ : World σ} {f₂ : Feed} (same : f.next E w = f₂.next E w₂)
    (h : ComesTo E f₂ w₂ items f' w') : ComesTo E f w items f' w' := by
  cases h with
  | same eq => exact .same (same.trans eq)
  | item step rest => exact .item (same.trans step) rest

/-- What a stream yields hangs on nothing but what it does when it is asked next. -/
theorem Yields.of_next_eq {w₂ : World σ} {f₂ : Feed} (same : f.next E w = f₂.next E w₂)
    (h : Yields E f₂ w₂ items w') : Yields E f w items w' := by
  cases h with
  | ended last ended => exact .ended (same.trans last) ended
  | item step rest => exact .item (same.trans step) rest

/-- What a stream yields is settled by the stream and the world. -/
theorem Yields.unique {items' : List Item} {w'' : World σ} (h : Yields E f w items w')
    (h' : Yields E f w items' w'') : items = items' ∧ w' = w'' := by
  induction h generalizing items' with
  | ended last _ =>
      cases h' with
      | ended last' _ =>
          cases last.symm.trans last'
          exact ⟨rfl, rfl⟩
      | item step _ => cases last.symm.trans step
  | item step _ ih =>
      cases h' with
      | ended last _ => cases step.symm.trans last
      | item step' rest =>
          cases step.symm.trans step'
          obtain ⟨rfl, rfl⟩ := ih rest
          exact ⟨rfl, rfl⟩

theorem ComesTo.trans (h : ComesTo E f w items f₁ w₁) (h' : ComesTo E f₁ w₁ more f' w') :
    ComesTo E f w (items ++ more) f' w' := by
  induction h with
  | same eq => exact h'.of_next_eq eq
  | item step _ ih => exact .item step (ih h')

theorem ComesTo.yields (h : ComesTo E f w items f₁ w₁) (h' : Yields E f₁ w₁ more w') :
    Yields E f w (items ++ more) w' := by
  induction h with
  | same eq => exact h'.of_next_eq eq
  | item step _ ih => exact .item step (ih h')

/-- The first items of what a stream yields, asked for with `take`. -/
theorem Yields.take_eq (h : Yields E f w items w') (n : Nat) :
    (f.take E n w).1 = (items.take n, decide (items.length < n)) ∧
      (items.length < n → (f.take E n w).2.2 = w') := by
  induction h generalizing n with
  | ended last _ =>
      cases n with
      | zero => exact ⟨rfl, fun h => absurd h (Nat.not_lt_zero _)⟩
      | succ n =>
          rw [take, last]
          exact ⟨by simp, fun _ => rfl⟩
  | item step _ ih =>
      cases n with
      | zero => exact ⟨rfl, fun h => absurd h (Nat.not_lt_zero _)⟩
      | succ n =>
          rw [take, step]
          obtain ⟨first, after⟩ := ih n
          constructor
          · simp [first]
          · intro lt
            exact after (Nat.lt_of_succ_lt_succ lt)

/-! ## One step -/

section Step

variable (E : Executor σ) (g : Regime) (c : Continuation)

theorem feed_eq_reading (first : List Item) : c.feed g first = reading g c c.start first := by
  cases g <;> rfl

theorem closed_ended (st : State) : (closed g c st).Ended E := by
  intro w
  cases g with
  | async => rfl
  | blocking =>
      show next E (.iterated ⟨c, st, none, true⟩) w = _
      rw [next, Iterator.next, if_pos rfl]
      rfl

/-- A last item, after which the stream is closed. -/
theorem Yields.of_closing {E : Executor σ} {g : Regime} {c : Continuation} {st : State} {f : Feed}
    {w w' : World σ} {item : Item} (h : f.next E w = (some item, closed g c st, w')) :
    Yields E f w [item] w' :=
  .item h (.ended (closed_ended E g c st w') (closed_ended E g c st))

theorem next_reading_ok (st : State) (e : Envelope) (rest : List Item) (w : World σ) :
    (reading g c st (.ok e :: rest)).next E w =
      (some (.ok e), reading g c (st.absorb e) rest, w) := by
  cases g with
  | async =>
      show next E (.generated ⟨c, st, .draining (.ok e :: rest)⟩) w = _
      rw [next, Generator.resume]
      dsimp only
      rw [Generator.resumeFrom]
      rfl
  | blocking =>
      show next E (.iterated ⟨c, st, some (.ok e :: rest), false⟩) w = _
      rw [next, Iterator.next, if_neg (by simp)]
      rfl

theorem next_reading_error (st : State) (e : Error) (rest : List Item) (w : World σ) :
    (reading g c st (.error e :: rest)).next E w = (some (.error e), closed g c st, w) := by
  cases g with
  | async =>
      show next E (.generated ⟨c, st, .draining (.error e :: rest)⟩) w = _
      rw [next, Generator.resume]
      dsimp only
      rw [Generator.resumeFrom]
      rfl
  | blocking =>
      show next E (.iterated ⟨c, st, some (.error e :: rest), false⟩) w = _
      rw [next, Iterator.next, if_neg (by simp)]
      rfl

theorem next_reading_nil_of_whole {st : State} (whole : st.isTruncated = false) (w : World σ) :
    (reading g c st []).next E w = (none, closed g c st, Generator.noteEnd st w) := by
  cases g with
  | async =>
      show next E (.generated ⟨c, st, .draining []⟩) w = _
      rw [next, Generator.resume]
      dsimp only
      rw [Generator.resumeFrom, if_neg (by simp [whole])]
      rfl
  | blocking =>
      show next E (.iterated ⟨c, st, some [], false⟩) w = _
      rw [next, Iterator.next, if_neg (by simp)]
      simp only [Iterator.read?]
      rw [if_neg (by simp [whole])]
      rfl

theorem next_reading_nil_of_refused {st : State} {e : Error} (cut : st.isTruncated = true)
    (refused : st.beginRound = .error e) (w : World σ) :
    (reading g c st []).next E w = (some (.error e), closed g c st, w) := by
  cases g with
  | async =>
      show next E (.generated ⟨c, st, .draining []⟩) w = _
      rw [next, Generator.resume]
      dsimp only
      rw [Generator.resumeFrom, if_pos cut, refused]
      rfl
  | blocking =>
      show next E (.iterated ⟨c, st, some [], false⟩) w = _
      rw [next, Iterator.next, if_neg (by simp)]
      simp only [Iterator.read?]
      rw [if_pos cut, refused]
      rfl

/-- At the end of the stream of a call whose last envelope was truncated, the next call is made. -/
theorem next_reading_nil_of_begun {st st' : State} (cut : st.isTruncated = true)
    (begun : st.beginRound = .ok st') (w : World σ) :
    (reading g c st []).next E w =
      match E.invoke g (c.template.followUp st'.messages true) (w.note st'.roundNotice) with
      | (.error e, w) => (some (.error e), closed g c st', w)
      | (.ok reply, w) =>
          match reply.intoStream with
          | .error e => (some (.error e), closed g c st', w)
          | .ok items => (reading g c st' items).next E w := by
  cases g with
  | async =>
      show next E (.generated ⟨c, st, .draining []⟩) w = _
      rw [next, Generator.resume]
      dsimp only
      rw [Generator.resumeFrom, if_pos cut, begun]
      dsimp only
      split
      · next h =>
          rw [h]
          rfl
      · next reply v h =>
          rw [h]
          cases reply <;> rfl
  | blocking =>
      show next E (.iterated ⟨c, st, some [], false⟩) w = _
      rw [next, Iterator.next, if_neg (by simp)]
      simp only [Iterator.read?]
      rw [if_pos cut, begun]
      dsimp only
      split
      · next h =>
          rw [h]
          rfl
      · next reply v h =>
          rw [h]
          cases reply <;> rfl

/-- What stands between a request for an item and the answer. The only way to go on is a call that
brings a stream, of which the next item is asked for. -/
inductive Reads : State → List Item → World σ → Option Item × Feed × World σ → Prop
  | ok (st : State) (e : Envelope) (rest : List Item) (w : World σ) :
      Reads st (.ok e :: rest) w (some (.ok e), reading g c (st.absorb e) rest, w)
  | error (st : State) (e : Error) (rest : List Item) (w : World σ) :
      Reads st (.error e :: rest) w (some (.error e), closed g c st, w)
  | whole {st : State} (whole : st.isTruncated = false) (w : World σ) :
      Reads st [] w (none, closed g c st, Generator.noteEnd st w)
  | refused {st : State} {e : Error} (cut : st.isTruncated = true)
      (refused : st.beginRound = .error e) (w : World σ) :
      Reads st [] w (some (.error e), closed g c st, w)
  | unanswered {st st' : State} {o : Outcome} {e : Error} {w w' : World σ}
      (cut : st.isTruncated = true) (begun : st.beginRound = .ok st')
      (asked : E.invoke g (c.template.followUp st'.messages true) (w.note st'.roundNotice) =
        (o, w'))
      (unanswered : o.bind Reply.intoStream = .error e) :
      Reads st [] w (some (.error e), closed g c st', w')
  | continued {st st' : State} {items : List Item} {w w' : World σ}
      {result : Option Item × Feed × World σ} (cut : st.isTruncated = true)
      (begun : st.beginRound = .ok st')
      (asked : E.invoke g (c.template.followUp st'.messages true) (w.note st'.roundNotice) =
        (.ok (.stream items), w'))
      (rest : Reads st' items w' result) : Reads st [] w result

theorem reads_next (st : State) (items : List Item) (w : World σ) :
    Reads E g c st items w ((reading g c st items).next E w) := by
  induction supply : E.supply w.supplier using Nat.strongRecOn generalizing st items w with
  | ind n ih =>
      rcases items with _ | ⟨e | e, rest⟩
      · cases cut : st.isTruncated with
        | false =>
            rw [next_reading_nil_of_whole E g c cut]
            exact .whole cut w
        | true =>
            cases begun : st.beginRound with
            | error e =>
                rw [next_reading_nil_of_refused E g c cut begun]
                exact .refused cut begun w
            | ok st' =>
                rw [next_reading_nil_of_begun E g c cut begun]
                generalize asked : E.invoke g _ _ = result
                obtain ⟨o, v⟩ := result
                rcases o with e | ⟨e | items⟩
                · exact .unanswered cut begun asked rfl
                · exact .unanswered cut begun asked rfl
                · have lt := E.supply_lt _ _ _ _ _ asked
                  rw [World.supplier_note, supply] at lt
                  exact .continued cut begun asked (ih _ lt st' items v rfl)
      · rw [next_reading_error]
        exact .error st e rest w
      · rw [next_reading_ok]
        exact .ok st e rest w

end Step

end Feed

end ChatClient
