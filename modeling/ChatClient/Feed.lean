import ChatClient.Continuation.Iterator

/-!
# Open streams

A stream that a caller holds: the items of one call as they are, or a continuation of one reply in
the regime of the caller. It advances only when the next item is asked for. Every item brings the
stream nearer to its end (`Feed.remaining_next_lt`), so a stream can be read out.
-/

namespace ChatClient

/-- A stream that a caller holds. -/
inductive Feed where
  | plain (items : List Item)
  | generated (generator : Continuation.Generator)
  | iterated (iterator : Continuation.Iterator)

namespace Feed

open Continuation

variable {σ : Type}

/-- The next item of a stream. -/
def next (E : Executor σ) : Feed → World σ → Option Item × Feed × World σ
  | .plain [], w => (none, .plain [], w)
  | .plain (item :: rest), w => (some item, .plain rest, w)
  | .generated gen, w =>
      let (item, gen, w) := gen.resume E w
      (item, .generated gen, w)
  | .iterated it, w =>
      let (item, it, w) := it.next E w
      (item, .iterated it, w)

/-- Up to `n` items of a stream, and whether its end was seen on the way. -/
def take (E : Executor σ) : Nat → Feed → World σ → (List Item × Bool) × Feed × World σ
  | 0, f, w => (([], false), f, w)
  | n + 1, f, w =>
      match f.next E w with
      | (none, f, w) => (([], true), f, w)
      | (some item, f, w) =>
          let ((items, ended), f, w) := take E n f w
          ((item :: items, ended), f, w)

/-- A bound on what is left of a stream: the replies to come and the items at hand, one more while a
continuation is open. -/
def remaining (E : Executor σ) (f : Feed) (w : World σ) : Nat × Nat :=
  match f with
  | .plain items => (0, items.length)
  | .generated gen =>
      match gen.point with
      | .draining items => (E.supply w.supplier, items.length + 1)
      | .finished => (0, 0)
  | .iterated it =>
      if it.done then (0, 0)
      else (E.supply w.supplier, (it.current.map List.length).getD 0 + 1)

/-- One bound lies below another in the lexicographic order. -/
def Below (a b : Nat × Nat) : Prop := Prod.Lex (· < ·) (· < ·) a b

theorem below_of_snd_lt {a b d : Nat} (h : b < d) : Below (a, b) (a, d) := Prod.Lex.right _ h

theorem zero_below_succ (a b : Nat) : Below (0, 0) (a, b + 1) := by
  rcases Nat.eq_zero_or_pos a with rfl | h
  · exact Prod.Lex.right _ (Nat.succ_pos b)
  · exact Prod.Lex.left _ _ h

theorem below_of_below_of_fst_lt {p : Nat × Nat} {a b c d : Nat} (h : Below p (a, b)) (h' : a < c) :
    Below p (c, d) := by
  obtain ⟨x, y⟩ := p
  cases h with
  | left _ _ hx => exact Prod.Lex.left _ _ (Nat.lt_trans hx h')
  | right _ _ => exact Prod.Lex.left _ _ h'

/-- A generator that hands on an item is nearer to its end. -/
theorem resumeFrom_below (E : Executor σ) (c : Continuation) (st : State) (items : List Item)
    (w : World σ) {item : Item} {gen : Generator} {w' : World σ}
    (h : Generator.resumeFrom c E st items w = (some item, gen, w')) :
    Below (remaining E (.generated gen) w') (E.supply w.supplier, items.length + 1) := by
  fun_induction Generator.resumeFrom c E st items w with
  | case1 st w e rest =>
      cases h
      exact below_of_snd_lt (Nat.lt_succ_self _)
  | case2 => cases h; exact zero_below_succ _ _
  | case3 => cases h; exact zero_below_succ _ _
  | case4 => cases h; exact zero_below_succ _ _
  | case5 => cases h; exact zero_below_succ _ _
  | case6 st w _ st' _ reply w₁ hi next _ ih =>
      have lt := E.supply_lt _ _ _ _ _ hi
      exact below_of_below_of_fst_lt (ih h) lt
  | case7 => cases h

theorem remaining_close (E : Executor σ) (it : Iterator) (w : World σ) :
    remaining E (.iterated it.close) w = (0, 0) := rfl

/-- An item read from the stream at hand brings the iterator nearer to its end. -/
theorem read?_below (E : Executor σ) {it it' : Iterator} (w : World σ) {item : Item}
    (hd : ¬it.done = true) (h : it.read? = some (item, it')) :
    Below (remaining E (.iterated it') w) (remaining E (.iterated it) w) := by
  unfold Iterator.read? at h
  split at h
  · rename_i e rest hc
    cases h
    simp only [remaining, hd, hc]
    exact below_of_snd_lt (Nat.lt_succ_self _)
  · cases h
    rw [remaining_close]
    simp only [remaining, hd]
    exact zero_below_succ _ _
  · cases h
  · cases h

/-- An iterator that hands on an item is nearer to its end. -/
theorem next_below (E : Executor σ) (it : Iterator) (w : World σ) {item : Item} {it' : Iterator}
    {w' : World σ} (h : Iterator.next E it w = (some item, it', w')) :
    Below (remaining E (.iterated it') w') (remaining E (.iterated it) w) := by
  have open_of {j : Iterator} {v : World σ} (hd : ¬j.done = true) :
      remaining E (.iterated j) v =
        (E.supply v.supplier, (j.current.map List.length).getD 0 + 1) := by
    simp only [remaining, hd]
    rfl
  fun_induction Iterator.next E it w with
  | case1 => cases h
  | case2 it w hd item it₁ hr => cases h; exact read?_below E _ hd hr
  | case3 it w hd => cases h; rw [open_of hd]; exact zero_below_succ _ _
  | case4 it w hd => cases h; rw [open_of hd]; exact zero_below_succ _ _
  | case5 it w hd => cases h; rw [open_of hd]; exact zero_below_succ _ _
  | case6 it w hd _ _ st _ reply w₁ hi items _ ih =>
      have lt := E.supply_lt _ _ _ _ _ hi
      have at_next := open_of (j := ⟨it.continuation, st, some items, it.done⟩) (v := w₁) hd
      have below := ih h
      rw [at_next] at below
      rw [open_of hd]
      exact below_of_below_of_fst_lt below lt
  | case7 => cases h

/-- A stream that hands on an item is nearer to its end. -/
theorem remaining_next_lt (E : Executor σ) (f : Feed) (w : World σ) {item : Item} {f' : Feed}
    {w' : World σ} (h : f.next E w = (some item, f', w')) :
    Below (remaining E f' w') (remaining E f w) := by
  cases f with
  | plain items =>
      cases items with
      | nil => cases h
      | cons a rest => cases h; exact below_of_snd_lt (Nat.lt_succ_self _)
  | generated gen =>
      simp only [next, Prod.mk.injEq] at h
      obtain ⟨h1, rfl, rfl⟩ := h
      obtain ⟨c, st, point⟩ := gen
      cases point with
      | finished => cases h1
      | draining items => exact resumeFrom_below E c st items w (Prod.ext h1 rfl)
  | iterated it =>
      simp only [next, Prod.mk.injEq] at h
      obtain ⟨h1, rfl, rfl⟩ := h
      exact next_below E it w (Prod.ext h1 rfl)

/-- The text of a stream up to its end or its first error, with that error. -/
def readOut (E : Executor σ) (f : Feed) (w : World σ) : (String × Option Error) × World σ :=
  match _h : f.next E w with
  | (none, _, w) => (("", none), w)
  | (some (.error e), _, w) => (("", some e), w)
  | (some (.ok e), f, w) =>
      let ((text, error), w) := readOut E f w
      ((e.result ++ text, error), w)
termination_by remaining E f w
decreasing_by exact remaining_next_lt E _ _ _h

end Feed

end ChatClient
