import ChatClient.Proofs.Session.Log

/-!
# Calls made one after the other

`exchange` makes a list of calls, each with a notice before it, and gives the outcomes. What a loop
does that makes its calls one after the other is told by such a list. A logged executor logs just
the calls of the list (`exchange_logged`).

The supply of an executor is finite, so that a loop over its replies ends. This sets no bound to
what can be said of finitely many calls: however calls are answered, there is an executor that
answers as many of them as one likes in the same way (`exchange_limited`).
-/

namespace ChatClient

variable {σ : Type}

/-- The outcomes of calls that are made one after the other, each with a notice before it, and the
world after them. -/
def exchange (answer : Request → World σ → Outcome × World σ) :
    List (Notice × Request) → World σ → List Outcome × World σ
  | [], w => ([], w)
  | (notice, r) :: rest, w =>
      let (o, w) := answer r (w.note notice)
      let (os, w) := exchange answer rest w
      (o :: os, w)

section Exchange

variable (answer : Request → World σ → Outcome × World σ)

theorem exchange_append (calls more : List (Notice × Request)) (w : World σ) :
    exchange answer (calls ++ more) w =
      ((exchange answer calls w).1 ++ (exchange answer more (exchange answer calls w).2).1,
        (exchange answer more (exchange answer calls w).2).2) := by
  induction calls generalizing w with
  | nil => rfl
  | cons call rest ih =>
      obtain ⟨notice, r⟩ := call
      simp only [List.cons_append, exchange, ih]

/-- Calls and one more give some outcomes and one more just if the calls give those outcomes and
the one more call gives the last. -/
theorem exchange_concat_iff {calls : List (Notice × Request)} {notice : Notice} {r : Request}
    {w w' : World σ} {os : List Outcome} {o : Outcome} :
    exchange answer (calls ++ [(notice, r)]) w = (os ++ [o], w') ↔
      ∃ v, exchange answer calls w = (os, v) ∧ answer r (v.note notice) = (o, w') := by
  rw [exchange_append]
  constructor
  · intro h
    obtain ⟨h1, h2⟩ := Prod.mk.inj h
    -- there is one outcome for each call, so the two lists are cut at the same place
    have lengths : (exchange answer calls w).1.length = os.length := by
      have sizes := congrArg List.length h1
      simp only [exchange, List.length_append, List.length_cons, List.length_nil] at sizes
      omega
    obtain ⟨e1, e2⟩ := List.append_inj h1 lengths
    refine ⟨(exchange answer calls w).2, Prod.ext e1 rfl, Prod.ext ?_ h2⟩
    exact (List.cons.inj e2).1
  · rintro ⟨v, hv, hr⟩
    rw [hv]
    simp only [exchange, hr]

end Exchange

/-- Calls of a logged executor have the same outcomes, and the log grows by just these calls. -/
theorem exchange_logged (E : Executor σ) (g : Regime) (calls : List (Notice × Request))
    (w : World σ) (l : Log) :
    ∃ m : Log,
      exchange (E.logged.invoke g) calls (w.withLog l) =
        ((exchange (E.invoke g) calls w).1,
          (exchange (E.invoke g) calls w).2.withLog (l ++ m)) ∧
      m.requests = calls.map Prod.snd ∧ m.outcomes = (exchange (E.invoke g) calls w).1 := by
  induction calls generalizing w l with
  | nil => exact ⟨[], by simp [exchange], rfl, rfl⟩
  | cons call rest ih =>
      obtain ⟨notice, r⟩ := call
      obtain ⟨m, same, requests, outcomes⟩ :=
        ih (E.invoke g r (w.note notice)).2
          (l ++ [.called r (E.invoke g r (w.note notice)).1])
      refine ⟨.called r (E.invoke g r (w.note notice)).1 :: m, ?_, ?_, ?_⟩
      · simp only [exchange, World.withLog_note, Executor.logged_invoke, same, List.append_assoc,
          List.singleton_append]
      · rw [List.map_cons, ← requests]
        rfl
      · simp only [exchange]
        rw [← outcomes]
        rfl

/-- The executor that answers in the given way as long as it has replies left. -/
def Executor.limited (answer : Regime → Request → World σ → Outcome × World σ) :
    Executor (σ × Nat) where
  invoke g r w :=
    match w.supplier.2 with
    | 0 => (.error Script.exhausted, w)
    | n + 1 =>
        let (o, w') := answer g r (w.withSupplier w.supplier.1)
        (o, w'.withSupplier (w'.supplier, n))
  supply s := s.2
  supply_lt := by
    intro g r w reply w' h
    split at h
    · cases h
    · next n left =>
        simp only [Prod.mk.injEq] at h
        obtain ⟨-, rfl⟩ := h
        rw [left]
        exact Nat.lt_succ_self n

/-- Any way of answering calls is that of an executor, for any number of calls. -/
theorem exchange_limited (answer : Regime → Request → World σ → Outcome × World σ) (g : Regime)
    (calls : List (Notice × Request)) (w : World σ) (n : Nat) :
    exchange ((Executor.limited answer).invoke g) calls
        (w.withSupplier (w.supplier, calls.length + n)) =
      ((exchange (answer g) calls w).1,
        (exchange (answer g) calls w).2.withSupplier
          ((exchange (answer g) calls w).2.supplier, n)) := by
  induction calls generalizing w with
  | nil => simp [exchange]
  | cons call rest ih =>
      obtain ⟨notice, r⟩ := call
      have count : (rest.length + 1) + n = (rest.length + n) + 1 := by omega
      have answered : (Executor.limited answer).invoke g r
          ((w.withSupplier (w.supplier, (rest.length + n) + 1)).note notice) =
            ((answer g r (w.note notice)).1,
              (answer g r (w.note notice)).2.withSupplier
                ((answer g r (w.note notice)).2.supplier, rest.length + n)) := rfl
      simp only [exchange, List.length_cons, count, answered, ih]

end ChatClient
