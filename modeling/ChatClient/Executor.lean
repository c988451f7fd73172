import ChatClient.Journal

/-!
# Executors

An executor answers the calls of a model. It acts on a world: whatever supplies its answers, the
clock, and the journal. The supply is finite: every reply that it gives leaves less of it
(`Executor.supply_lt`), so that a client that goes on asking as long as it gets replies comes to an
end. Each call is made in one of two regimes, which an executor may serve in different ways.

A scripted executor answers from a list of outcomes.
-/

namespace ChatClient

/-- How a call is made: suspended until the answer comes, or waiting for it. -/
inductive Regime where
  | async
  | blocking
deriving DecidableEq, Repr

/-- What a session acts on. -/
structure World (σ : Type) where
  /-- What supplies the answers. -/
  supplier : σ
  /-- The time since the epoch. -/
  clock : Duration := .zero
  /-- The number of requests sent so far. -/
  serial : Nat := 0
  /-- What has been done, last first. -/
  journal : List Entry := []

namespace World

variable {σ τ : Type}

/-- The world with one more entry in its journal. -/
def record (w : World σ) (e : Entry) : World σ := { w with journal := e :: w.journal }

/-- The world with one more notice in its journal. -/
def note (w : World σ) (n : Notice) : World σ := w.record (.noted n)

/-- The world with another supplier. -/
def withSupplier (w : World σ) (s : τ) : World τ := { w with supplier := s }

@[simp] theorem supplier_record (w : World σ) (e : Entry) :
    (w.record e).supplier = w.supplier := rfl

@[simp] theorem supplier_note (w : World σ) (n : Notice) : (w.note n).supplier = w.supplier := rfl

end World

/-- The outcome of one call of an executor or a backend. -/
abbrev Outcome := Except Error (Reply (List Item))

/-- What answers the calls of a model. -/
structure Executor (σ : Type) where
  invoke : Regime → Request → World σ → Outcome × World σ
  /-- How many more replies the supplier can give at most. -/
  supply : σ → Nat
  supply_lt : ∀ g r w reply w', invoke g r w = (.ok reply, w') →
    supply w'.supplier < supply w.supplier

/-- What serves some models in place of the executor. -/
structure Backend (σ : Type) where
  create : Regime → AlternateCall → World σ → Outcome × World σ

/-- The outcomes of the calls to come. -/
abbrev Script := List Outcome

namespace Script

/-- The error of a call that the script does not foresee. -/
def exhausted : Error := .runtime "script exhausted" {}

/-- The outcome of the next call, and the script after it. -/
def next : Script → Outcome × Script
  | [] => (.error exhausted, [])
  | o :: rest => (o, rest)

/-- A reply uses up a step of the script. -/
theorem length_next_lt {s rest : Script} {reply : Reply (List Item)}
    (h : s.next = (.ok reply, rest)) : rest.length < s.length := by
  cases s with
  | nil => simp [next] at h
  | cons o r =>
      simp only [next, Prod.mk.injEq] at h
      obtain ⟨-, rfl⟩ := h
      exact Nat.lt_succ_self _

/-- A call answered from the script. -/
def answer (e : Entry) (w : World Script) : Outcome × World Script :=
  let (o, rest) := w.supplier.next
  (o, (w.record e).withSupplier rest)

/-- The executor that answers from the script in both regimes. -/
def executor : Executor Script where
  invoke _ r w := answer (.invoked r) w
  supply s := s.length
  supply_lt := by
    intro g r w reply w' h
    simp only [answer, Prod.mk.injEq] at h
    obtain ⟨h, rfl⟩ := h
    exact length_next_lt (Prod.ext h rfl)

/-- The backend that answers from the script in both regimes. -/
def backend : Backend Script where
  create _ c w := answer (.delegated c) w

end Script

namespace Executor

variable {σ τ : Type}

/-- The executor beside another supplier, which it leaves alone. -/
def onFirst (E : Executor σ) : Executor (σ × τ) where
  invoke g r w :=
    let (o, w') := E.invoke g r (w.withSupplier w.supplier.1)
    (o, w'.withSupplier (w'.supplier, w.supplier.2))
  supply s := E.supply s.1
  supply_lt := by
    intro g r w reply w' h
    simp only [Prod.mk.injEq] at h
    obtain ⟨h, rfl⟩ := h
    exact E.supply_lt g r _ reply _ (Prod.ext h rfl)

end Executor

/-- The backend beside another supplier, which it leaves alone. -/
def Backend.onSecond {σ τ : Type} (B : Backend τ) : Backend (σ × τ) where
  create g c w :=
    let (o, w') := B.create g c (w.withSupplier w.supplier.2)
    (o, w'.withSupplier (w.supplier.1, w'.supplier))

end ChatClient
