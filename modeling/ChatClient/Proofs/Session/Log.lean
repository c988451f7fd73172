import ChatClient.Client

/-!
# What a session is seen to do

An executor does to its world what it likes, so its calls cannot be read off the world. A logged
executor keeps beside its supplier a list of the calls made of it, each with its outcome, first to
last; it answers as before (`Executor.logged_invoke`). The requests for items of a stream can be
written into the same list (`Feed.watch`), which then shows at which request a call was made.
-/

namespace ChatClient

variable {σ : Type}

/-- One thing that a session is seen to do. -/
inductive Observation where
  /-- A call of the executor. -/
  | called (request : Request) (outcome : Outcome)
  /-- A call of the alternate backend. -/
  | delegated (call : AlternateCall) (outcome : Outcome)
  /-- The answer to a request for the next item of a stream; none at its end. -/
  | pulled (item : Option Item)

namespace Observation

/-- The request of a call of the executor. -/
def request? : Observation → Option Request
  | .called r _ => some r
  | _ => none

/-- The outcome of a call of the executor. -/
def outcome? : Observation → Option Outcome
  | .called _ o => some o
  | _ => none

/-- The item that was handed on. -/
def item? : Observation → Option Item
  | .pulled item => item
  | _ => none

end Observation

/-- What has been seen, first to last. -/
abbrev Log := List Observation

namespace Log

/-- The requests of the calls of the executor. -/
def requests (l : Log) : List Request := l.filterMap Observation.request?

/-- The outcomes of the calls of the executor. -/
def outcomes (l : Log) : List Outcome := l.filterMap Observation.outcome?

/-- The items that were handed on. -/
def items (l : Log) : List Item := l.filterMap Observation.item?

@[simp] theorem requests_append (l m : Log) : requests (l ++ m) = requests l ++ requests m :=
  List.filterMap_append

@[simp] theorem requests_called (r : Request) (o : Outcome) : requests [.called r o] = [r] := rfl

@[simp] theorem outcomes_append (l m : Log) : outcomes (l ++ m) = outcomes l ++ outcomes m :=
  List.filterMap_append

@[simp] theorem outcomes_called (r : Request) (o : Outcome) : outcomes [.called r o] = [o] := rfl

@[simp] theorem items_append (l m : Log) : items (l ++ m) = items l ++ items m :=
  List.filterMap_append

@[simp] theorem items_called (r : Request) (o : Outcome) : items [.called r o] = [] := rfl

@[simp] theorem items_pulled (item : Option Item) : items [.pulled item] = item.toList := by
  cases item <;> rfl

end Log

namespace World

/-- What has been seen of a logged world. -/
def log (w : World (σ × Log)) : Log := w.supplier.2

/-- A logged world without its log. -/
def unlogged (w : World (σ × Log)) : World σ := w.withSupplier w.supplier.1

/-- The world with a log beside its supplier. -/
def withLog (w : World σ) (l : Log) : World (σ × Log) := w.withSupplier (w.supplier, l)

/-- The logged world after one more observation. -/
def observe (w : World (σ × Log)) (o : Observation) : World (σ × Log) :=
  w.unlogged.withLog (w.log ++ [o])

@[simp] theorem log_withLog (w : World σ) (l : Log) : (w.withLog l).log = l := rfl

@[simp] theorem log_note (w : World (σ × Log)) (n : Notice) : (w.note n).log = w.log := rfl

@[simp] theorem withLog_note (w : World σ) (l : Log) (n : Notice) :
    (w.withLog l).note n = (w.note n).withLog l := rfl

end World

/-- The executor that keeps a log of its calls. -/
def Executor.logged (E : Executor σ) : Executor (σ × Log) where
  invoke g r w :=
    let (o, w') := E.invoke g r w.unlogged
    (o, w'.withLog (w.log ++ [.called r o]))
  supply s := E.supply s.1
  supply_lt := by
    intro g r w reply w' h
    simp only [Prod.mk.injEq] at h
    obtain ⟨h, rfl⟩ := h
    exact E.supply_lt g r _ reply _ (Prod.ext h rfl)

/-- A logged executor answers as it does without a log. -/
theorem Executor.logged_invoke (E : Executor σ) (g : Regime) (r : Request) (w : World σ) (l : Log) :
    E.logged.invoke g r (w.withLog l) =
      ((E.invoke g r w).1,
        (E.invoke g r w).2.withLog (l ++ [.called r (E.invoke g r w).1])) := rfl

/-- The backend that keeps a log of its calls. -/
def Backend.logged (B : Backend σ) : Backend (σ × Log) where
  create g call w :=
    let (o, w') := B.create g call w.unlogged
    (o, w'.withLog (w.log ++ [.delegated call o]))

/-- The client that keeps a log of the calls that it makes. -/
def Client.logged (c : Client σ) : Client (σ × Log) where
  settings := c.settings
  executor := c.executor.logged
  alternate := c.alternate.map Backend.logged

theorem Client.executor_logged (c : Client σ) : c.logged.executor = c.executor.logged := rfl

/-- The stream and the logged world after `n` requests for an item, each of which is logged when it
is answered. -/
def Feed.watch (E : Executor (σ × Log)) : Nat → Feed → World (σ × Log) → Feed × World (σ × Log)
  | 0, f, w => (f, w)
  | n + 1, f, w =>
      let (item, f, w) := f.next E w
      Feed.watch E n f (w.observe (.pulled item))

/-- What is seen of a completion and of `n` requests for an item of its stream. -/
def Client.trace (c : Client σ) (g : Regime) (q : CompletionRequest) (n : Nat) (w : World σ) :
    Log :=
  match c.logged.complete g q (w.withLog []) with
  | (.ok (.stream f), w) => (f.watch c.logged.executor n w).2.log
  | (_, w) => w.log

end ChatClient
