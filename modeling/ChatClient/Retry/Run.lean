import ChatClient.Retry
import ChatClient.Executor

/-!
# Runs of attempts

An attempt is repeated as the retry policy says, after the wait that it names. The run ends with the
first success, the first error that is not worth another attempt, or the last attempt allowed.
-/

namespace ChatClient

variable {σ α : Type}

/-- The world after a wait. -/
def World.wait (w : World σ) (d : Duration) : World σ := { w with clock := w.clock + d }

namespace RetryPolicy

/-- The run of an attempt from the one with the given number, counted from zero. The random part of
a wait is drawn by `chance` from the number of requests sent so far. -/
def run (p : RetryPolicy) (chance : Nat → Float) (attempt : World σ → Except Error α × World σ)
    (n : Nat) (w : World σ) : Except Error α × World σ :=
  match attempt w with
  | (.ok a, w) => (.ok a, w)
  | (.error e, w) =>
      match _h : p.decide e n (chance w.serial) with
      | .retry d => run p chance attempt (n + 1) ((w.note (.retrying (n + 1) d)).wait d)
      | .fail => (.error e, w.note (.failed (n + 1)))
termination_by p.maxAttempts - n
decreasing_by
  have := (decide_retry _h).2.1
  omega

/-- If no attempt adds to a supply and a successful one takes from it, a successful run takes from
it. -/
theorem run_supply_lt (p : RetryPolicy) (chance : Nat → Float)
    (attempt : World σ → Except Error α × World σ) (supply : σ → Nat)
    (hle : ∀ w, supply (attempt w).2.supplier ≤ supply w.supplier)
    (hlt : ∀ w a w', attempt w = (.ok a, w') → supply w'.supplier < supply w.supplier)
    (n : Nat) (w : World σ) {a : α} {w' : World σ}
    (h : p.run chance attempt n w = (.ok a, w')) : supply w'.supplier < supply w.supplier := by
  fun_induction run p chance attempt n w with
  | case1 n w a w₁ ha => cases h; exact hlt _ _ _ ha
  | case2 n w e w₁ ha d _ ih =>
      have le := hle w
      rw [ha] at le
      exact Nat.lt_of_lt_of_le (ih h) le
  | case3 => cases h

end RetryPolicy

end ChatClient
