import ChatClient.Http.Transport
import Mathlib.Order.Nat
import Mathlib.Tactic.Common

/-!
# Where a run of attempts stops

A run of attempts is told by the worlds before its attempts (`RetryPolicy.before`): each of them
follows from the one before it by an attempt, a notice and a wait. As long as no attempt is final
the run goes on (`RetryPolicy.run_eq_run_before`), and the last attempt allowed is final whatever
its outcome. So the run stops at the first final attempt, with the outcome of that one
(`RetryPolicy.run_of_first`).

The policy of a call is made of numbers from outside, which may be anything. Its jitter is finite all
the same, no wait is longer than the longest one, and without a base there is no wait
(`Http.Transport.run_stops`).
-/

namespace ChatClient

variable {σ α : Type}

/-- The errors that another attempt may mend. -/
inductive Error.Retryable (codes : CodeSet) : Error → Prop
  | transport (failure : TransportFailure) : Retryable codes (.transport failure)
  | api {code : Int} (message : String) (listed : code ∈ codes) :
      Retryable codes (.api code message)

namespace RetryPolicy

theorem isRetryable_iff (p : RetryPolicy) (e : Error) :
    p.isRetryable e = true ↔ e.Retryable p.codes := by
  constructor
  · intro h
    cases e with
    | transport failure => exact .transport failure
    | api code message => exact .api message (List.contains_iff_mem.1 h)
    | _ => cases h
  · intro h
    cases h with
    | transport failure => rfl
    | api message listed => exact List.contains_iff_mem.2 listed

/-- The outcome of attempt number `i`, counted from zero, after which no other is made when `bound`
attempts are allowed. -/
inductive Final (codes : CodeSet) (bound i : Nat) : Except Error α → Prop
  | success (a : α) : Final codes bound i (.ok a)
  | hopeless {e : Error} (h : ¬e.Retryable codes) : Final codes bound i (.error e)
  | last (e : Error) (h : bound ≤ i + 1) : Final codes bound i (.error e)

theorem not_final_iff {codes : CodeSet} {bound i : Nat} {o : Except Error α} :
    ¬Final codes bound i o ↔ ∃ e, o = .error e ∧ e.Retryable codes ∧ i + 1 < bound := by
  constructor
  · intro h
    cases o with
    | ok a => exact absurd (.success a) h
    | error e =>
        refine ⟨e, rfl, ?_, ?_⟩
        · by_contra hopeless
          exact h (.hopeless hopeless)
        · by_contra used
          exact h (.last e (Nat.le_of_not_lt used))
  · rintro ⟨e, rfl, retryable, left⟩ final
    cases final with
    | hopeless h => exact h retryable
    | last _ h => exact absurd left (Nat.not_lt_of_le h)

/-! ## The run -/

section Run

variable (p : RetryPolicy) (chance : Nat → Float) (attempt : World σ → Except Error α × World σ)

/-- The world in which the attempt after a failed one is made. -/
def resumed (i : Nat) (v : World σ) : World σ :=
  (v.note (.retrying (i + 1) (p.delay i (chance v.serial)))).wait (p.delay i (chance v.serial))

/-- The world in which attempt number `i` is made, when all attempts before it are. -/
def before (w : World σ) : Nat → World σ
  | 0 => w
  | i + 1 => p.resumed chance i (attempt (before w i)).2

/-- The world that a final attempt leaves; a failure is noted. -/
def concluded (i : Nat) : Except Error α × World σ → World σ
  | (.ok _, v) => v
  | (.error _, v) => v.note (.failed (i + 1))

variable {p attempt}

theorem decide_of_final {e : Error} {i : Nat} (fraction : Float)
    (final : Final (α := α) p.codes p.maxAttempts i (.error e)) :
    p.decide e i fraction = .fail := by
  rw [RetryPolicy.decide, if_neg]
  rw [Bool.and_eq_true, isRetryable_iff, decide_eq_true_eq]
  rintro ⟨retryable, left⟩
  exact not_final_iff.2 ⟨e, rfl, retryable, left⟩ final

theorem decide_of_retryable {e : Error} {i : Nat} (fraction : Float)
    (retryable : e.Retryable p.codes) (left : i + 1 < p.maxAttempts) :
    p.decide e i fraction = .retry (p.delay i fraction) := by
  rw [RetryPolicy.decide, if_pos]
  rw [Bool.and_eq_true, isRetryable_iff, decide_eq_true_eq]
  exact ⟨retryable, left⟩

/-- A final attempt is the last one. -/
theorem run_of_final {i : Nat} {w : World σ}
    (final : Final p.codes p.maxAttempts i (attempt w).1) :
    p.run chance attempt i w = ((attempt w).1, concluded i (attempt w)) := by
  generalize made : attempt w = result at final
  obtain ⟨o, v⟩ := result
  rw [run, made]
  cases o with
  | ok a => rfl
  | error e =>
      dsimp only
      split
      · next d decided => cases (decide_of_final _ final).symm.trans decided
      · rfl

/-- After an attempt that is not final the next one is made. -/
theorem run_of_not_final {i : Nat} {w : World σ}
    (h : ¬Final p.codes p.maxAttempts i (attempt w).1) :
    p.run chance attempt i w = p.run chance attempt (i + 1) (p.resumed chance i (attempt w).2) := by
  generalize made : attempt w = result at h
  obtain ⟨o, v⟩ := result
  obtain ⟨e, rfl, retryable, left⟩ := not_final_iff.1 h
  rw [run, made]
  dsimp only
  split
  · next d decided =>
      cases (decide_of_retryable _ retryable left).symm.trans decided
      rfl
  · next decided => cases (decide_of_retryable _ retryable left).symm.trans decided

/-- Attempts that are not final are followed by further ones. -/
theorem run_eq_run_before (w : World σ) {i : Nat}
    (h : ∀ j < i, ¬Final p.codes p.maxAttempts j (attempt (p.before chance attempt w j)).1) :
    p.run chance attempt 0 w = p.run chance attempt i (p.before chance attempt w i) := by
  induction i with
  | zero => rfl
  | succ i ih =>
      rw [ih fun j hj => h j (Nat.lt_succ_of_lt hj)]
      exact run_of_not_final chance (h i (Nat.lt_succ_self i))

/-- The run stops at the first final attempt. -/
theorem run_of_first (w : World σ) {i : Nat}
    (earlier : ∀ j < i, ¬Final p.codes p.maxAttempts j (attempt (p.before chance attempt w j)).1)
    (final : Final p.codes p.maxAttempts i (attempt (p.before chance attempt w i)).1) :
    p.run chance attempt 0 w =
      ((attempt (p.before chance attempt w i)).1,
        concluded i (attempt (p.before chance attempt w i))) := by
  rw [run_eq_run_before chance w earlier]
  exact run_of_final chance final

variable (p attempt) in
/-- One of the attempts allowed is the first final one. -/
theorem exists_first (w : World σ) (allowed : 0 < p.maxAttempts) :
    ∃ i < p.maxAttempts,
      (∀ j < i, ¬Final p.codes p.maxAttempts j (attempt (p.before chance attempt w j)).1) ∧
        Final p.codes p.maxAttempts i (attempt (p.before chance attempt w i)).1 := by
  classical
  -- at the latest the last attempt allowed is final
  have some_final :
      ∃ i, Final p.codes p.maxAttempts i (attempt (p.before chance attempt w i)).1 := by
    refine ⟨p.maxAttempts - 1, ?_⟩
    by_contra h
    obtain ⟨-, -, -, left⟩ := not_final_iff.1 h
    omega
  refine ⟨Nat.find some_final, ?_, fun j hj => Nat.find_min some_final hj, Nat.find_spec some_final⟩
  by_contra beyond
  have earlier : p.maxAttempts - 1 < Nat.find some_final := by omega
  obtain ⟨-, -, -, left⟩ := not_final_iff.1 (Nat.find_min some_final earlier)
  omega

end Run

/-! ## Counting attempts -/

/-- The world with a list of outcomes beside its supplier. -/
def withOutcomes (w : World σ) (os : List (Except Error α)) :
    World (σ × List (Except Error α)) :=
  w.withSupplier (w.supplier, os)

/-- The attempt that keeps a list of its outcomes beside the supplier. -/
def recorded (attempt : World σ → Except Error α × World σ)
    (w : World (σ × List (Except Error α))) :
    Except Error α × World (σ × List (Except Error α)) :=
  let (o, v) := attempt (w.withSupplier w.supplier.1)
  (o, withOutcomes v (w.supplier.2 ++ [o]))

section Recorded

variable (p : RetryPolicy) (chance : Nat → Float) (attempt : World σ → Except Error α × World σ)

theorem recorded_withOutcomes (w : World σ) (os : List (Except Error α)) :
    recorded attempt (withOutcomes w os) =
      ((attempt w).1, withOutcomes (attempt w).2 (os ++ [(attempt w).1])) := rfl

/-- Recorded, the attempts are made in the same worlds, and the outcomes so far are on record. -/
theorem before_recorded (w : World σ) (i : Nat) :
    p.before chance (recorded attempt) (withOutcomes w []) i =
      withOutcomes (p.before chance attempt w i)
        ((List.range i).map fun j => (attempt (p.before chance attempt w j)).1) := by
  induction i with
  | zero => rfl
  | succ i ih =>
      rw [before, ih, recorded_withOutcomes, List.range_succ, List.map_append, List.map_singleton]
      rfl

/-- A run that stops at attempt number `i` makes the attempts from zero to `i` and no other. -/
theorem run_recorded_of_first (w : World σ) {i : Nat}
    (earlier : ∀ j < i, ¬Final p.codes p.maxAttempts j (attempt (p.before chance attempt w j)).1)
    (final : Final p.codes p.maxAttempts i (attempt (p.before chance attempt w i)).1) :
    (p.run chance (recorded attempt) 0 (withOutcomes w [])).2.supplier.2 =
      (List.range (i + 1)).map fun j => (attempt (p.before chance attempt w j)).1 := by
  have same (j : Nat) :
      (recorded attempt (p.before chance (recorded attempt) (withOutcomes w []) j)).1 =
        (attempt (p.before chance attempt w j)).1 := by
    rw [before_recorded, recorded_withOutcomes]
  have stopped : p.run chance (recorded attempt) 0 (withOutcomes w []) =
      ((recorded attempt (p.before chance (recorded attempt) (withOutcomes w []) i)).1,
        concluded i
          (recorded attempt (p.before chance (recorded attempt) (withOutcomes w []) i))) := by
    apply run_of_first
    · intro j hj
      rw [same]
      exact earlier j hj
    · rw [same]
      exact final
  rw [stopped, before_recorded, recorded_withOutcomes, List.range_succ, List.map_append,
    List.map_singleton]
  cases (attempt (p.before chance attempt w i)).1 with
  | ok a => rfl
  | error e => rfl

end Recorded

/-! ## Waits -/

/-- Numbers that are not positive count as zero, and those that are not comparable too. -/
theorem positivePart_of_not_pos {x : Float} (h : ¬0.0 < x) : (positivePart x == 0.0) = true := by
  rw [positivePart, if_neg h]
  decide

theorem isFinite_positivePart {x : Float} (h : x.isFinite = true) :
    (positivePart x).isFinite = true := by
  rw [positivePart]
  split
  · exact h
  · decide

/-- Whatever the bound of the random part is from outside, that of the policy is finite. -/
theorem isFinite_jitter_withJitter (p : RetryPolicy) (jitter : Float) :
    (p.withJitter jitter).jitter.isFinite = true := by
  rw [withJitter]
  dsimp only
  split
  · next finite => exact isFinite_positivePart finite
  · decide

/-- Nothing is drawn for a wait unless the range to draw from has a positive end. -/
theorem delay_of_not_pos (p : RetryPolicy) (h : ¬0.0 < p.jitter) (i : Nat)
    (fraction fraction' : Float) : p.delay i fraction = p.delay i fraction' := by
  rw [delay, delay, delaySeconds, delaySeconds, if_neg h, if_neg h]

theorem delay_of_zero (p : RetryPolicy) (h : (p.backoff == 0.0) = true) (i : Nat)
    (fraction : Float) : p.delay i fraction = .zero := by
  rw [delay, if_pos h]

end RetryPolicy

namespace Http.Transport

open RetryPolicy

/-- The attempts of a call, whatever an attempt does. With the count of the call as the bound, or one
if it is zero, the run stops at the first attempt that succeeds, fails with an error that another
attempt cannot mend, or is the last one allowed. All attempts up to that one are made and no other,
and the outcome is that of the last one. No number that the run counts up to is larger than the
bound, the random part of a wait is drawn from a range that is neither empty nor infinite, no wait
is longer than the longest one, and without a base there is no wait. -/
theorem run_stops (t : Transport) (r : Request) (attempt : World σ → Except Error α × World σ)
    (w : World σ) :
    let p := t.policy r
    let bound := max r.options.retryCount 1
    let made := fun j => attempt (p.before t.chance attempt w j)
    ∃ i < bound,
      (Final t.retryCodes bound i (made i).1 ∧
        (∀ j < i, ∃ e, (made j).1 = .error e ∧ e.Retryable t.retryCodes) ∧
        p.run t.chance attempt 0 w = ((made i).1, concluded i (made i)) ∧
        (p.run t.chance (recorded attempt) 0 (withOutcomes w [])).2.supplier.2 =
          (List.range (i + 1)).map fun j => (made j).1) ∧
      (r.options.retryCount < UInt32.size → ∀ j ≤ i, j + 1 < UInt32.size) ∧
      (p.jitter.isFinite = true ∧
        ∀ j fraction fraction', p.delay j fraction ≠ p.delay j fraction' → 0.0 < p.jitter) ∧
      ∀ j < i, ∃ d : Duration,
        p.before t.chance attempt w (j + 1) = ((made j).2.note (.retrying (j + 1) d)).wait d ∧
        d.nanos ≤ t.maxWait.nanos ∧ ((p.backoff == 0.0) = true → d = .zero) ∧
        (¬0.0 < r.options.backoff → d = .zero) := by
  intro p bound made
  obtain ⟨i, allowed, earlier, final⟩ :=
    exists_first p t.chance attempt w (Nat.lt_of_lt_of_le Nat.one_pos
      (Nat.le_max_right r.options.retryCount 1))
  refine ⟨i, allowed, ⟨final, ?_, ?_, ?_⟩, ?_, ⟨?_, ?_⟩, ?_⟩
  · intro j hj
    obtain ⟨e, failed, retryable, -⟩ := not_final_iff.1 (earlier j hj)
    exact ⟨e, failed, retryable⟩
  · exact run_of_first t.chance w earlier final
  · exact run_recorded_of_first p t.chance attempt w earlier final
  · intro counted j hj
    have limit : i < max r.options.retryCount 1 := allowed
    have size : UInt32.size = 4294967296 := rfl
    omega
  · exact isFinite_jitter_withJitter _ t.jitter
  · intro j fraction fraction' differ
    by_contra none
    exact differ (delay_of_not_pos p none j fraction fraction')
  · intro j _
    refine ⟨_, rfl, delay_le_maxDelay p _ _, fun zero => delay_of_zero p zero _ _, fun none => ?_⟩
    exact delay_of_zero p (positivePart_of_not_pos none) _ _

end Http.Transport

end ChatClient
