import ChatClient.Request

/-!
# Retries

After a failed attempt the policy either gives up or names a wait. Only transport failures and the
configured API errors are worth another attempt, and only while attempts remain (`decide_retry`).
The wait before attempt `n + 1` is the base times `2 ^ (n - 1)`, at most `2 ^ 30`, plus a random
part below the jitter; it never exceeds the longest wait (`delay_le_maxDelay`). Without a base there
is no wait at all.
-/

namespace ChatClient

/-- When to try again, and how long to wait before that. -/
structure RetryPolicy where
  maxAttempts : Nat
  backoff : Float
  jitter : Float
  maxDelay : Duration
  codes : CodeSet
deriving Inhabited

namespace RetryPolicy

/-- What to do after a failed attempt. -/
inductive Decision where
  | retry (delay : Duration)
  | fail
deriving DecidableEq, Repr

/-- The float itself when it is positive, else zero. -/
def positivePart (x : Float) : Float := if 0.0 < x then x else 0.0

/-- The policy of a call, without jitter. -/
def new (options : Options) (codes : CodeSet) (maxDelay : Duration) : RetryPolicy where
  maxAttempts := max options.retryCount 1
  backoff := positivePart options.backoff
  jitter := 0.0
  maxDelay := maxDelay
  codes := codes

/-- The policy with a bound on the random part of each wait; a bound that is not finite counts as
zero. -/
def withJitter (p : RetryPolicy) (jitter : Float) : RetryPolicy :=
  { p with jitter := if jitter.isFinite then positivePart jitter else 0.0 }

/-- The error is worth another attempt at all. -/
def isRetryable (p : RetryPolicy) : Error → Bool
  | .transport _ => true
  | .api code _ => p.codes.contains code
  | _ => false

/-- The wait in seconds after the attempt with the given number, counted from zero. The random part
is `fraction` of the jitter. -/
def delaySeconds (p : RetryPolicy) (attempt : Nat) (fraction : Float) : Float :=
  let base := p.backoff * Float.ofNat (Nat.pow 2 (min attempt 30))
  if 0.0 < p.jitter then base + p.jitter * fraction else base

/-- The wait after the attempt with the given number, counted from zero. -/
def delay (p : RetryPolicy) (attempt : Nat) (fraction : Float) : Duration :=
  if p.backoff == 0.0 then .zero
  else ((Duration.ofFloatSeconds? (p.delaySeconds attempt fraction)).getD p.maxDelay).shorter
    p.maxDelay

/-- What to do after the attempt with the given number, counted from zero, failed. -/
def decide (p : RetryPolicy) (error : Error) (attempt : Nat) (fraction : Float) : Decision :=
  if p.isRetryable error && attempt + 1 < p.maxAttempts then .retry (p.delay attempt fraction)
  else .fail

/-- Another attempt is made only for a retryable error and while attempts remain. -/
theorem decide_retry {p : RetryPolicy} {error : Error} {attempt : Nat} {fraction : Float}
    {d : Duration} (h : p.decide error attempt fraction = .retry d) :
    p.isRetryable error = true ∧ attempt + 1 < p.maxAttempts ∧ d = p.delay attempt fraction := by
  unfold decide at h
  split at h
  · rename_i hc
    simp only [Bool.and_eq_true, decide_eq_true_eq] at hc
    cases h
    exact ⟨hc.1, hc.2, rfl⟩
  · cases h

/-- No wait exceeds the longest one. -/
theorem delay_le_maxDelay (p : RetryPolicy) (attempt : Nat) (fraction : Float) :
    (p.delay attempt fraction).nanos ≤ p.maxDelay.nanos := by
  unfold delay
  split
  · exact Nat.zero_le _
  · exact Duration.shorter_le_right _ _

end RetryPolicy

end ChatClient
