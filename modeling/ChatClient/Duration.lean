import ChatClient.Number.Binary64

/-!
# Durations

A duration is a whole number of nanoseconds. A number of seconds given as a float is rounded to the
nearest nanosecond, a tie to the even one, on the exact value of the float; negative, infinite and
undefined numbers and those of `2 ^ 64` seconds or more are no durations.
-/

namespace ChatClient

/-- A span of time. -/
structure Duration where
  nanos : Nat
deriving DecidableEq, Repr, Inhabited

namespace Duration

/-- No time at all. -/
def zero : Duration := ⟨0⟩

/-- Whole seconds. -/
def ofSeconds (s : Nat) : Duration := ⟨s * 1000000000⟩

/-- Whole milliseconds. -/
def ofMillis (ms : Nat) : Duration := ⟨ms * 1000000⟩

/-- Whole seconds and the nanoseconds after them. -/
def ofParts (secs nanos : Nat) : Duration := ⟨secs * 1000000000 + nanos⟩

/-- The whole seconds. -/
def secs (d : Duration) : Nat := d.nanos / 1000000000

/-- The nanoseconds after the whole seconds. -/
def subsecNanos (d : Duration) : Nat := d.nanos % 1000000000

/-- The whole milliseconds. -/
def millis (d : Duration) : Nat := d.nanos / 1000000

/-- The shorter of two durations. -/
def shorter (a b : Duration) : Duration := if b.nanos < a.nanos then b else a

theorem shorter_le_right (a b : Duration) : (shorter a b).nanos ≤ b.nanos := by
  unfold shorter
  split <;> omega

instance : Add Duration := ⟨fun a b => ⟨a.nanos + b.nanos⟩⟩

/-- The time from `start` to `stop`; none when `stop` comes first. -/
def since (start stop : Duration) : Duration := ⟨stop.nanos - start.nanos⟩

/-- The duration of a number of seconds. -/
def ofFloatSeconds? (x : Float) : Option Duration :=
  match FloatParts.ofFloat x with
  | .nan => none
  | .infinite _ => none
  | .finite negative d =>
      if negative && d.mantissa != 0 then none
      else if UInt64.size * d.den ≤ d.num then none
      else some ⟨roundHalfEven (d.num * 1000000000) d.den⟩

/-- The digits of a fraction of `width` places, without the zeros at the end. -/
def fractionDigits : Nat → Nat → List Char
  | 0, _ => []
  | width + 1, n =>
      if n = 0 then []
      else Nat.digitChar (n / Nat.pow 10 width) :: fractionDigits width (n % Nat.pow 10 width)

/-- A whole number with a fraction of `width` places, and a unit. -/
def withUnit (whole fraction width : Nat) (unit : String) : String :=
  let tail := fractionDigits width fraction
  toString whole ++ (if tail.isEmpty then "" else "." ++ String.ofList tail) ++ unit

/-- The duration in the largest unit of which it has at least one. -/
def describe (d : Duration) : String :=
  if 0 < d.secs then withUnit d.secs d.subsecNanos 9 "s"
  else if 1000000 ≤ d.nanos then withUnit (d.nanos / 1000000) (d.nanos % 1000000) 6 "ms"
  else if 1000 ≤ d.nanos then withUnit (d.nanos / 1000) (d.nanos % 1000) 3 "µs"
  else withUnit d.nanos 0 0 "ns"

end Duration

end ChatClient
