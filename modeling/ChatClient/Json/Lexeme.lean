import ChatClient.Json.Basic
import ChatClient.Number.Reading

/-!
# Number lexemes

A number as it is written in a JSON text, and the value it stands for. Integers that fit 64 bits
(with a sign when negative) keep their value. Every other number is a float: its leading digits, as
many as fit 64 bits, are rounded to a float, which is then multiplied or divided by the float
nearest to a power of ten. A number too large for a float has no value; one too small is zero.
-/

namespace ChatClient

/-- A number as written: sign, digits before and after the point, and exponent, if there is one. -/
structure NumberLexeme where
  negative : Bool
  whole : List Nat
  fraction : Option (List Nat)
  exponent : Option Int
deriving DecidableEq, Repr

namespace NumberLexeme

/-- The leading digits that fit 64 bits together with `acc`, as one number, and the others. -/
def gather (acc : Nat) : List Nat → Nat × List Nat
  | [] => (acc, [])
  | d :: r => if 10 * acc + d < UInt64.size then gather (10 * acc + d) r else (acc, d :: r)

/-- The float nearest to a power of ten, for exponents up to 308. -/
def powerOfTen (k : Nat) : Float := Float.ofScientific 1 false k

/-- The float `x` scaled by a power of ten, in steps of at most 308 places; `none` when the result
is too large. Three steps are enough to bring every 64-bit number down to zero. -/
def scale : Nat → Float → Int → Option Float
  | 0, _, _ => some 0.0
  | steps + 1, x, e =>
      if e.natAbs ≤ 308 then
        if 0 ≤ e then
          let y := x * powerOfTen e.natAbs
          if y.isInf then none else some y
        else some (x / powerOfTen e.natAbs)
      else if x == 0.0 then some x
      else if 0 ≤ e then none
      else scale steps (x / powerOfTen 308) (e + 308)

/-- The value of a lexeme as a float. -/
def toFloat? (l : NumberLexeme) : Option Float :=
  let (head, dropped) := gather 0 l.whole
  let fraction := l.fraction.getD []
  let (all, ignored) := gather head fraction
  let places : Int := (fraction.length : Int) - ignored.length
  let e : Int := (dropped.length : Int) - places + l.exponent.getD 0
  (scale 4 all.toUInt64.toFloat e).map fun x => if l.negative then -x else x

/-- The value of a run of digits. -/
def natural (digits : List Nat) : Nat := digits.foldl (fun n d => 10 * n + d) 0

/-- The value of a lexeme. -/
def value? (l : NumberLexeme) : Option Number :=
  let n := natural l.whole
  let asFloat := l.toFloat?.map fun x => Number.float x.toBits
  if l.fraction.isSome || l.exponent.isSome then asFloat
  else if l.negative then
    -- a zero with a sign is the float
    if 0 < n ∧ 2 * n ≤ UInt64.size then some (.int (-(n : Int))) else asFloat
  else if n < UInt64.size then some (.int n)
  else asFloat

/-- The values of the digits at the start of a text, and the rest of it. -/
def readDigits : List Char → List Nat × List Char
  | [] => ([], [])
  | c :: r =>
      match Reading.digit? c with
      | none => ([], c :: r)
      | some d =>
          let (ds, s) := readDigits r
          (d :: ds, s)

/-- The digits before the point: a single zero, or digits that do not start with zero. -/
def readWhole (s : List Char) : Option (List Nat × List Char) :=
  match readDigits s with
  | ([], _) => none
  | (0 :: _ :: _, _) => none
  | (ds, r) => some (ds, r)

/-- The point and at least one digit after it, if a point comes next. -/
def readFraction : List Char → Option (Option (List Nat) × List Char)
  | '.' :: r =>
      match readDigits r with
      | ([], _) => none
      | (ds, r) => some (some ds, r)
  | r => some (none, r)

/-- The digits of an exponent, at least one, with the sign that stood before them. -/
def readExponentDigits (negative : Bool) (s : List Char) : Option (Option Int × List Char) :=
  match readDigits s with
  | ([], _) => none
  | (ds, r) =>
      let n : Int := natural ds
      some (some (if negative then -n else n), r)

/-- The exponent, if the letter `e` comes next. -/
def readExponent : List Char → Option (Option Int × List Char)
  | c :: r =>
      if c = 'e' ∨ c = 'E' then
        match r with
        | '+' :: r => readExponentDigits false r
        | '-' :: r => readExponentDigits true r
        | r => readExponentDigits false r
      else some (none, c :: r)
  | [] => some (none, [])

/-- The lexeme at the start of a text, and the rest of it. -/
def read (s : List Char) : Option (NumberLexeme × List Char) := do
  let (negative, s) := match s with
    | '-' :: r => (true, r)
    | r => (false, r)
  let (whole, s) ← readWhole s
  let (fraction, s) ← readFraction s
  let (exponent, s) ← readExponent s
  return (⟨negative, whole, fraction, exponent⟩, s)

end NumberLexeme

end ChatClient
