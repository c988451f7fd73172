import ChatClient.Number.Binary64

/-!
# Reading numbers

Decimal integers with an optional sign, and decimal fractions with an optional sign, point and
exponent, which are rounded to the nearest 64-bit float. The words `inf`, `infinity` and `nan` are
floats in any case. No blanks are allowed around a number.
-/

namespace ChatClient.Reading

/-- The value of a decimal digit. -/
def digit? (c : Char) : Option Nat :=
  if '0' ≤ c ∧ c ≤ '9' then some (c.toNat - 48) else none

/-- The value of a hexadecimal digit, small or capital. -/
def hexDigit? (c : Char) : Option Nat :=
  if '0' ≤ c ∧ c ≤ '9' then some (c.toNat - 48)
  else if 'a' ≤ c ∧ c ≤ 'f' then some (c.toNat - 87)
  else if 'A' ≤ c ∧ c ≤ 'F' then some (c.toNat - 55)
  else none

/-- The character is a decimal digit. -/
def isDigit (c : Char) : Bool := (digit? c).isSome

/-- The value of a run of digits, most significant first, after the digits of value `acc`. -/
def digitsFrom (acc : Nat) : List Char → Option Nat
  | [] => some acc
  | c :: r => (digit? c).bind fun d => digitsFrom (10 * acc + d) r

/-- The value of a non-empty run of digits. -/
def natural? : List Char → Option Nat
  | [] => none
  | s => digitsFrom 0 s

/-- A number of at most 32 bits; a plus sign is allowed. -/
def unsigned32? (s : List Char) : Option Nat :=
  let n? := match s with
    | '+' :: r => natural? r
    | s => natural? s
  n?.filter (· < UInt32.size)

/-- An integer of at most 64 bits; either sign is allowed. -/
def signed64? (s : List Char) : Option Int :=
  let n? : Option Int := match s with
    | '+' :: r => (natural? r).map Int.ofNat
    | '-' :: r => (natural? r).map fun n => -(n : Int)
    | s => (natural? s).map Int.ofNat
  n?.filter fun n => -(UInt64.size : Int) ≤ 2 * n ∧ 2 * n < UInt64.size

/-- The float nearest to `mantissa * 10 ^ exponent`. Far outside the range of floats the answer is
known without the power of ten. -/
def nearestFloat (mantissa : Nat) (exponent : Int) : Float :=
  let magnitude : Int := (Nat.toDigits 10 mantissa).length + exponent
  if mantissa = 0 then 0.0
  else if 400 < magnitude then 1.0 / 0.0
  else if magnitude < -400 then 0.0
  else Float.ofScientific mantissa (decide (exponent < 0)) exponent.natAbs

/-- The exponent after the letter `e`. -/
def exponent? : List Char → Option Int
  | '+' :: r => (natural? r).map Int.ofNat
  | '-' :: r => (natural? r).map fun n => -(n : Int)
  | s => (natural? s).map Int.ofNat

/-- Digits with an optional point, at least one digit in all: the digits as one number, and how many
of them stand after the point. -/
def mantissa? (s : List Char) : Option (Nat × Nat) :=
  let whole := s.takeWhile isDigit
  match s.dropWhile isDigit with
  | [] => (natural? whole).map (·, 0)
  | c :: fraction =>
      if c = '.' then (natural? (whole ++ fraction)).map (·, fraction.length) else none

/-- An unsigned decimal fraction with an optional exponent. -/
def decimal? (s : List Char) : Option Float :=
  let isExponent (c : Char) : Bool := c == 'e' || c == 'E'
  match s.dropWhile (!isExponent ·) with
  | [] => (mantissa? s).map fun (m, places) => nearestFloat m (-(places : Int))
  | _ :: e => do
      let (m, places) ← mantissa? (s.takeWhile (!isExponent ·))
      let x ← exponent? e
      return nearestFloat m (x - places)

/-- An unsigned float: one of the words, or a decimal fraction. -/
def unsignedFloat? (s : List Char) : Option Float :=
  let word := s.map Char.toLower
  if word = "inf".toList ∨ word = "infinity".toList then some (1.0 / 0.0)
  else if word = "nan".toList then some (0.0 / 0.0)
  else decimal? s

/-- A float with an optional sign. -/
def float? : List Char → Option Float
  | '+' :: r => unsignedFloat? r
  | '-' :: r => (unsignedFloat? r).map (- ·)
  | s => unsignedFloat? s

end ChatClient.Reading
