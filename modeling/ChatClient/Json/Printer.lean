import ChatClient.Json.Basic
import ChatClient.Number.Shortest
import ChatClient.Text.Quoted

/-!
# Texts of JSON values

The compact JSON text of a value, and a second rendering that names the kind of each value.

Floats are written with the fewest digits that read back. From `1e-5` up to `1e16` the notation is
positional and has a digit on either side of the point; outside that range it has an exponent with
a sign.
-/

namespace ChatClient

namespace Number

/-- The digits of a number in base 10. -/
def digitsOf (n : Nat) : String := String.ofList (Nat.toDigits 10 n)

/-- Text of the positive decimal `digits * 10 ^ exponent`. -/
def decimalText (d : DecimalDigits) : String :=
  let ds := Nat.toDigits 10 d.digits
  let point : Int := ds.length + d.exponent
  let text (s : List Char) : String := String.ofList s
  if 0 ≤ d.exponent ∧ point ≤ 16 then
    text (ds ++ List.replicate d.exponent.toNat '0') ++ ".0"
  else if 0 < point ∧ point ≤ 16 then
    text (ds.take point.toNat) ++ "." ++ text (ds.drop point.toNat)
  else if -5 < point ∧ point ≤ 0 then
    "0." ++ text (List.replicate (-point).toNat '0' ++ ds)
  else
    let e := point - 1
    let tail := if ds.length ≤ 1 then "" else "." ++ text (ds.drop 1)
    text (ds.take 1) ++ tail ++ "e" ++ (if e < 0 then "-" else "+") ++ digitsOf e.natAbs

/-- Text of a float. -/
def floatText (bits : UInt64) : String :=
  match FloatParts.ofBits bits with
  | .nan => "NaN"
  | .infinite negative => if negative then "-inf" else "inf"
  | .finite negative d =>
      let sign := if negative then "-" else ""
      if d.mantissa = 0 then sign ++ "0.0" else sign ++ decimalText d.shortest

/-- Text of an integer. -/
def intText (n : Int) : String :=
  if n < 0 then "-" ++ digitsOf n.natAbs else digitsOf n.natAbs

/-- Text of a number. -/
def text : Number → String
  | .int n => intText n
  | .float bits => floatText bits

end Number

namespace Json

/-- Two hexadecimal digits. -/
def hexPair (n : Nat) : List Char := [Nat.digitChar (n / 16), Nat.digitChar (n % 16)]

/-- A character inside a JSON string: quotes, backslashes and control characters are escaped. -/
def escapeChar (c : Char) : List Char :=
  if c = '"' then ['\\', '"']
  else if c = '\\' then ['\\', '\\']
  else if c = '\x08' then ['\\', 'b']
  else if c = '\x0c' then ['\\', 'f']
  else if c = '\n' then ['\\', 'n']
  else if c = '\r' then ['\\', 'r']
  else if c = '\t' then ['\\', 't']
  else if c.toNat < 0x20 then '\\' :: 'u' :: '0' :: '0' :: hexPair c.toNat
  else [c]

/-- The JSON text of a string, as characters. -/
def stringChars (s : List Char) : List Char := '"' :: s.flatMap escapeChar ++ ['"']

/-- The JSON text of a string. -/
def stringText (s : String) : String := String.ofList (stringChars s.toList)

mutual

/-- The compact JSON text of a value. -/
def render : Json → String
  | .null => "null"
  | .bool b => if b then "true" else "false"
  | .number n => n.text
  | .string s => stringText s
  | .array items => "[" ++ String.intercalate "," (renderItems items) ++ "]"
  | .object fields => "\x7b" ++ String.intercalate "," (renderFields fields) ++ "\x7d"

/-- The texts of the items of an array. -/
def renderItems : List Json → List String
  | [] => []
  | v :: r => render v :: renderItems r

/-- The texts of the members of an object. -/
def renderFields : List (String × Json) → List String
  | [] => []
  | (k, v) :: r => (stringText k ++ ":" ++ render v) :: renderFields r

end

mutual

/-- The rendering that names the kind of each value. -/
def inspect : Json → String
  | .null => "Null"
  | .bool b => "Bool(" ++ (if b then "true" else "false") ++ ")"
  | .number n => "Number(" ++ n.text ++ ")"
  | .string s => "String(" ++ quoted s ++ ")"
  | .array items => "Array [" ++ String.intercalate ", " (inspectItems items) ++ "]"
  | .object fields => "Object \x7b" ++ String.intercalate ", " (inspectFields fields) ++ "\x7d"

/-- The renderings of the items of an array. -/
def inspectItems : List Json → List String
  | [] => []
  | v :: r => inspect v :: inspectItems r

/-- The renderings of the members of an object. -/
def inspectFields : List (String × Json) → List String
  | [] => []
  | (k, v) :: r => (quoted k ++ ": " ++ inspect v) :: inspectFields r

end

end Json

end ChatClient
