/-!
# Request identifiers

Every request carries an identifier in the layout of a version 4 UUID: 32 hexadecimal digits in groups
of 8, 4, 4, 4 and 12, the version digit 4 and a variant digit from 8 to b. The other 122 bits are drawn
at random.
-/

namespace ChatClient.Http.RequestId

/-- The last `width` hexadecimal digits of a number. -/
def hexDigits : Nat → Nat → List Char
  | 0, _ => []
  | width + 1, n => hexDigits width (n / 16) ++ [Nat.digitChar (n % 16)]

/-- The identifier made from a number of 122 bits. -/
def ofNat (n : Nat) : String :=
  String.ofList
    (hexDigits 8 (n >>> 90) ++ '-' :: hexDigits 4 (n >>> 74) ++ '-' :: '4' ::
      hexDigits 3 (n >>> 62) ++ '-' :: Nat.digitChar (8 + (n >>> 60) % 4) ::
      hexDigits 3 (n >>> 48) ++ '-' :: hexDigits 12 n)

/-- The character is a hexadecimal digit. -/
def isHex (c : Char) : Bool := c.isDigit || ('a' ≤ c && c ≤ 'f') || ('A' ≤ c && c ≤ 'F')

/-- What may stand at a place of the layout. -/
def fits (place : Nat) (c : Char) : Bool :=
  if place = 8 ∨ place = 13 ∨ place = 18 ∨ place = 23 then c == '-'
  else if place = 14 then c == '4'
  else if place = 19 then ['8', '9', 'a', 'b', 'A', 'B'].contains c
  else isHex c

/-- The text has the layout. -/
def isVersion4 (s : String) : Bool :=
  s.toList.length == 36 && (s.toList.zipIdx.all fun p => fits p.2 p.1)

end ChatClient.Http.RequestId
