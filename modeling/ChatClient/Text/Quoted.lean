import ChatClient.Text.Printable

/-!
# Quoted text

A text between double quotes in which every character can be seen: quotes and backslashes are
escaped, the common control characters have short escapes, and every other character that has no
glyph of its own or would merge with its neighbour is written as its code point in hexadecimal.
-/

namespace ChatClient.Text

/-- The digits of a number in base 16, small letters, no leading zero. -/
def hexDigits (n : Nat) : List Char := Nat.toDigits 16 n

/-- A character as it stands between the quotes. -/
def escapeChar (c : Char) : List Char :=
  if c = '"' then ['\\', '"']
  else if c = '\\' then ['\\', '\\']
  else if c = '\n' then ['\\', 'n']
  else if c = '\r' then ['\\', 'r']
  else if c = '\t' then ['\\', 't']
  else if c.toNat = 0 then ['\\', '0']
  else if isCombining c || !isPrintable c then
    '\\' :: 'u' :: '{' :: hexDigits c.toNat ++ ['}']
  else [c]

/-- The quoted form of a text. -/
def quoteChars (s : List Char) : List Char := '"' :: s.flatMap escapeChar ++ ['"']

end ChatClient.Text

namespace ChatClient

/-- The quoted form of a text. -/
def quoted (s : String) : String := String.ofList (Text.quoteChars s.toList)

/-- The quoted texts between square brackets. -/
def quotedList (xs : List String) : String := "[" ++ String.intercalate ", " (xs.map quoted) ++ "]"

/-- An optional text, quoted when present. -/
def quotedOption : Option String → String
  | none => "None"
  | some s => "Some(" ++ quoted s ++ ")"

end ChatClient
