import ChatClient.Json.Lexeme

/-!
# Raw JSON trees

The tree of a JSON text before its leaves are judged: members keep their order and their repetition,
a number may lie outside the range of floats, and a string may hold half of a surrogate pair. A
reader that skips a part of the text needs no more than this; `Raw.toJson?` gives the value of a
tree all of whose leaves have one.

`Raw.read?` bounds the nesting of arrays and objects. The fuel of the mutual readers is twice the
length of the text: every second call consumes a character.
-/

namespace ChatClient

/-- The tree of a JSON text. -/
inductive Raw where
  | null
  | bool (b : Bool)
  | number (value : Option Number)
  | string (text : Option String)
  | array (items : List Raw)
  | object (members : List (Option String × Raw))
deriving Repr, Inhabited

namespace Raw

/-- The blanks of JSON: space, tab, line feed and carriage return. -/
def isBlank (c : Char) : Bool := c == ' ' || c == '\t' || c == '\n' || c == '\r'

/-- The text after its leading blanks. -/
def skipBlanks (s : List Char) : List Char := s.dropWhile isBlank

/-- The value of four hexadecimal digits. -/
def hex4? (a b c d : Char) : Option Nat := do
  let a ← Reading.hexDigit? a
  let b ← Reading.hexDigit? b
  let c ← Reading.hexDigit? c
  let d ← Reading.hexDigit? d
  return ((a * 16 + b) * 16 + c) * 16 + d

/-- The character of an escape of one letter. -/
def shortEscape? : Char → Option Char
  | '"' => some '"'
  | '\\' => some '\\'
  | '/' => some '/'
  | 'b' => some '\x08'
  | 'f' => some '\x0c'
  | 'n' => some '\n'
  | 'r' => some '\r'
  | 't' => some '\t'
  | _ => none

/-- The unit is the first half of a surrogate pair. -/
def isHighSurrogate (n : Nat) : Bool := 0xD800 ≤ n && n < 0xDC00

/-- The unit is the second half of a surrogate pair. -/
def isLowSurrogate (n : Nat) : Bool := 0xDC00 ≤ n && n < 0xE000

/-- The second half of a surrogate pair, if its escape comes next. -/
def lowSurrogate? : List Char → Option Nat
  | '\\' :: 'u' :: a :: b :: c :: d :: _ => (hex4? a b c d).filter isLowSurrogate
  | _ => none

/-- The character of a surrogate pair. -/
def ofSurrogates (high low : Nat) : Char :=
  Char.ofNat (0x10000 + (high - 0xD800) * 0x400 + (low - 0xDC00))

/-- The rest of a string, after the characters `acc` (last first), up to its closing quote. A unit
of a surrogate pair without its partner leaves the string without a text. `pending` holds the first
half of a pair whose second half is known to come next. -/
def readString (acc : List Char) (sound : Bool) (pending : Option Nat) :
    List Char → Option (Option String × List Char)
  | [] => none
  | '"' :: r => some (if sound then some (String.ofList acc.reverse) else none, r)
  | '\\' :: 'u' :: a :: b :: c :: d :: r =>
      match hex4? a b c d, pending with
      | none, _ => none
      | some n, some high => readString (ofSurrogates high n :: acc) sound none r
      | some n, none =>
          if isHighSurrogate n then
            match lowSurrogate? r with
            | some _ => readString acc sound (some n) r
            | none => readString acc false none r
          else if isLowSurrogate n then readString acc false none r
          else readString (Char.ofNat n :: acc) sound none r
  | '\\' :: c :: r =>
      match shortEscape? c with
      | some e => readString (e :: acc) sound none r
      | none => none
  | c :: r => if c.toNat < 0x20 ∨ c = '\\' then none else readString (c :: acc) sound none r

/-- The string whose opening quote has been read. -/
def readText (s : List Char) : Option (Option String × List Char) := readString [] true none s

mutual

/-- The value at the start of a text. -/
def readValue : Nat → Nat → List Char → Option (Raw × List Char)
  | 0, _, _ => none
  | fuel + 1, depth, s =>
      match skipBlanks s with
      | 'n' :: 'u' :: 'l' :: 'l' :: r => some (.null, r)
      | 't' :: 'r' :: 'u' :: 'e' :: r => some (.bool true, r)
      | 'f' :: 'a' :: 'l' :: 's' :: 'e' :: r => some (.bool false, r)
      | '"' :: r => (readText r).map fun (t, r) => (.string t, r)
      | '[' :: r =>
          match depth with
          | 0 => none
          | depth + 1 =>
              match skipBlanks r with
              | ']' :: r => some (.array [], r)
              | r => (readItems fuel depth [] r).map fun (items, r) => (.array items, r)
      | '{' :: r =>
          match depth with
          | 0 => none
          | depth + 1 =>
              match skipBlanks r with
              | '}' :: r => some (.object [], r)
              | r => (readMembers fuel depth [] r).map fun (members, r) => (.object members, r)
      | r => (NumberLexeme.read r).map fun (l, r) => (.number l.value?, r)

/-- The items of an array up to its closing bracket, after the items `acc` (last first). -/
def readItems : Nat → Nat → List Raw → List Char → Option (List Raw × List Char)
  | 0, _, _, _ => none
  | fuel + 1, depth, acc, s =>
      match readValue fuel depth s with
      | none => none
      | some (v, r) =>
          match skipBlanks r with
          | ',' :: r => readItems fuel depth (v :: acc) r
          | ']' :: r => some ((v :: acc).reverse, r)
          | _ => none

/-- The members of an object up to its closing brace, after the members `acc` (last first). -/
def readMembers : Nat → Nat → List (Option String × Raw) → List Char →
    Option (List (Option String × Raw) × List Char)
  | 0, _, _, _ => none
  | fuel + 1, depth, acc, s =>
      match skipBlanks s with
      | '"' :: r =>
          match readText r with
          | none => none
          | some (key, r) =>
              match skipBlanks r with
              | ':' :: r =>
                  match readValue fuel depth r with
                  | none => none
                  | some (v, r) =>
                      match skipBlanks r with
                      | ',' :: r => readMembers fuel depth ((key, v) :: acc) r
                      | '}' :: r => some (((key, v) :: acc).reverse, r)
                      | _ => none
              | _ => none
      | _ => none

end

/-- The tree of a text that is one JSON value between blanks, with at most `depth` arrays and
objects inside each other. -/
def read? (depth : Nat) (s : List Char) : Option Raw :=
  match readValue (2 * s.length + 2) depth s with
  | some (v, r) => if skipBlanks r = [] then some v else none
  | none => none

mutual

/-- The value of a tree, if every leaf has one; of members with one key the last counts. -/
def toJson? : Raw → Option Json
  | .null => some .null
  | .bool b => some (.bool b)
  | .number n => n.map .number
  | .string t => t.map .string
  | .array items => (toItems? items).map .array
  | .object members => (toPairs? members).map fun pairs => .object (Fields.ofPairs pairs)

/-- The values of a list of trees. -/
def toItems? : List Raw → Option (List Json)
  | [] => some []
  | v :: r =>
      match toJson? v, toItems? r with
      | some j, some js => some (j :: js)
      | _, _ => none

/-- The keys and values of a list of members. -/
def toPairs? : List (Option String × Raw) → Option (List (String × Json))
  | [] => some []
  | (key, v) :: r =>
      match key, toJson? v, toPairs? r with
      | some k, some j, some ps => some ((k, j) :: ps)
      | _, _, _ => none

end

end Raw

namespace Json

/-- The deepest nesting of arrays and objects in a text that is accepted. -/
def maxDepth : Nat := 127

/-- The value of a JSON text. -/
def parse? (s : List Char) : Option Json := (Raw.read? maxDepth s).bind Raw.toJson?

end Json

end ChatClient
