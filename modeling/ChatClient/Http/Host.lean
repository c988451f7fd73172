import ChatClient.Http.HostMapping
import ChatClient.Http.Percent
import ChatClient.Text.Blank

/-!
# Hosts

The host of a URL is a name or a numeric address. An address of 32 bits has up to four parts in base
8, 10 or 16; an address of eight groups of 16 bits stands in brackets, may leave out one run of zero
groups, and may end in four bytes in decimal. A host whose last label is a number must be an
address. `Host.parse?` reads a host, and `Host.text` writes it.
-/

namespace ChatClient.Http

/-- The host of a URL. -/
inductive Host where
  /-- An address of 32 bits. -/
  | v4 (number : Nat)
  /-- An address of eight groups of 16 bits. -/
  | v6 (groups : List Nat)
  | name (text : String)
deriving DecidableEq, Repr

namespace Host

/-- The number of the digits in a base up to 16; no digits stand for zero. -/
def digitsIn? (base : Nat) (digits : List Char) : Option Nat :=
  digits.foldlM
    (fun n c => ((Reading.hexDigit? c).filter (· < base)).map (base * n + ·)) 0

/-- A part of a numeric address in base 8, 10 or 16. -/
def part? : List Char → Option Nat
  | [] => none
  | '0' :: 'x' :: digits => digitsIn? 16 digits
  | '0' :: 'X' :: digits => digitsIn? 16 digits
  | '0' :: digits => digitsIn? 8 digits
  | digits => digitsIn? 10 digits

/-- The labels of a host name without the empty one after a final dot. -/
def labels (s : List Char) : List (List Char) :=
  let ps := Text.pieces '.' s
  if 1 < ps.length && ps.getLast? == some [] then ps.dropLast else ps

/-- The last label makes the host a numeric address. -/
def endsInNumber (ls : List (List Char)) : Bool :=
  match ls.getLast? with
  | none => false
  | some l => l ≠ [] && (l.all Reading.isDigit || (part? l).isSome)

/-- The address of at most four labels: each but the last is a byte, the last fills the bytes that
are left. -/
def v4? (ls : List (List Char)) : Option Nat := do
  let parts ← ls.mapM part?
  let last ← parts.getLast?
  let high := parts.dropLast
  let rest := Nat.pow 256 (4 - high.length)
  if 3 < high.length || high.any (255 < ·) || rest ≤ last then none
  else some (high.foldl (fun n p => 256 * n + p) 0 * rest + last)

/-- A group of up to four hexadecimal digits. -/
def group? (s : List Char) : Option Nat :=
  if s = [] ∨ 4 < s.length then none else digitsIn? 16 s

/-- A byte in decimal without leading zeros. -/
def byte? (s : List Char) : Option Nat :=
  if s ≠ ['0'] ∧ s.head? = some '0' then none else (Reading.natural? s).filter (· < 256)

/-- Four bytes between dots, as two groups. -/
def dotted? (s : List Char) : Option (List Nat) :=
  match (Text.pieces '.' s).mapM byte? with
  | some [a, b, c, d] => some [256 * a + b, 256 * c + d]
  | _ => none

/-- The groups of the texts between colons; the last text may be four bytes between dots. -/
def groups? : List (List Char) → Option (List Nat)
  | [] => some []
  | [s] => ((group? s).map ([·])).orElse fun _ => dotted? s
  | s :: rest => do return (← group? s) :: (← groups? rest)

/-- The texts around the first two colons that stand together. -/
def splitGap : List Char → Option (List Char × List Char)
  | ':' :: ':' :: r => some ([], r)
  | c :: r => (splitGap r).map fun (a, b) => (c :: a, b)
  | [] => none

/-- The texts between colons; none in an empty text. -/
def fields (s : List Char) : List (List Char) := if s = [] then [] else Text.pieces ':' s

/-- The eight groups of an address in brackets; those that are left out are zero. -/
def v6? (s : List Char) : Option (List Nat) :=
  match splitGap s with
  | none => (groups? (fields s)).filter (·.length = 8)
  | some (a, b) => do
      let high ← (fields a).mapM group?
      let low ← groups? (fields b)
      let zeros := 8 - (high.length + low.length)
      if zeros = 0 then none else some (high ++ List.replicate zeros 0 ++ low)

/-- The character may not stand in the name of a host. -/
def isForbidden (c : Char) : Bool :=
  c.toNat ≤ 0x20 || c.toNat == 0x7F || "#/:<>?@[\\]^|%".toList.contains c

/-- The host of a text, if it is one. -/
def parse? : List Char → Option Host
  | '[' :: r => if r.getLast? = some ']' then (v6? r.dropLast).map .v6 else none
  | s => do
      let name := HostMapping.toAscii (← Utf8.decode? (Percent.decode s))
      if name.isEmpty || name.any isForbidden then none
      else if endsInNumber (labels name) then (v4? (labels name)).map .v4
      else some (.name (String.ofList name))

/-- The place and the length of the longest run of zero groups, the first of several. -/
def zeroRun (groups : List Nat) : Nat × Nat :=
  let length (i : Nat) : Nat := ((groups.drop i).takeWhile (· == 0)).length
  (List.range groups.length).foldl
    (fun best i => if best.2 < length i then (i, length i) else best) (0, 0)

/-- Groups with colons between them. -/
def groupsText (groups : List Nat) : String :=
  String.intercalate ":" (groups.map fun g => String.ofList (Nat.toDigits 16 g))

/-- The host as it is written in a URL. Two colons stand for the longest run of zero groups, unless
it is a single group. -/
def text : Host → String
  | .v4 n =>
      String.intercalate "."
        ([n >>> 24, n >>> 16, n >>> 8, n].map fun part => toString (part % 256))
  | .v6 groups =>
      let (start, length) := zeroRun groups
      let written :=
        if length < 2 then groupsText groups
        else groupsText (groups.take start) ++ "::" ++ groupsText (groups.drop (start + length))
      "[" ++ written ++ "]"
  | .name text => text

/-- An address in brackets has eight groups. -/
theorem length_of_v6? {s : List Char} {gs : List Nat} (h : v6? s = some gs) : gs.length = 8 := by
  unfold v6? at h
  split at h
  · simpa using (Option.filter_eq_some_iff.1 h).2
  · simp only [Option.bind_eq_bind, Option.bind_eq_some_iff] at h
    obtain ⟨high, -, low, -, h⟩ := h
    split at h
    · cases h
    · rename_i hz
      cases h
      simp only [List.length_append, List.length_replicate]
      omega

end Host

end ChatClient.Http
