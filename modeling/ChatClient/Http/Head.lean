import ChatClient.Http.Headers
import ChatClient.Number.Reading

/-!
# Heads

An answer begins with a head: a status line, the header fields, each on a line of its own, and an
empty line. A line ends with a line feed, with or without a carriage return before it. `Head.read?`
takes a head off the front of what has arrived, which gets shorter by it (`Head.length_of_read?`);
`Head.toWire` writes one.
-/

namespace ChatClient.Http

open Utf8 (Bytes)

/-- The version of the protocol that an answer names. -/
inductive Version where
  | v10
  | v11
deriving DecidableEq, Repr

/-- The name of a version on the wire. -/
def Version.name : Version → Bytes
  | .v10 => Utf8.encode "HTTP/1.0".toList
  | .v11 => Utf8.encode "HTTP/1.1".toList

/-- The head of an answer. -/
structure Head where
  version : Version := .v11
  status : Nat
  headers : Headers
deriving Repr

namespace Head

/-- The end of a line as it is written. -/
def lineEnd : Bytes := [0x0D, 0x0A]

/-- The first line without its end, and what follows it; none if it does not end. -/
def line? : Bytes → Option (Bytes × Bytes)
  | [] => none
  | 0x0A :: r => some ([], r)
  | 0x0D :: 0x0A :: r => some ([], r)
  | b :: r => (line? r).map fun (line, rest) => (b :: line, rest)

/-- A line without line breaks in it is cut off as it is. -/
theorem line?_append {line : Bytes} (h : ∀ b ∈ line, b ≠ 0x0A ∧ b ≠ 0x0D) (rest : Bytes) :
    line? (line ++ lineEnd ++ rest) = some (line, rest) := by
  induction line with
  | nil => simp [lineEnd, line?]
  | cons b line ih =>
      obtain ⟨feed, ret⟩ := h b List.mem_cons_self
      have cut := ih fun c hc => h c (List.mem_cons_of_mem b hc)
      rw [List.cons_append, List.cons_append, line?.eq_def]
      split
      · rename_i e; simp at e
      · rename_i e; exact absurd (List.cons.inj e).1 feed
      · rename_i e; exact absurd (List.cons.inj e).1 ret
      · rename_i e
        obtain ⟨rfl, rfl⟩ := List.cons.inj e
        rw [cut]
        rfl

/-- A line takes at least its end from the bytes. -/
theorem length_of_line? {bs line rest : Bytes} (h : line? bs = some (line, rest)) :
    rest.length < bs.length := by
  fun_induction line? bs generalizing line with
  | case1 => simp at h
  | case2 r =>
      obtain ⟨-, rfl⟩ := Prod.mk.inj (Option.some.inj h)
      exact Nat.lt_succ_self _
  | case3 r =>
      obtain ⟨-, rfl⟩ := Prod.mk.inj (Option.some.inj h)
      exact Nat.lt_succ_of_lt (Nat.lt_succ_self _)
  | case4 b r _ _ ih =>
      obtain ⟨⟨l, s⟩, hl, e⟩ := Option.map_eq_some_iff.1 h
      obtain ⟨-, rfl⟩ := Prod.mk.inj e
      have := ih hl
      simp only [List.length_cons]
      omega

/-- What follows the empty lines at the front. -/
def skipEmptyLines : Bytes → Bytes
  | 0x0A :: r => skipEmptyLines r
  | 0x0D :: 0x0A :: r => skipEmptyLines r
  | bs => bs

theorem length_skipEmptyLines_le (bs : Bytes) : (skipEmptyLines bs).length ≤ bs.length := by
  fun_induction skipEmptyLines bs with
  | case1 r ih => exact Nat.le_succ_of_le ih
  | case2 r ih => exact Nat.le_succ_of_le (Nat.le_succ_of_le ih)
  | case3 => exact Nat.le_refl _

/-- The ASCII characters that bytes stand for. -/
def chars (bs : Bytes) : List Char := bs.map fun b => Char.ofNat b.toNat

/-- The byte may stand in a value or in free text: no control character but the tab. -/
def isTextByte (b : UInt8) : Bool := (0x20 ≤ b && b != 0x7F) || b == 0x09

/-- The byte may stand in the name of a field. -/
def isNameByte (b : UInt8) : Bool := b < 0x80 && MediaType.isToken (Char.ofNat b.toNat)

/-- The blanks that may surround a value. -/
def isOptionalBlank (b : UInt8) : Bool := b == 0x20 || b == 0x09

/-- A value without the blanks around it. -/
def trimValue (value : Bytes) : Bytes :=
  ((value.dropWhile isOptionalBlank).reverse.dropWhile isOptionalBlank).reverse

/-- The greatest length of the name of a field. -/
def maxNameLength : Nat := 65535

/-- The field of a line, if it is one. -/
def field? (line : Bytes) : Option (String × Bytes) :=
  match line.takeWhile isNameByte, line.dropWhile isNameByte with
  | name@(_ :: _), 0x3A :: value =>
      if name.length ≤ maxNameLength ∧ value.all isTextByte then
        some (Headers.field (String.ofList (chars name)) (trimValue value))
      else none
  | _, _ => none

/-- The version that is named at the front, and what follows it. -/
def version? (bs : Bytes) : Option (Version × Bytes) :=
  let named (v : Version) : Bool := bs.take 8 == v.name
  if named .v11 then some (.v11, bs.drop 8)
  else if named .v10 then some (.v10, bs.drop 8)
  else none

/-- The version and the status of a status line. The status has three digits, of which the first is
not zero; free text may follow it. -/
def statusLine? (line : Bytes) : Option (Version × Nat) :=
  match version? line with
  | some (version, 0x20 :: a :: b :: c :: reason) =>
      if (reason = [] ∨ reason.head? = some 0x20) ∧ reason.all isTextByte then
        ((Reading.natural? (chars [a, b, c])).filter (100 ≤ ·)).map (version, ·)
      else none
  | _ => none

/-- The greatest number of fields in a head. -/
def maxFields : Nat := 100

/-- The fields up to the empty line, and what follows it. There may be at most `room` fields. -/
def fields? (room : Nat) (bs : Bytes) : Option (Headers × Bytes) :=
  match line? bs with
  | none => none
  | some (line, rest) =>
      if line = [] then some ([], rest)
      else match room with
        | 0 => none
        | room + 1 =>
            match field? line, fields? room rest with
            | some f, some (fs, rest) => some (f :: fs, rest)
            | _, _ => none

/-- Fields take at least the empty line from the bytes. -/
theorem length_of_fields? {room : Nat} {bs rest : Bytes} {fs : Headers}
    (h : fields? room bs = some (fs, rest)) : rest.length < bs.length := by
  induction room generalizing bs fs with
  | zero =>
      unfold fields? at h
      split at h
      · cases h
      · rename_i e
        split at h
        · obtain ⟨-, rfl⟩ := Prod.mk.inj (Option.some.inj h)
          exact length_of_line? e
        · cases h
  | succ room ih =>
      unfold fields? at h
      split at h
      · cases h
      · rename_i e
        have lt := length_of_line? e
        split at h
        · obtain ⟨-, rfl⟩ := Prod.mk.inj (Option.some.inj h)
          exact lt
        · dsimp only at h
          split at h
          · rename_i _ more
            obtain ⟨-, rfl⟩ := Prod.mk.inj (Option.some.inj h)
            exact Nat.lt_trans (ih more) lt
          · cases h

/-- A head does not have too many fields. -/
theorem length_fields?_le {room : Nat} {bs rest : Bytes} {fs : Headers}
    (h : fields? room bs = some (fs, rest)) : fs.length ≤ room := by
  induction room generalizing bs rest fs with
  | zero =>
      unfold fields? at h
      split at h
      · cases h
      · split at h
        · obtain ⟨rfl, -⟩ := Prod.mk.inj (Option.some.inj h)
          exact Nat.le_refl _
        · cases h
  | succ room ih =>
      unfold fields? at h
      split at h
      · cases h
      · split at h
        · obtain ⟨rfl, -⟩ := Prod.mk.inj (Option.some.inj h)
          exact Nat.zero_le _
        · dsimp only at h
          split at h
          · rename_i _ more
            obtain ⟨rfl, -⟩ := Prod.mk.inj (Option.some.inj h)
            exact Nat.succ_le_succ (ih more)
          · cases h

/-- The head at the front, and what follows it. Empty lines before it do not count. -/
def read? (bs : Bytes) : Option (Head × Bytes) :=
  match line? (skipEmptyLines bs) with
  | none => none
  | some (line, rest) =>
      match statusLine? line, fields? maxFields rest with
      | some (version, status), some (headers, rest) => some ({ version, status, headers }, rest)
      | _, _ => none

/-- A head that is read is taken from the bytes. -/
theorem length_of_read? {bs rest : Bytes} {head : Head} (h : read? bs = some (head, rest)) :
    rest.length < bs.length := by
  unfold read? at h
  split at h
  · cases h
  · rename_i e
    have le := length_skipEmptyLines_le bs
    have lt := length_of_line? e
    split at h
    · rename_i fields
      obtain ⟨-, rfl⟩ := Prod.mk.inj (Option.some.inj h)
      have := length_of_fields? fields
      omega
    · cases h

/-- A field as it is sent. -/
def fieldLine (f : String × Bytes) : Bytes :=
  Utf8.encode f.1.toList ++ [0x3A, 0x20] ++ f.2 ++ lineEnd

/-- The head as it is sent. -/
def toWire (h : Head) : Bytes :=
  h.version.name ++ 0x20 :: Utf8.encode (toString h.status).toList ++ lineEnd ++
    h.headers.flatMap fieldLine ++ lineEnd

end Head

end ChatClient.Http
