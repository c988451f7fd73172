import ChatClient.Http.Body
import ChatClient.Http.Head

/-!
# Bodies in chunks

A body whose length is not known beforehand is sent in chunks. A line with the size of the chunk in
hexadecimal digits stands in front of it, and a line end behind it. The chunk of size zero is the
last; lines of trailing fields may follow it, up to an empty line. A size may be followed by an
extension, which means nothing. Reading gives back the chunks that were written
(`decode_encode`); a body that strays from the form breaks off there.
-/

namespace ChatClient.Http.Chunks

open Utf8 (Bytes)
open Head (lineEnd isOptionalBlank)

/-- The value of a byte that is a hexadecimal digit. -/
def digit? (b : UInt8) : Option Nat := Reading.hexDigit? (Char.ofNat b.toNat)

/-- The byte is a hexadecimal digit. -/
def isDigit (b : UInt8) : Bool := (digit? b).isSome

/-- The number that hexadecimal digits stand for. -/
def value (digits : Bytes) : Nat := digits.foldl (fun n b => 16 * n + (digit? b).getD 0) 0

/-- The number of bytes before the end of the line, and what follows it. Neither a line feed nor a
carriage return may stand alone. -/
def extension? : Bytes → Option (Nat × Bytes)
  | 0x0D :: 0x0A :: r => some (0, r)
  | [] => none
  | b :: r =>
      if b = 0x0D ∨ b = 0x0A then none else (extension? r).map fun (n, rest) => (n + 1, rest)

/-- The line in front of a chunk. -/
structure SizeLine where
  size : Nat
  /-- The number of bytes in the extension. -/
  extension : Nat := 0
deriving DecidableEq, Repr

/-- The line in front of a chunk, and what follows it. The size has at most 64 bits. -/
def sizeLine? (bs : Bytes) : Option (SizeLine × Bytes) :=
  let digits := bs.takeWhile isDigit
  if digits = [] ∨ UInt64.size ≤ value digits then none
  else
    match (bs.dropWhile isDigit).dropWhile isOptionalBlank with
    | 0x0D :: 0x0A :: rest => some ({ size := value digits }, rest)
    | 0x3B :: more =>
        (extension? more).map fun (n, rest) => ({ size := value digits, extension := n }, rest)
    | _ => none

/-- The trailing fields come to their end. `started` says that a line of them has begun. -/
def ends (started : Bool) : Bytes → Bool
  | 0x0D :: 0x0A :: r => if started then ends false r else true
  | [] => false
  | b :: r => if b = 0x0D then false else ends true r

/-- The number that all extensions of a body together must stay below, in bytes. -/
def extensionLimit : Nat := 16384

theorem length_of_extension? {bs rest : Bytes} {n : Nat} (h : extension? bs = some (n, rest)) :
    rest.length < bs.length := by
  fun_induction extension? bs generalizing n with
  | case1 r =>
      obtain ⟨-, rfl⟩ := Prod.mk.inj (Option.some.inj h)
      exact Nat.lt_succ_of_lt (Nat.lt_succ_self _)
  | case2 => cases h
  | case3 => cases h
  | case4 b r _ _ ih =>
      obtain ⟨⟨m, s⟩, hm, e⟩ := Option.map_eq_some_iff.1 h
      obtain ⟨-, rfl⟩ := Prod.mk.inj e
      have := ih hm
      simp only [List.length_cons]
      omega

/-- A size line takes at least its end from the bytes. -/
theorem length_of_sizeLine? {bs rest : Bytes} {line : SizeLine}
    (h : sizeLine? bs = some (line, rest)) : rest.length < bs.length := by
  have le : ((bs.dropWhile isDigit).dropWhile isOptionalBlank).length ≤ bs.length :=
    Nat.le_trans (List.dropWhile_sublist _).length_le (List.dropWhile_sublist _).length_le
  unfold sizeLine? at h
  dsimp only at h
  split at h
  · cases h
  · split at h
    · rename_i e
      obtain ⟨-, rfl⟩ := Prod.mk.inj (Option.some.inj h)
      rw [e] at le
      simp at le
      omega
    · rename_i e
      obtain ⟨⟨n, s⟩, hn, eq⟩ := Option.map_eq_some_iff.1 h
      simp only [Prod.mk.injEq] at eq
      obtain ⟨-, rfl⟩ := eq
      have := length_of_extension? hn
      rw [e] at le
      simp at le
      omega
    · cases h

/-- The body after extensions of `spent` bytes in all. -/
def decodeAfter (spent : Nat) (bs : Bytes) : Body :=
  match _h : sizeLine? bs with
  | none => .broken
  | some (line, rest) =>
      let spent := spent + line.extension
      if extensionLimit ≤ spent then .broken
      else if line.size = 0 then { pieces := [], complete := ends false rest }
      else
        match _e : rest.drop line.size with
        | 0x0D :: 0x0A :: rest' => (decodeAfter spent rest').cons (rest.take line.size)
        | _ => Body.broken.cons (rest.take line.size)
termination_by bs.length
decreasing_by
  have lt := length_of_sizeLine? _h
  have le := congrArg List.length _e
  simp at le
  omega

/-- The body that bytes in chunks stand for. -/
def decode (bs : Bytes) : Body := decodeAfter 0 bs

/-- A hexadecimal digit as it is written. -/
def digitByte (d : Nat) : UInt8 := UInt8.ofNat (Nat.digitChar d).toNat

/-- A size as it is written. -/
def sizeDigits (n : Nat) : Bytes := (Nat.toDigits 16 n).map fun c => UInt8.ofNat c.toNat

/-- A chunk as it is sent. -/
def chunk (piece : Bytes) : Bytes := sizeDigits piece.length ++ lineEnd ++ piece ++ lineEnd

/-- The chunks of a body as they are sent. -/
def encode (pieces : List Bytes) : Bytes := pieces.flatMap chunk

/-- The last chunk with no fields after it. -/
def last : Bytes := sizeDigits 0 ++ lineEnd ++ lineEnd

theorem digit?_digitByte : ∀ d < 16, digit? (digitByte d) = some d := by decide

theorem sizeDigits_eq (n : Nat) :
    sizeDigits n =
      if n < 16 then [digitByte n] else sizeDigits (n / 16) ++ [digitByte (n % 16)] := by
  unfold sizeDigits
  rw [Nat.toDigits_eq_if (by decide)]
  split <;> simp [digitByte]

theorem sizeDigits_ne_nil (n : Nat) : sizeDigits n ≠ [] := by
  simp [sizeDigits, Nat.toDigits_ne_nil]

theorem value_concat (digits : Bytes) (b : UInt8) :
    value (digits ++ [b]) = 16 * value digits + (digit? b).getD 0 := by
  simp [value]

/-- The digits of a size stand for it. -/
theorem value_sizeDigits (n : Nat) : value (sizeDigits n) = n := by
  induction n using Nat.strongRecOn with
  | ind n ih =>
      rw [sizeDigits_eq]
      split
      · rename_i h
        simp [value, digit?_digitByte n h]
      · rename_i h
        rw [value_concat, ih (n / 16) (by omega), digit?_digitByte (n % 16) (by omega)]
        simp
        omega

theorem isDigit_of_mem_sizeDigits {n : Nat} {b : UInt8} (h : b ∈ sizeDigits n) :
    isDigit b = true := by
  induction n using Nat.strongRecOn with
  | ind n ih =>
      rw [sizeDigits_eq] at h
      split at h
      · rename_i hn
        rw [List.mem_singleton.1 h, isDigit, digit?_digitByte n hn]
        rfl
      · rename_i hn
        rcases List.mem_append.1 h with h | h
        · exact ih (n / 16) (by omega) h
        · rw [List.mem_singleton.1 h, isDigit, digit?_digitByte (n % 16) (by omega)]
          rfl

/-- The line that is written in front of a chunk names its size. -/
theorem sizeLine?_sizeDigits {n : Nat} (h : n < UInt64.size) (rest : Bytes) :
    sizeLine? (sizeDigits n ++ lineEnd ++ rest) = some ({ size := n }, rest) := by
  have all : ∀ b ∈ sizeDigits n, isDigit b = true := fun b hb => isDigit_of_mem_sizeDigits hb
  have stop : isDigit 0x0D = false := by decide
  have digits : (sizeDigits n ++ lineEnd ++ rest).takeWhile isDigit = sizeDigits n := by
    rw [List.append_assoc, List.takeWhile_append_of_pos all]
    simp [lineEnd, stop]
  have more : (sizeDigits n ++ lineEnd ++ rest).dropWhile isDigit = lineEnd ++ rest := by
    rw [List.append_assoc, List.dropWhile_append_of_pos all]
    simp [lineEnd, stop]
  have blank : isOptionalBlank 0x0D = false := by decide
  have small : ¬(sizeDigits n = [] ∨ UInt64.size ≤ n) := by
    simp [sizeDigits_ne_nil, h]
  unfold sizeLine?
  simp only [digits, more, value_sizeDigits, if_neg small]
  simp [lineEnd, blank]

/-- Reading gives back the chunks that were written, whatever follows the last one. -/
theorem decode_encode {pieces : List Bytes}
    (h : ∀ p ∈ pieces, p ≠ [] ∧ p.length < UInt64.size) (rest : Bytes) :
    decode (encode pieces ++ last ++ rest) = { pieces } := by
  unfold decode
  induction pieces with
  | nil =>
      have cut := sizeLine?_sizeDigits (n := 0) (by decide) (lineEnd ++ rest)
      have whole : encode [] ++ last ++ rest = sizeDigits 0 ++ lineEnd ++ (lineEnd ++ rest) := by
        simp [encode, last]
      rw [whole, decodeAfter, cut]
      simp [extensionLimit, lineEnd, ends]
  | cons p ps ih =>
      obtain ⟨full, small⟩ := h p List.mem_cons_self
      have read := ih fun q hq => h q (List.mem_cons_of_mem p hq)
      have size : p.length ≠ 0 := fun e => full (List.length_eq_zero_iff.1 e)
      have cut := sizeLine?_sizeDigits small (p ++ (lineEnd ++ (encode ps ++ last ++ rest)))
      have whole : encode (p :: ps) ++ last ++ rest =
          sizeDigits p.length ++ lineEnd ++ (p ++ (lineEnd ++ (encode ps ++ last ++ rest))) := by
        simp [encode, chunk]
      rw [whole, decodeAfter, cut]
      simp only [Nat.add_zero, extensionLimit, size, List.take_left, lineEnd, List.cons_append,
        List.nil_append]
      simp only [Nat.reduceLeDiff, if_false]
      split
      · rename_i e
        rw [List.drop_left] at e
        simp only [List.cons.injEq, true_and] at e
        rw [← e, read]
        rfl
      · rename_i other
        exact absurd List.drop_left (other _)

end ChatClient.Http.Chunks
