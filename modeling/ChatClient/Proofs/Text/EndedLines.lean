import ChatClient.Proofs.Text.Lines

/-!
# Lines that end in different ways

A line ends in a line feed, or in a carriage return and a line feed, and the lines of one text may end
in both ways. `endedLines` cuts a text at its line feeds and takes the carriage return before a line
feed to the end of the line; what stands after the last line feed is `lastLine`.

Characters and bytes have the same signs for the ends of lines (`LineSigns`), so that texts and byte
sequences are cut by the same functions, and the lines of an encoded text are the encoded lines
(`endedLines_encode`). A statement about all texts is proved line by line (`lines_induction`).
-/

namespace ChatClient

/-- The signs that end lines. -/
class LineSigns (α : Type) where
  feed : α
  ret : α
  ret_ne_feed : ret ≠ feed

instance : LineSigns Char := ⟨'\n', '\r', by decide⟩

instance : LineSigns UInt8 := ⟨10, 13, by decide⟩

open LineSigns (feed ret)

section Signs

variable {α : Type} [LineSigns α]

/-- The signs of a line end. -/
def LineEnd.signs : LineEnd → List α
  | .lf => [feed]
  | .crlf => [ret, feed]

theorem LineEnd.signs_char (e : LineEnd) : e.signs = e.chars := by cases e <;> rfl

theorem LineEnd.signs_byte (e : LineEnd) : e.signs = e.bytes := by cases e <;> rfl

/-- A line end is a line feed with what comes before it. -/
theorem LineEnd.signs_eq (e : LineEnd) : (e.signs : List α) = e.signs.dropLast ++ [feed] := by
  cases e <;> rfl

/-- Lines, each with a line feed. -/
def unlines (ls : List (List α)) : List α := ls.flatMap (· ++ [feed])

theorem unlines_cons (l : List α) (ls : List (List α)) :
    unlines (l :: ls) = l ++ feed :: unlines ls := by
  simp [unlines]

theorem unlines_concat (ls : List (List α)) (l : List α) :
    unlines (ls ++ [l]) = unlines ls ++ (l ++ [feed]) := by
  simp [unlines]

/-- The line can be told from its end: it has no line feed, and before a bare line feed it does not
end with a carriage return. -/
structure Apart (l : List α) (e : LineEnd) : Prop where
  free : feed ∉ l
  ret_last : e = .lf → l.getLast? ≠ some ret

end Signs

variable {α : Type} [DecidableEq α] [LineSigns α]

/-- What stands before a line feed, as a line and the way it ends. -/
def cutEnd (s : List α) : List α × LineEnd :=
  if s.getLast? = some ret then (s.dropLast, .crlf) else (s, .lf)

/-- The lines of a text, each with the way it ends. -/
def endedLines (t : List α) : List (List α × LineEnd) := (t.splitOn feed).dropLast.map cutEnd

/-- What stands after the last line feed of a text. -/
def lastLine (t : List α) : List α := (t.splitOn feed).getLast (List.splitOn_ne_nil feed t)

/-! ## Texts line by line -/

/-- A text has no line feed, or it begins with a line and goes on with a text. -/
theorem feed_induction {P : List α → Prop} (last : ∀ t, feed ∉ t → P t)
    (line : ∀ s r, feed ∉ s → P r → P (s ++ feed :: r)) (t : List α) : P t := by
  -- what follows the first line feed is shorter
  induction size : t.length using Nat.strongRecOn generalizing t with
  | ind n ih =>
      by_cases h : feed ∈ t
      · obtain ⟨s, r, rfl, free⟩ := List.eq_append_cons_of_mem h
        apply line s r free
        apply ih r.length _ r rfl
        rw [← size, List.length_append, List.length_cons]
        omega
      · exact last t h

/-- The same, with lines that end in either way. -/
theorem lines_induction {P : List α → Prop} (last : ∀ t, feed ∉ t → P t)
    (line : ∀ l e r, Apart l e → P r → P (l ++ (e.signs ++ r))) (t : List α) : P t := by
  induction t using feed_induction with
  | last t free => exact last t free
  | line s r free ih =>
      -- a carriage return before the line feed belongs to the end of the line
      by_cases h : s.getLast? = some ret
      · obtain ⟨l, rfl⟩ := List.getLast?_eq_some_iff.1 h
        have apart : Apart l .crlf := by
          constructor
          · exact fun m => free (List.mem_append_left _ m)
          · intro h
            cases h
        have split := line l .crlf r apart ih
        rwa [LineEnd.signs, ← List.append_assoc, List.append_cons, List.append_assoc] at split
      · exact line s .lf r ⟨free, fun _ => h⟩ ih

section Lines

variable {t l : List α} {e : LineEnd}

theorem endedLines_of_not_mem (free : feed ∉ t) : endedLines t = [] := by
  rw [endedLines, List.splitOn_eq_singleton free, List.dropLast_singleton, List.map_nil]

theorem lastLine_of_not_mem (free : feed ∉ t) : lastLine t = t := by
  simp only [lastLine, List.splitOn_eq_singleton free, List.getLast_singleton]

theorem splitOn_append (s r : List α) :
    (s ++ feed :: r).splitOn feed = s.splitOn feed ++ r.splitOn feed :=
  List.splitOnP_append_cons s r (beq_self_eq_true _)

/-- The lines of two parts, of which the first ends with a line feed. -/
theorem endedLines_append (s r : List α) :
    endedLines (s ++ feed :: r) = endedLines (s ++ [feed]) ++ endedLines r := by
  rw [endedLines, endedLines, endedLines, splitOn_append, splitOn_append, List.splitOn_nil,
    List.dropLast_append_of_ne_nil (List.splitOn_ne_nil feed r),
    List.dropLast_append_of_ne_nil (List.cons_ne_nil [] []), List.dropLast_singleton,
    List.append_nil, List.map_append]

theorem lastLine_append (s r : List α) : lastLine (s ++ feed :: r) = lastLine r := by
  simp only [lastLine, splitOn_append]
  exact List.getLast_append_of_ne_nil _ (List.splitOn_ne_nil feed r)

theorem cutEnd_of_apart (apart : Apart l e) : cutEnd (l ++ e.signs.dropLast) = (l, e) := by
  cases e with
  | lf =>
      rw [LineEnd.signs, List.dropLast_singleton, List.append_nil, cutEnd,
        if_neg (apart.ret_last rfl)]
  | crlf => simp [LineEnd.signs, cutEnd]

/-- The first line of a text. -/
theorem endedLines_line (apart : Apart l e) (r : List α) :
    endedLines (l ++ (e.signs ++ r)) = (l, e) :: endedLines r := by
  -- the text is cut at the line feed of the end; what comes before it is the line and how it ends
  have free : feed ∉ l ++ e.signs.dropLast := by
    cases e with
    | lf => simpa [LineEnd.signs] using apart.free
    | crlf => simpa [LineEnd.signs, Ne.symm LineSigns.ret_ne_feed] using apart.free
  have one : endedLines (l ++ e.signs.dropLast ++ [feed]) = [(l, e)] := by
    rw [endedLines, splitOn_append, List.splitOn_eq_singleton free, List.splitOn_nil,
      ← cutEnd_of_apart apart]
    rfl
  rw [LineEnd.signs_eq, List.append_assoc, ← List.append_assoc, List.singleton_append,
    endedLines_append, one, List.singleton_append]

theorem lastLine_line (l : List α) (e : LineEnd) (r : List α) :
    lastLine (l ++ (e.signs ++ r)) = lastLine r := by
  rw [LineEnd.signs_eq, List.append_assoc, ← List.append_assoc, List.singleton_append,
    lastLine_append]

end Lines

/-! ## Encoded texts -/

theorem Apart.encode {l : List Char} {e : LineEnd} (apart : Apart l e) :
    Apart (Utf8.encode l) e where
  free := LineEnd.lf_not_mem_encode apart.free
  ret_last h last := apart.ret_last h (Utf8.getLast?_of_getLast?_encode last (by decide))

theorem encode_line (l : List Char) (e : LineEnd) (r : List Char) :
    Utf8.encode (l ++ (e.signs ++ r)) = Utf8.encode l ++ (e.signs ++ Utf8.encode r) := by
  rw [Utf8.encode_append, Utf8.encode_append, LineEnd.signs_char, LineEnd.encode_chars,
    LineEnd.signs_byte]

/-- The lines of an encoded text are the encoded lines. -/
theorem endedLines_encode (t : List Char) :
    endedLines (Utf8.encode t) = (endedLines t).map (Prod.map Utf8.encode id) := by
  induction t using lines_induction with
  | last t free =>
      rw [endedLines_of_not_mem free, endedLines_of_not_mem (LineEnd.lf_not_mem_encode free)]
      rfl
  | line l e r apart ih =>
      rw [encode_line, endedLines_line apart.encode, endedLines_line apart, ih, List.map_cons]
      rfl

theorem lastLine_encode (t : List Char) : lastLine (Utf8.encode t) = Utf8.encode (lastLine t) := by
  induction t using lines_induction with
  | last t free =>
      rw [lastLine_of_not_mem free, lastLine_of_not_mem (LineEnd.lf_not_mem_encode free)]
  | line l e r apart ih => rw [encode_line, lastLine_line, lastLine_line, ih]

theorem unlines_map_encode (ls : List (List Char)) :
    unlines (ls.map Utf8.encode) = Utf8.encode (unlines ls) := by
  induction ls with
  | nil => rfl
  | cons l ls ih =>
      rw [List.map_cons, unlines_cons, unlines_cons, ih, Utf8.encode_append, Utf8.encode_cons]
      rfl

end ChatClient
