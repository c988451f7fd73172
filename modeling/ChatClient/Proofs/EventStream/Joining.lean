import ChatClient.Proofs.EventStream.Invalid

/-!
# Inputs one after the other

After bytes that end with a blank line both decoders go on as from the beginning, whatever they have
read before and whatever follows (`events_append`). The decoder of lines does so if it has met no bad
bytes. The decoder of chunks may then still hold a line end, when an odd number of them has come; it is
the beginning of a frame without data, and what follows is read as if it were not there
(`Chunked.reading_split_append`).
-/

namespace ChatClient

open Utf8 (Bytes encode)
open LineSigns (feed ret)

/-! ## Lines and blocks in two parts -/

section Blocks

variable {α : Type}

/-- The end of the last line, after the end of the line before. -/
def endAfter (before : Option LineEnd) (ls : List (List α × LineEnd)) : Option LineEnd :=
  ls.foldl (fun _ p => some p.2) before

theorem endAfter_append (before : Option LineEnd) (ls ls' : List (List α × LineEnd)) :
    endAfter before (ls ++ ls') = endAfter (endAfter before ls) ls' := List.foldl_append

theorem blocksAfter_append (closing : Closing) (before : Option LineEnd) (block : List (List α))
    (ls rest : List (List α × LineEnd)) :
    let b := blocksAfter closing before block ls
    let later := blocksAfter closing (endAfter before ls) b.2 rest
    blocksAfter closing before block (ls ++ rest) = (b.1 ++ later.1, later.2) := by
  induction ls generalizing before block with
  | nil => rfl
  | cons p ls ih =>
      obtain ⟨l, e⟩ := p
      rw [List.cons_append]
      by_cases closes : l = [] ∧ closing before e = true
      · obtain ⟨rfl, closes⟩ := closes
        rw [blocksAfter_blank closes, blocksAfter_blank closes, ih]
        rfl
      · rw [blocksAfter_line closes, blocksAfter_line closes, ih]
        rfl

variable [DecidableEq α] [LineSigns α]

/-- The last line of a text that ends with a pair ends in it. -/
theorem endAfter_endedLines_crlf (before : Option LineEnd) (s : List α) :
    endAfter before (endedLines (s ++ [ret, feed])) = some .crlf := by
  induction s using feed_induction generalizing before with
  | last s free =>
      have apart : Apart s .crlf := ⟨free, fun h => by cases h⟩
      have one := endedLines_line apart []
      rw [endedLines_of_not_mem List.not_mem_nil] at one
      change endedLines (s ++ [ret, feed]) = _ at one
      rw [one]
      rfl
  | line s r free ih =>
      rw [List.append_assoc, List.cons_append, endedLines_append, endAfter_append, ih]

/-- A blank line after a line with the same end. -/
theorem endedLines_append_blank (s : List α) (e : LineEnd) (r : List α) :
    endedLines (s ++ (e.signs ++ (e.signs ++ r))) =
      endedLines (s ++ e.signs) ++ ([], e) :: endedLines r := by
  have apart : Apart ([] : List α) e := ⟨List.not_mem_nil, fun _ h => by cases h⟩
  have blank := endedLines_line apart r
  rw [List.nil_append] at blank
  have whole : s ++ (e.signs ++ (e.signs ++ r)) = s ++ e.signs.dropLast ++ feed :: (e.signs ++ r) := by
    cases e <;> simp [LineEnd.signs]
  have line : s ++ e.signs = s ++ e.signs.dropLast ++ [feed] := by
    cases e <;> simp [LineEnd.signs]
  rw [whole, line, endedLines_append, blank]

end Blocks

/-- Parts of an input that bring bytes, and what then ends it. -/
theorem exists_ok_append {ε : Type} (input : List (Except ε Bytes)) :
    ∃ (parts : List Bytes) (tail : List (Except ε Bytes)), input = parts.map .ok ++ tail ∧
      (tail = [] ∨ ∃ e later, tail = .error e :: later) := by
  induction input with
  | nil => exact ⟨[], [], rfl, .inl rfl⟩
  | cons part input ih =>
      cases part with
      | error e => exact ⟨[], _, rfl, .inr ⟨e, input, rfl⟩⟩
      | ok bytes =>
          obtain ⟨parts, tail, rfl, ends⟩ := ih
          exact ⟨bytes :: parts, tail, rfl, ends⟩

namespace Chunked

/-! ## The decoder of chunks -/

theorem unlessPairAfterFeed_of_same (s : Bytes) (e : LineEnd) :
    Closing.unlessPairAfterFeed (endAfter none (endedLines (s ++ e.bytes))) e = true := by
  rw [← LineEnd.signs_byte]
  cases e with
  | lf => rcases endAfter none (endedLines (s ++ LineEnd.lf.signs)) with _ | _ | _ <;> rfl
  | crlf => rw [LineEnd.signs, endAfter_endedLines_crlf]; rfl

/-- Blocks that come first give their events first. -/
theorem readingBlocks_append (blocks : List (List Bytes)) (b : List (List Bytes) × List Bytes)
    (last : Bytes) :
    readingBlocks (blocks ++ b.1, b.2) last =
      ((blocks.map unlines).filterMap readFrame ++ (readingBlocks b last).1,
        (readingBlocks b last).2) := by
  rw [readingBlocks, readingBlocks, reading, reading, List.map_append, List.filterMap_append]

/-- What comes after a blank line is read as if nothing had come before. -/
theorem exists_reading_split (s : Bytes) (e : LineEnd) : ∃ closed : List Event, ∀ b : Bytes,
    reading (split (s ++ (e.bytes ++ (e.bytes ++ b)))) =
      (closed ++ (reading (split b)).1, (reading (split b)).2) := by
  obtain ⟨blocks, block, before⟩ : ∃ blocks block,
      blocksAfter .unlessPairAfterFeed none [] (endedLines (s ++ e.bytes)) = (blocks, block) :=
    ⟨_, _, rfl⟩
  refine ⟨((blocks ++ [block]).map unlines).filterMap readFrame, ?_⟩
  intro b
  have lines := endedLines_append_blank s e b
  have last : lastLine (s ++ (e.signs ++ (e.signs ++ b))) = lastLine b := by
    rw [lastLine_line]
    exact lastLine_line [] e b
  rw [LineEnd.signs_byte] at lines last
  -- what follows may begin with a block that has begun, here none, after any end of a line
  rw [(reading_splitAfter _).1 none [] rfl, (reading_splitAfter b).1 (some e) [] rfl, lines, last,
    blocksAfter_append, before, blocksAfter_blank (unlessPairAfterFeed_of_same s e),
    ← readingBlocks_append, List.append_assoc, List.singleton_append]

theorem reading_split_append (s : Bytes) (e : LineEnd) (b : Bytes) :
    let a := s ++ (e.bytes ++ e.bytes)
    (reading (split a)).2 = none ∧
      reading (split (a ++ b)) =
        ((reading (split a)).1 ++ (reading (split b)).1, (reading (split b)).2) := by
  intro a
  obtain ⟨closed, all⟩ := exists_reading_split s e
  -- with nothing after it, the part before has these events and leaves none
  have alone := all []
  have nothing : reading (split []) = ([], none) := by decide
  rw [List.append_nil, nothing, List.append_nil] at alone
  change reading (split a) = _ at alone
  have whole := all b
  rw [alone]
  refine ⟨rfl, ?_⟩
  rw [← whole, List.append_assoc, List.append_assoc]

/-- What ends an input sees no more of a frame than what it reads as. -/
theorem decodeAfter_tail {tail : List Chunk} (ends : tail = [] ∨ ∃ e later, tail = .error e :: later)
    {f f' : Bytes} (same : readFrame f = readFrame f') : decodeAfter f tail = decodeAfter f' tail := by
  rcases ends with rfl | ⟨e, later, rfl⟩
  · rw [decodeAfter, decodeAfter, same]
  · rw [decodeAfter, decodeAfter, same]

/-- After bytes that end with a blank line the decoder goes on as from the beginning. -/
theorem decode_append (s : Bytes) (e : LineEnd) {as bs whole : List Bytes}
    (cut_a : as.flatten = s ++ (e.bytes ++ e.bytes))
    (cut : whole.flatten = as.flatten ++ bs.flatten) (ending : List Chunk) :
    decode (whole.map .ok ++ ending) =
      decode (as.map .ok) ++ decode (bs.map .ok ++ ending) := by
  obtain ⟨more, tail, rfl, ends⟩ := exists_ok_append ending
  obtain ⟨finished, joined⟩ := reading_split_append s e (bs ++ more).flatten
  rw [← cut_a] at finished joined
  obtain ⟨closed, left⟩ := Prod.ext_iff.1 joined
  rw [reading_snd, reading_snd] at left
  have alone : decode (as.map .ok) = (reading (split as.flatten)).1 := by
    rw [decode_chunks_eq_reading, finished, Option.toList_none, List.append_nil]
  have bytes : (whole ++ more).flatten = as.flatten ++ (bs ++ more).flatten := by
    rw [List.flatten_append, cut, List.append_assoc, List.flatten_append]
  rw [← List.append_assoc, ← List.append_assoc, ← List.map_append, ← List.map_append,
    decode_chunks, decode_chunks, bytes, decodeAfter_tail ends left, ← reading_fst, closed, alone,
    List.append_assoc, reading_fst (split (bs ++ more).flatten)]

end Chunked

namespace Lined

/-! ## The decoder of lines -/

theorem decodeAfter_blank (frame : List Char) (e : LineEnd) (pending : Bytes) (reads : List Read) :
    decodeAfter frame ⟨e.bytes ++ pending, reads⟩ =
      (Frame.parse frame).toList ++ decodeAfter [] ⟨pending, reads⟩ := by
  have blank := decodeAfter_line e frame Plain.nil pending reads
  rwa [List.nil_append, LineEnd.encode_chars, if_pos rfl] at blank

/-- Before `pending` comes something after which the decoder is as at the beginning. -/
def Separate (b : Bytes) : Prop :=
  ∀ (frame : List Char) (pending : Bytes) (reads : List Read),
    decodeAfter frame ⟨b ++ pending, reads⟩ =
      decodeAfter frame ⟨b, []⟩ ++ decodeAfter [] ⟨pending, reads⟩

theorem Separate.blank (e : LineEnd) : Separate e.bytes := by
  intro frame pending reads
  have alone := decodeAfter_blank frame e [] []
  rw [List.append_nil, decodeAfter_nil, Frame.parse_nil, Option.toList_none, List.append_nil] at alone
  rw [decodeAfter_blank, alone]

/-- A line before it changes nothing. -/
theorem Separate.line {l b : Bytes} (free : lineFeed ∉ l) (valid : (Utf8.decode? l).isSome)
    (separate : Separate b) : Separate (l ++ lineFeed :: b) := by
  intro frame pending reads
  -- both sides read the same line, which closes the frame or goes to it
  obtain ⟨line, valid⟩ := Option.isSome_iff_exists.1 valid
  rw [List.append_assoc, List.cons_append, decodeAfter_feed frame free valid,
    decodeAfter_feed frame free valid]
  split
  · rw [separate, List.append_assoc]
  · rw [separate]

theorem Separate.of_text {s : Bytes} (valid : (Utf8.decode? s).isSome) (e : LineEnd) :
    Separate (s ++ lineFeed :: e.bytes) := by
  induction s using feed_induction with
  | last s free => exact .line free valid (.blank e)
  | line s r free ih =>
      obtain ⟨text, whole⟩ := Option.isSome_iff_exists.1 valid
      obtain ⟨t, u, ht, hu, -⟩ := (Utf8.decode?_append_ascii_iff (by decide) _ _).1 whole
      rw [List.append_assoc]
      exact .line free (Option.isSome_iff_exists.2 ⟨t, ht⟩) (ih (Option.isSome_iff_exists.2 ⟨u, hu⟩))

/-- After well-formed bytes that end with a blank line the decoder goes on as from the beginning. -/
theorem decode_append (s : Bytes) (e : LineEnd) {as bs whole : List Bytes}
    (valid : (Utf8.decode? s).isSome) (cut_a : as.flatten = s ++ lineFeed :: e.bytes)
    (cut : whole.flatten = as.flatten ++ bs.flatten) (ending : List Read) :
    decode (whole.map .ok ++ ending) =
      decode (as.map .ok) ++ decode (bs.map .ok ++ ending) := by
  obtain ⟨more, tail, rfl, ends⟩ := exists_ok_append ending
  have ends : Over tail := by
    rcases ends with rfl | ⟨e, later, rfl⟩
    · exact .ended
    · exact .failed e later
  have bytes : (whole ++ more).flatten = as.flatten ++ (bs ++ more).flatten := by
    rw [List.flatten_append, cut, List.append_assoc, List.flatten_append]
  rw [← List.append_assoc, ← List.append_assoc, ← List.map_append, ← List.map_append, decode,
    decode, decode, decodeAfter_reads_append _ _ _ ends, decodeAfter_reads_append _ _ _ ends,
    decodeAfter_reads, List.nil_append, List.nil_append, List.nil_append, bytes, cut_a]
  exact Separate.of_text valid e [] _ _

end Lined

/-! ## Both decoders -/

/-- Bytes that end with a blank line, and others after them: the decoder of chunks gives the events of
the first and then those of the others, and so does the decoder of lines if the first are well-formed
UTF-8. -/
theorem events_append {a b : Bytes} (closed : [10, 10] <:+ a ∨ [13, 10, 13, 10] <:+ a)
    {as bs whole : List Bytes} (cut_a : as.flatten = a) (cut_b : bs.flatten = b)
    (cut : whole.flatten = a ++ b) :
    (∀ ending, Chunked.decode (whole.map .ok ++ ending) =
        Chunked.decode (as.map .ok) ++ Chunked.decode (bs.map .ok ++ ending)) ∧
      ((Utf8.decode? a).isSome → ∀ ending, Lined.decode (whole.map .ok ++ ending) =
        Lined.decode (as.map .ok) ++ Lined.decode (bs.map .ok ++ ending)) := by
  obtain ⟨e, s, blank⟩ : ∃ (e : LineEnd) (s : Bytes), a = s ++ (e.bytes ++ e.bytes) := by
    rcases closed with ⟨s, split⟩ | ⟨s, split⟩
    · exact ⟨.lf, s, split.symm⟩
    · exact ⟨.crlf, s, split.symm⟩
  subst cut_b
  rw [← cut_a] at cut
  refine ⟨Chunked.decode_append s e (cut_a.trans blank) cut, ?_⟩
  intro valid
  have line : a = (s ++ (e.bytes : Bytes).dropLast) ++ Lined.lineFeed :: e.bytes := by
    rw [blank]
    cases e <;> simp [LineEnd.bytes, Lined.lineFeed]
  obtain ⟨text, valid⟩ := Option.isSome_iff_exists.1 valid
  rw [line] at valid
  obtain ⟨t, u, ht, -⟩ := (Utf8.decode?_append_ascii_iff (by decide) _ _).1 valid
  exact Lined.decode_append _ e (Option.isSome_iff_exists.2 ⟨t, ht⟩) (cut_a.trans line) cut

/-- Events of a payload that is no JSON, of the closing word and of a comment come before, and line
ends at the beginning of what follows; the cut is within the blank line, and the input then fails. -/
theorem events_append_after_malformed_frame :
    let a := encode "data: \x7b\n\ndata: [DONE]\n\n: idle\r\n\r\n".toList
    let b := encode "\n\r\ndata: 2\n\n".toList
    let whole := [(a ++ b).take 32, (a ++ b).drop 32]
    ([10, 10] <:+ a ∨ [13, 10, 13, 10] <:+ a) ∧ [a].flatten = a ∧ [b].flatten = b ∧
      whole.flatten = a ++ b ∧ (Utf8.decode? a).isSome ∧
      Chunked.decode (whole.map .ok ++ [.error (.transport .bodyBroken)]) =
        Chunked.decode [.ok a] ++ Chunked.decode [.ok b, .error (.transport .bodyBroken)] ∧
      Lined.decode (whole.map .ok ++ [.error "lost"]) =
        Lined.decode [.ok a] ++ Lined.decode [.ok b, .error "lost"] := by
  intro a b whole
  have closed : [10, 10] <:+ a ∨ [13, 10, 13, 10] <:+ a := .inr (by decide +kernel)
  have cut : whole.flatten = a ++ b := by decide +kernel
  have valid : (Utf8.decode? a).isSome := by decide +kernel
  have cut_a : [a].flatten = a := List.append_nil a
  have cut_b : [b].flatten = b := List.append_nil b
  obtain ⟨of_chunks, of_lines⟩ := events_append closed cut_a cut_b cut
  exact ⟨closed, cut_a, cut_b, cut, valid, of_chunks _, of_lines valid _⟩

end ChatClient
