import ChatClient.Proofs.EventStream.Payloads

/-!
# The two decoders agree

The line ends of a byte sequence are uniform when it has no carriage return, or when carriage returns
and line feeds stand only in pairs (`UniformEnds`). The text of such a sequence is made of lines that
all end alike (`exists_lines`), so that both decoders read its payloads, and the events are the same
(`events_eq_of_uniformEnds`). Blank lines at the beginning, too many or too few of them, and a last
frame without an end make no difference.
-/

namespace ChatClient

open Utf8 (Bytes encode)

/-! ## Uniform line ends -/

/-- Each carriage return comes just before a line feed, and each line feed just after a carriage
return. -/
def PairedEnds (b : Bytes) : Prop :=
  ∀ i < b.length,
    (b[i]? = some 13 → b[i + 1]? = some 10) ∧ (b[i]? = some 10 → 0 < i ∧ b[i - 1]? = some 13)

instance (b : Bytes) : Decidable (PairedEnds b) := inferInstanceAs (Decidable (∀ i < b.length, _))

/-- The line ends are line feeds without carriage returns, or they are pairs of both. -/
def UniformEnds (b : Bytes) : Prop := 13 ∉ b ∨ PairedEnds b

namespace PairedEnds

theorem head?_after_cr {before after : Bytes} (paired : PairedEnds (before ++ 13 :: after)) :
    after.head? = some 10 := by
  have next := (paired before.length (by simp)).1 (by simp)
  rw [List.getElem?_append_right (Nat.le_add_right _ 1), Nat.add_sub_cancel_left,
    List.getElem?_cons_succ] at next
  rw [List.head?_eq_getElem?]
  exact next

theorem getLast?_before_lf {before after : Bytes} (paired : PairedEnds (before ++ 10 :: after)) :
    before.getLast? = some 13 := by
  obtain ⟨pos, previous⟩ := (paired before.length (by simp)).2 (by simp)
  rw [List.getElem?_append_left (Nat.sub_lt pos Nat.one_pos)] at previous
  rw [List.getLast?_eq_getElem?]
  exact previous

end PairedEnds

/-- In a text, carriage returns and line feeds stand only in pairs. -/
structure PairedText (t : List Char) : Prop where
  head?_after_cr : ∀ before after, t = before ++ '\r' :: after → after.head? = some '\n'
  getLast?_before_lf : ∀ before after, t = before ++ '\n' :: after → before.getLast? = some '\r'

namespace PairedText

variable {t line rest : List Char}

theorem of_encode (paired : PairedEnds (encode t)) : PairedText t where
  head?_after_cr := by
    rintro before after rfl
    rw [Utf8.encode_append, Utf8.encode_cons] at paired
    have head : (encode after).head? = some 10 := PairedEnds.head?_after_cr paired
    exact Utf8.head?_of_head?_encode head (by decide)
  getLast?_before_lf := by
    rintro before after rfl
    rw [Utf8.encode_append, Utf8.encode_cons] at paired
    have last : (encode before).getLast? = some 13 := PairedEnds.getLast?_before_lf paired
    exact Utf8.getLast?_of_getLast?_encode last (by decide)

/-- Without line feeds there are no carriage returns either. -/
theorem cr_not_mem (paired : PairedText t) (free : '\n' ∉ t) : '\r' ∉ t := by
  intro h
  obtain ⟨before, after, split⟩ := List.append_of_mem h
  have next := paired.head?_after_cr before after split
  have later : '\n' ∈ '\r' :: after := List.mem_cons_of_mem _ (List.mem_of_mem_head? next)
  rw [split, List.mem_append] at free
  exact free (.inr later)

/-- The first line ends with a carriage return, and it has no other. -/
theorem exists_line (paired : PairedText (line ++ '\n' :: rest)) (free : '\n' ∉ line) :
    ∃ l, line = l ++ ['\r'] ∧ '\r' ∉ l := by
  obtain ⟨l, rfl⟩ := List.getLast?_eq_some_iff.1 (paired.getLast?_before_lf line rest rfl)
  refine ⟨l, rfl, ?_⟩
  intro h
  obtain ⟨before, after, rfl⟩ := List.append_of_mem h
  have next := paired.head?_after_cr before (after ++ '\r' :: '\n' :: rest) (by simp)
  -- the character after a carriage return is a line feed, and the line has none
  cases after with
  | nil => cases next
  | cons c after =>
      cases next
      exact free (by simp)

/-- After a line end the text goes on with its line ends in pairs. -/
theorem of_append (paired : PairedText (line ++ '\n' :: rest)) : PairedText rest where
  head?_after_cr := by
    rintro before after rfl
    exact paired.head?_after_cr (line ++ '\n' :: before) after (by simp)
  getLast?_before_lf := by
    rintro before after rfl
    have last := paired.getLast?_before_lf (line ++ '\n' :: before) after (by simp)
    cases before with
    | nil => simp at last
    | cons c before => simpa using last

end PairedText

/-! ## The lines of a text -/

/-- A text has no line feed, or it is a line and a rest. -/
theorem line_cases (t : List Char) :
    '\n' ∉ t ∨ ∃ line rest, '\n' ∉ line ∧ t = line ++ '\n' :: rest := by
  by_cases h : '\n' ∈ t
  · obtain ⟨line, rest, split, free⟩ := List.eq_append_cons_of_mem h
    exact .inr ⟨line, rest, free, split⟩
  · exact .inl h

/-- The text is made of plain lines that end in the given way. -/
def MadeOf (e : LineEnd) (t : List Char) : Prop :=
  ∃ ls last, (∀ l ∈ ls, Plain l) ∧ Plain last ∧ t = e.text ls last

namespace MadeOf

variable {e : LineEnd} {l t : List Char}

theorem last (plain : Plain l) : MadeOf e l := ⟨[], l, List.forall_mem_nil _, plain, rfl⟩

theorem cons (plain : Plain l) (made : MadeOf e t) : MadeOf e (l ++ (e.chars ++ t)) := by
  obtain ⟨ls, last, plain_ls, plain_last, rfl⟩ := made
  refine ⟨l :: ls, last, ?_, plain_last, (LineEnd.text_cons e l ls last).symm⟩
  exact List.forall_mem_cons.2 ⟨plain, plain_ls⟩

theorem of_no_cr (none : '\r' ∉ t) : MadeOf .lf t := by
  induction size : t.length using Nat.strongRecOn generalizing t with
  | ind n ih =>
      rcases line_cases t with free | ⟨line, rest, free, rfl⟩
      · exact last (Plain.of_not_mem free none)
      · rw [List.mem_append, List.mem_cons] at none
        have shorter : rest.length < n := by
          rw [← size, List.length_append, List.length_cons]
          omega
        have made := ih _ shorter (fun h => none (.inr (.inr h))) rfl
        exact cons (Plain.of_not_mem free fun h => none (.inl h)) made

theorem of_paired (paired : PairedText t) : MadeOf .crlf t := by
  induction size : t.length using Nat.strongRecOn generalizing t with
  | ind n ih =>
      rcases line_cases t with free | ⟨line, rest, free, rfl⟩
      · exact last (Plain.of_not_mem free (paired.cr_not_mem free))
      · have shorter : rest.length < n := by
          rw [← size, List.length_append, List.length_cons]
          omega
        have made := ih _ shorter paired.of_append rfl
        obtain ⟨l, rfl, none⟩ := paired.exists_line free
        have free : '\n' ∉ l := fun h => free (List.mem_append_left _ h)
        rw [List.append_assoc]
        exact cons (Plain.of_not_mem free none) made

end MadeOf

/-- The text of bytes with uniform line ends is made of lines that all end alike. -/
theorem exists_lines {t : List Char} (uniform : UniformEnds (encode t)) : ∃ e, MadeOf e t := by
  rcases uniform with none | paired
  · have none : '\r' ∉ t := by
      intro h
      exact none (List.mem_flatMap.2 ⟨'\r', h, by decide⟩)
    exact ⟨.lf, MadeOf.of_no_cr none⟩
  · exact ⟨.crlf, MadeOf.of_paired (PairedText.of_encode paired)⟩

/-! ## Agreement -/

/-- On well-formed text with uniform line ends both decoders give the same events, however the bytes
are cut: those of the payloads of the text. -/
theorem events_eq_of_uniformEnds {b : Bytes} {t : List Char} (valid : Utf8.decode? b = some t)
    (uniform : UniformEnds b) {chunks reads : List Bytes} (cut : chunks.flatten = b)
    (read : reads.flatten = b) :
    Chunked.decode (chunks.map .ok) = Lined.decode (reads.map .ok) ∧
      Lined.decode (reads.map .ok) = (Frame.payloads t).map Frame.readPayload := by
  have text := Utf8.eq_encode_of_decode? valid
  rw [text] at uniform cut read
  obtain ⟨e, ls, last, plain, plain_last, rfl⟩ := exists_lines uniform
  have chunked := Chunked.decode_text e plain plain_last cut
  have lined := Lined.decode_text e plain plain_last read
  exact ⟨chunked.trans lined.symm, lined⟩

/-- Blank lines at the beginning, a character cut in two, too many blank lines, frames without
payload and a last frame without an end; the reads deliver a byte at a time. -/
theorem events_eq_of_pairs_and_unfinished_frame :
    let t := "\r\n\r\ndata: \"帆\"\r\n\r\n\r\n: idle\r\n\r\ndata: [DONE]\r\n\r\ndata: \x7b".toList
    let b := encode t
    let chunks := [b.take 12, b.drop 12]
    let reads := b.map fun a => [a]
    Utf8.decode? b = some t ∧ UniformEnds b ∧ chunks.flatten = b ∧ reads.flatten = b ∧
      Chunked.decode (chunks.map .ok) = Lined.decode (reads.map .ok) ∧
      Lined.decode (reads.map .ok) = (Frame.payloads t).map Frame.readPayload ∧
      Frame.payloads t = ["\"帆\"".toList, ['\x7b']] := by
  intro t b chunks reads
  have valid : Utf8.decode? b = some t := Utf8.decode?_encode t
  have uniform : UniformEnds b := .inr (by decide +kernel)
  have cut : chunks.flatten = b := by decide +kernel
  have read : reads.flatten = b := by decide +kernel
  obtain ⟨same, events⟩ := events_eq_of_uniformEnds valid uniform cut read
  exact ⟨valid, uniform, cut, read, same, events, by decide +kernel⟩

end ChatClient
