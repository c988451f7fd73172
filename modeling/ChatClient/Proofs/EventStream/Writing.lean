import ChatClient.Proofs.EventStream.Payloads

/-!
# Writing event streams

A text is written as a frame with one data line for each of its lines; lines that are ignored may
stand anywhere among them (`Frame.Written`). Other frames carry no text: they have ignored lines only,
or the word that closes a stream. Frames with blank lines after them make a stream (`StreamText`).

Reading undoes writing: the payloads of a stream are the texts that it was written from
(`payloads_of_streamText`), and both decoders give their values (`events_of_streamText`).
-/

namespace ChatClient

open Utf8 (Bytes encode)

namespace Frame

/-! ## Frames -/

/-- The line that carries one line of a text. -/
def dataLine (line : List Char) : List Char := dataField ++ ' ' :: line

/-- A line that adds nothing to a payload. -/
inductive Ignored : List Char → Prop
  | comment {text : List Char} : '\n' ∉ text → Ignored (':' :: text)
  | field {line : List Char} :
      ':' ∈ line → ¬dataField <+: line → '\r' ∉ line → '\n' ∉ line → Ignored line

/-- The lines `ds` in their order, with ignored lines at any place. -/
inductive Among : List (List Char) → List (List Char) → Prop
  | nil : Among [] []
  | data {d : List Char} {ds ls : List (List Char)} : Among ds ls → Among (d :: ds) (d :: ls)
  | ignored {l : List Char} {ds ls : List (List Char)} :
      Ignored l → Among ds ls → Among ds (l :: ls)

/-- The lines of a frame that is written for a text, or for none. -/
inductive Written : Option (List Char) → List (List Char) → Prop
  | text {t : List Char} {ls : List (List Char)} :
      Among ((Text.pieces '\n' t).map dataLine) ls → Written (some t) ls
  | ignored {ls : List (List Char)} : (∀ l ∈ ls, Ignored l) → Written none ls
  | closing : Written none [dataLine closingWord]

/-- A text that data lines give back: with no blank at its ends and no carriage return at the end of
a line, and neither empty nor the word that closes a stream. -/
structure IsPayload (t : List Char) : Prop where
  trimmed : Text.trim t = t
  ends : ∀ line ∈ Text.pieces '\n' t, line.getLast? ≠ some '\r'
  ne_nil : t ≠ []
  ne_closingWord : t ≠ closingWord

end Frame

open Frame (Written IsPayload)

/-- Texts written as a stream. Each frame has at least one blank line after it; only the last frame
may lack them, and its last line may lack its end. -/
inductive StreamText (e : LineEnd) : List (List Char) → List Char → Prop
  | nil : StreamText e [] []
  | frame {t? : Option (List Char)} {ls ts : List (List Char)} {text : List Char} (blanks : Nat) :
      Written t? ls → StreamText e ts text →
        StreamText e (t?.toList ++ ts) (e.text (ls ++ List.replicate (blanks + 1) []) text)
  | last {t? : Option (List Char)} {ls : List (List Char)} :
      Written t? ls → StreamText e t?.toList (e.text ls [])
  | unended {t? : Option (List Char)} {ls : List (List Char)} {line : List Char} :
      Written t? (ls ++ [line]) → StreamText e t?.toList (e.text ls line)

namespace Frame

/-! ## Lines of a frame -/

section Lines

variable {l : List Char} {ds ls : List (List Char)}

theorem plain_dataLine (free : '\n' ∉ l) : Plain (dataLine l) := by
  constructor
  · rw [dataLine, List.mem_append, List.mem_cons]
    rintro (h | h | h)
    · revert h
      decide
    · cases h
    · exact free h
  · intro h
    cases h

theorem strip_dataLine (ends : l.getLast? ≠ some '\r') : strip (dataLine l) = dataLine l := by
  rcases List.eq_nil_or_concat l with rfl | ⟨s, c, rfl⟩
  · decide
  · rw [List.concat_eq_append] at ends ⊢
    have other : c ≠ '\r' := by
      rintro rfl
      exact ends List.getLast?_concat
    have whole : dataLine (s ++ [c]) = (dataField ++ ' ' :: s) ++ [c] := by
      rw [dataLine, List.append_assoc, List.cons_append]
    rw [whole]
    exact Text.dropTrailing_concat_of_neg _ (beq_false_of_ne other)

theorem dataOf_dataLine (l : List Char) : dataOf (dataLine l) = some l := rfl

namespace Ignored

theorem plain (h : Ignored l) : Plain l := by
  cases h with
  | comment free =>
      constructor
      · rw [List.mem_cons]
        rintro (h | h)
        · cases h
        · exact free h
      · intro h
        cases h
  | field _ _ cr lf => exact Plain.of_not_mem lf cr

theorem ne_nil (h : Ignored l) : l ≠ [] := by
  cases h with
  | comment => exact List.cons_ne_nil _ _
  | field colon => exact List.ne_nil_of_mem colon

theorem dataOf_strip (h : Ignored l) : dataOf (strip l) = none := by
  cases h with
  | comment =>
      rw [strip_cons _ (by decide), dataOf, if_pos (.inr rfl)]
  | field colon other cr =>
      have no_data : ¬dataField.isPrefixOf l = true := mt List.isPrefixOf_iff_prefix.1 other
      have has_colon : l.contains ':' = true := List.contains_iff_mem.2 colon
      rw [strip_of_not_mem cr, dataOf, if_neg no_data, if_pos has_colon, ite_self]

end Ignored

namespace Among

theorem mem (h : Among ds ls) (hl : l ∈ ls) : l ∈ ds ∨ Ignored l := by
  induction h with
  | nil => cases hl
  | data _ ih =>
      rcases List.mem_cons.1 hl with rfl | hl
      · exact .inl List.mem_cons_self
      · exact (ih hl).imp_left (List.mem_cons_of_mem _)
  | ignored ign _ ih =>
      rcases List.mem_cons.1 hl with rfl | hl
      · exact .inr ign
      · exact ih hl

/-- Ignored lines add nothing to the data. -/
theorem dataIn_eq (h : Among ds ls) : dataIn ls = dataIn ds := by
  induction h with
  | nil => rfl
  | data _ ih => rw [dataIn_cons, dataIn_cons, ih]
  | ignored ign _ ih => rw [dataIn_cons, ign.dataOf_strip, ih, Option.toList_none, List.nil_append]

end Among

end Lines

/-! ## The payload of a frame -/

section Payload

variable {t : List Char} {t? : Option (List Char)} {ls : List (List Char)}

/-- The data of the lines of a text are its lines. -/
theorem dataIn_map_dataLine {ps : List (List Char)} (ends : ∀ p ∈ ps, p.getLast? ≠ some '\r') :
    dataIn (ps.map dataLine) = ps := by
  induction ps with
  | nil => rfl
  | cons p ps ih =>
      have here := ends p List.mem_cons_self
      have later := ih fun q hq => ends q (List.mem_cons_of_mem p hq)
      rw [List.map_cons, dataIn_cons, strip_dataLine here, dataOf_dataLine, later]
      rfl

theorem IsPayload.payloadOf?_pieces (h : IsPayload t) :
    payloadOf? (Text.pieces '\n' t) = some t := by
  rw [payloadOf?, Text.join_pieces, h.trimmed]
  exact if_neg (not_or.2 ⟨h.ne_nil, h.ne_closingWord⟩)

/-- A text that is JSON is a payload unless blanks or carriage returns forbid it. -/
theorem IsPayload.of_parse? {v : Json} (parsed : Json.parse? t = some v)
    (trimmed : Text.trim t = t)
    (ends : ∀ line ∈ Text.pieces '\n' t, line.getLast? ≠ some '\r') : IsPayload t where
  trimmed := trimmed
  ends := ends
  ne_nil := by
    rintro rfl
    have none : Json.parse? [] = none := by decide
    rw [none] at parsed
    cases parsed
  ne_closingWord := by
    rintro rfl
    have none : Json.parse? closingWord = none := by decide
    rw [none] at parsed
    cases parsed

/-- A text of one line is carried by one line. -/
theorem Written.line (free : '\n' ∉ t) : Written (some t) [dataLine t] := by
  apply Written.text
  rw [Text.pieces_of_not_mem free]
  exact .data .nil

/-- No line of a frame is blank, and none runs into a line end. -/
theorem Written.lines (h : Written t? ls) : ∀ l ∈ ls, Plain l ∧ l ≠ [] := by
  intro l hl
  have of_ignored : Ignored l → Plain l ∧ l ≠ [] := fun ign => ⟨ign.plain, ign.ne_nil⟩
  cases h with
  | text among =>
      rcases among.mem hl with data | ign
      · obtain ⟨p, hp, rfl⟩ := List.mem_map.1 data
        have free : '\n' ∉ p := fun h => (Text.mem_of_mem_pieces hp h).2 rfl
        exact ⟨plain_dataLine free, List.cons_ne_nil _ _⟩
      · exact of_ignored ign
  | ignored all => exact of_ignored (all l hl)
  | closing =>
      rw [List.mem_singleton.1 hl]
      exact ⟨plain_dataLine (by decide), List.cons_ne_nil _ _⟩

/-- The payload of a frame is the text that it was written for. -/
theorem Written.payloadOf?_dataIn (h : Written t? ls) (payload : ∀ t ∈ t?, IsPayload t) :
    payloadOf? (dataIn ls) = t? := by
  cases h with
  | text among =>
      have is_payload := payload _ rfl
      rw [among.dataIn_eq, dataIn_map_dataLine is_payload.ends, is_payload.payloadOf?_pieces]
  | ignored all =>
      have among : Among [] ls := by
        clear payload
        induction ls with
        | nil => exact .nil
        | cons l ls ih =>
            have here := all l List.mem_cons_self
            exact .ignored here (ih fun m hm => all m (List.mem_cons_of_mem l hm))
      rw [among.dataIn_eq, dataIn_nil, payloadOf?_nil]
  | closing => decide

end Payload

/-! ## The payloads of a stream -/

/-- The lines of a frame go to the block that has begun. -/
theorem payloadsAfter_append {ls : List (List Char)} (lines : ∀ l ∈ ls, Plain l ∧ l ≠ [])
    (earlier rest : List (List Char)) :
    payloadsAfter (dataIn earlier) (ls.map strip ++ rest) =
      payloadsAfter (dataIn (earlier ++ ls)) rest := by
  induction ls generalizing earlier with
  | nil => rw [List.map_nil, List.nil_append, List.append_nil]
  | cons l ls ih =>
      have here := lines l List.mem_cons_self
      have later := ih (fun m hm => lines m (List.mem_cons_of_mem l hm)) (earlier ++ [l])
      rw [List.map_cons, List.cons_append, payloadsAfter_strip here.1 (.inr here.2), later,
        List.append_assoc, List.singleton_append]

/-- Blank lines between blocks do not count. -/
theorem payloadsAfter_blanks (n : Nat) (rest : List (List Char)) :
    payloadsAfter [] (List.replicate n [] ++ rest) = payloadsAfter [] rest := by
  induction n with
  | zero => rfl
  | succ n ih =>
      rw [List.replicate_succ, List.cons_append, payloadsAfter_blank, payloadOf?_nil, ih]
      rfl

section Written

variable {t? : Option (List Char)} {ls : List (List Char)}

/-- The lines of a frame have its payload when nothing comes after them. -/
theorem Written.payloadsAfter_all (h : Written t? ls) (payload : ∀ t ∈ t?, IsPayload t) :
    payloadsAfter [] (ls.map strip) = t?.toList := by
  have block := payloadsAfter_append h.lines [] []
  rw [dataIn_nil, List.nil_append, List.append_nil] at block
  rw [block, payloadsAfter_nil, h.payloadOf?_dataIn payload]

/-- A frame with blank lines after it has its payload, and the next block begins. -/
theorem Written.payloadsAfter_closed (h : Written t? ls) (payload : ∀ t ∈ t?, IsPayload t)
    (blanks : Nat) (rest : List (List Char)) :
    payloadsAfter [] ((ls ++ List.replicate (blanks + 1) []).map strip ++ rest) =
      t?.toList ++ payloadsAfter [] rest := by
  have block := payloadsAfter_append h.lines []
  rw [dataIn_nil, List.nil_append] at block
  -- the first blank line closes the block, the others have nothing to close
  have blank_lines : (List.replicate (blanks + 1) ([] : List Char)).map strip =
      [] :: List.replicate blanks [] := List.map_replicate
  rw [List.map_append, List.append_assoc, block, blank_lines, List.cons_append,
    payloadsAfter_blank, h.payloadOf?_dataIn payload, payloadsAfter_blanks]

end Written

end Frame

open Frame (payloadsAfter strip readPayload)

/-- The lines of a stream, and their payloads. -/
theorem StreamText.exists_lines {e : LineEnd} {ts : List (List Char)} {text : List Char}
    (h : StreamText e ts text) (payloads : ∀ t ∈ ts, IsPayload t) :
    ∃ ls last, (∀ l ∈ ls, Plain l) ∧ Plain last ∧ text = e.text ls last ∧
      payloadsAfter [] ((ls ++ [last]).map strip) = ts := by
  induction h with
  | nil => exact ⟨[], [], List.forall_mem_nil _, Plain.nil, rfl, by decide⟩
  | @frame t? ls ts text blanks written stream ih =>
      obtain ⟨payload, later⟩ := List.forall_mem_append.1 payloads
      obtain ⟨ls', last, plain, plain_last, rfl, rest⟩ := ih later
      refine ⟨ls ++ List.replicate (blanks + 1) [] ++ ls', last, ?_, plain_last, ?_, ?_⟩
      · intro l hl
        rw [List.mem_append, List.mem_append] at hl
        rcases hl with (hl | hl) | hl
        · exact (written.lines l hl).1
        · rw [List.eq_of_mem_replicate hl]
          exact Plain.nil
        · exact plain l hl
      · rw [LineEnd.text_append e (ls ++ _)]
      · have closed := written.payloadsAfter_closed
          (fun t ht => payload t (Option.mem_toList.2 ht)) blanks ((ls' ++ [last]).map strip)
        rw [List.append_assoc, List.map_append, closed, rest]
  | @last t? ls written =>
      have closed := written.payloadsAfter_closed
        (fun t ht => payloads t (Option.mem_toList.2 ht)) 0 []
      refine ⟨ls, [], fun l hl => (written.lines l hl).1, Plain.nil, rfl, ?_⟩
      rw [List.append_nil] at closed
      exact closed.trans (List.append_nil _)
  | @unended t? ls line written =>
      obtain ⟨plain, plain_line⟩ := List.forall_mem_append.1 written.lines
      refine ⟨ls, line, fun l hl => (plain l hl).1, (plain_line line List.mem_cons_self).1, rfl, ?_⟩
      apply written.payloadsAfter_all
      intro t ht
      exact payloads t (Option.mem_toList.2 ht)

/-- Each decoder gives one event for each text of a stream, however its bytes are cut. -/
theorem StreamText.decode {e : LineEnd} {ts : List (List Char)} {text : List Char}
    (h : StreamText e ts text) (payloads : ∀ t ∈ ts, IsPayload t) {pieces : List Bytes}
    (whole : pieces.flatten = encode text) :
    Chunked.decode (pieces.map .ok) = ts.map readPayload ∧
      Lined.decode (pieces.map .ok) = ts.map readPayload := by
  obtain ⟨ls, last, plain, plain_last, rfl, found⟩ := h.exists_lines payloads
  rw [Chunked.decode_text e plain plain_last whole, Lined.decode_text e plain plain_last whole,
    Frame.payloads_text e plain plain_last, found]
  exact ⟨rfl, rfl⟩

/-- The events of JSON texts are their values. -/
theorem map_readPayload {ts : List (List Char)} {vs : List Json}
    (values : ts.map Json.parse? = vs.map some) : ts.map readPayload = vs.map .ok := by
  induction ts generalizing vs with
  | nil =>
      cases vs with
      | nil => rfl
      | cons v vs => cases values
  | cons t ts ih =>
      cases vs with
      | nil => cases values
      | cons v vs =>
          obtain ⟨parsed, later⟩ := List.cons.inj values
          rw [List.map_cons, List.map_cons, ih later, readPayload, parsed]

/-- Reading undoes writing: from a stream that is written for JSON texts, both decoders give just
their values. -/
theorem events_of_streamText {e : LineEnd} {ts : List (List Char)} {text : List Char}
    {vs : List Json} (written : StreamText e ts text) (cr : ∀ t ∈ ts, '\r' ∉ t)
    (trimmed : ∀ t ∈ ts, Text.trim t = t) (values : ts.map Json.parse? = vs.map some)
    {chunks reads : List Bytes} (cut : chunks.flatten = encode text)
    (read : reads.flatten = encode text) :
    Chunked.decode (chunks.map .ok) = vs.map .ok ∧ Lined.decode (reads.map .ok) = vs.map .ok := by
  have payloads : ∀ t ∈ ts, IsPayload t := by
    intro t ht
    have parsed : Json.parse? t ∈ vs.map some := values ▸ List.mem_map_of_mem ht
    obtain ⟨v, -, parsed⟩ := List.mem_map.1 parsed
    apply IsPayload.of_parse? parsed.symm (trimmed t ht)
    intro line hline last
    exact cr t ht (Text.mem_of_mem_pieces hline (List.mem_of_getLast? last)).1
  have chunked := (written.decode payloads cut).1
  have lined := (written.decode payloads read).2
  rw [map_readPayload values] at chunked lined
  exact ⟨chunked, lined⟩

/-- A text of two lines with a comment and a field between them, frames without payload around it,
blank lines too many, and a last line without its end; the reads deliver a byte at a time. -/
theorem events_of_comment_within_text :
    let object := "\x7b\"n\":\n\"帆\"\x7d".toList
    let lines : List (List Char) :=
      ["data: \x7b\"n\":".toList, [':'], "id: 7".toList, "data: \"帆\"\x7d".toList]
    let text :=
      LineEnd.crlf.text [": idle".toList, []] (LineEnd.crlf.text (lines ++ [[], []])
        (LineEnd.crlf.text ["data: [DONE]".toList, []] "data: 2".toList))
    let b := encode text
    let vs : List Json := [.object [("n", .string "帆")], .number (.int 2)]
    StreamText .crlf [object, ['2']] text ∧ (∀ t ∈ [object, ['2']], '\r' ∉ t) ∧
      (∀ t ∈ [object, ['2']], Text.trim t = t) ∧
      [object, ['2']].map Json.parse? = vs.map some ∧
      Chunked.decode ([b.take 50, b.drop 50].map .ok) = vs.map .ok ∧
      Lined.decode ((b.map fun a => [a]).map .ok) = vs.map .ok := by
  intro object lines text b vs
  have idle : Written none [": idle".toList] := by
    apply Written.ignored
    intro l hl
    rw [List.mem_singleton.1 hl]
    exact .comment (by decide)
  have framed : Written (some object) lines := by
    apply Written.text
    refine .data (.ignored (.comment (by decide)) (.ignored (.field ?_ ?_ ?_ ?_) (.data .nil)))
    · decide
    · decide
    · decide
    · decide
  have two : Written (some ['2']) ([] ++ ["data: 2".toList]) := .text (.data .nil)
  have written : StreamText .crlf [object, ['2']] text :=
    .frame 0 idle (.frame 1 framed (.frame 0 .closing (.unended two)))
  have cr : ∀ t ∈ [object, ['2']], '\r' ∉ t := by decide +kernel
  have trimmed : ∀ t ∈ [object, ['2']], Text.trim t = t := by decide +kernel
  have values : [object, ['2']].map Json.parse? = vs.map some := by decide +kernel
  have cut : [b.take 50, b.drop 50].flatten = b := by decide +kernel
  have read : (b.map fun a => [a]).flatten = b := by decide +kernel
  exact ⟨written, cr, trimmed, values, events_of_streamText written cr trimmed values cut read⟩

end ChatClient
