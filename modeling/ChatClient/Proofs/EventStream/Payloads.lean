import ChatClient.Proofs.EventStream.Cuts
import ChatClient.Proofs.Text.Lines

/-!
# The payloads of a text

What an event stream says can be read off the lines of its text. A line adds its data to the block
that has begun, a blank line closes the block, and the data of a closed block are a payload
(`Frame.payloadsAfter`). Blank lines with no data between them close blocks without a payload, so
their number does not matter.

On a text with uniform line ends both decoders give the events of these payloads. The decoder of
chunks cuts such a text at the ends of two lines of which the second is blank; a blank line too many
goes to the next frame, to which it adds nothing (`Chunked.eventsAfter_text`). The decoder of lines
closes a block at each blank line (`Lined.decodeAfter_text`).
-/

namespace ChatClient

open Utf8 (Bytes encode)

namespace Frame

/-! ## Lines, blocks and payloads -/

/-- The payload of the data of a block; `none` when there are no data, or only the word that closes
a stream. -/
def payloadOf? (data : List (List Char)) : Option (List Char) :=
  let p := Text.trim (Text.join '\n' data)
  if p = [] ∨ p = closingWord then none else some p

theorem payloadOf?_nil : payloadOf? [] = none := by decide

theorem parse_eq (frame : List Char) :
    parse frame = (payloadOf? ((lines frame).filterMap dataOf)).map readPayload := by
  rw [parse, payloadOf?, payload]
  split
  · rfl
  · rfl

/-- The payloads of lines that follow the data of the block that has begun. -/
def payloadsAfter (data : List (List Char)) : List (List Char) → List (List Char)
  | [] => (payloadOf? data).toList
  | l :: rest =>
      if l = [] then (payloadOf? data).toList ++ payloadsAfter [] rest
      else payloadsAfter (data ++ (dataOf l).toList) rest

/-- The payloads of a text. -/
def payloads (text : List Char) : List (List Char) := payloadsAfter [] (lines text)

section PayloadsAfter

variable (data : List (List Char)) (rest : List (List Char))

theorem payloadsAfter_nil : payloadsAfter data [] = (payloadOf? data).toList := rfl

theorem payloadsAfter_blank :
    payloadsAfter data ([] :: rest) = (payloadOf? data).toList ++ payloadsAfter [] rest := by
  rw [payloadsAfter, if_pos rfl]

theorem payloadsAfter_line {l : List Char} (more : l ≠ []) :
    payloadsAfter data (l :: rest) = payloadsAfter (data ++ (dataOf l).toList) rest := by
  rw [payloadsAfter, if_neg more]

end PayloadsAfter

/-- The data of lines. -/
def dataIn (ls : List (List Char)) : List (List Char) := (ls.map strip).filterMap dataOf

@[simp] theorem dataIn_nil : dataIn [] = [] := rfl

theorem dataIn_cons (l : List Char) (ls : List (List Char)) :
    dataIn (l :: ls) = (dataOf (strip l)).toList ++ dataIn ls := by
  rw [dataIn, List.map_cons, List.filterMap_cons]
  cases dataOf (strip l) with
  | none => rfl
  | some d => rfl

theorem dataIn_append (ls ls' : List (List Char)) : dataIn (ls ++ ls') = dataIn ls ++ dataIn ls' := by
  rw [dataIn, List.map_append, List.filterMap_append]
  rfl

theorem dataIn_concat (ls : List (List Char)) (l : List Char) :
    dataIn (ls ++ [l]) = dataIn ls ++ (dataOf (strip l)).toList := by
  rw [dataIn_append, dataIn_cons, dataIn_nil, List.append_nil]

theorem dataIn_concat_nil (ls : List (List Char)) : dataIn (ls ++ [[]]) = dataIn ls := by
  have nothing : dataOf (strip []) = none := by decide
  rw [dataIn_concat, nothing, Option.toList_none, List.append_nil]

/-- A line goes to the block that has begun; a blank line may stand at its beginning. -/
theorem payloadsAfter_strip {l : List Char} {ls : List (List Char)} (plain : Plain l)
    (begun : ls = [] ∨ l ≠ []) (rest : List (List Char)) :
    payloadsAfter (dataIn ls) (strip l :: rest) = payloadsAfter (dataIn (ls ++ [l])) rest := by
  by_cases blank : l = []
  · subst blank
    have first : ls = [] := begun.resolve_right (fun more => more rfl)
    subst first
    show payloadsAfter [] ([] :: rest) = payloadsAfter [] rest
    rw [payloadsAfter_blank, payloadOf?_nil]
    rfl
  · have more : strip l ≠ [] := mt (strip_eq_nil_iff plain).1 blank
    rw [payloadsAfter_line _ _ more, dataIn_concat]

theorem payloadsAfter_last {last : List Char} (ls : List (List Char)) (plain : Plain last) :
    payloadsAfter (dataIn ls) [strip last] = (payloadOf? (dataIn (ls ++ [last]))).toList := by
  by_cases blank : last = []
  · subst blank
    show payloadsAfter (dataIn ls) [[]] = _
    rw [payloadsAfter_blank, payloadsAfter_nil, payloadOf?_nil, Option.toList_none,
      List.append_nil, dataIn_concat_nil]
  · rw [payloadsAfter_strip plain (.inr blank), payloadsAfter_nil]

section Text

variable (e : LineEnd) {ls : List (List Char)} {last : List Char}

/-- What a text stands for as one frame. -/
theorem parse_text (plain : ∀ l ∈ ls, Plain l) (plain_last : Plain last) :
    parse (e.text ls last) = (payloadOf? (dataIn (ls ++ [last]))).map readPayload := by
  rw [parse_eq, lines_text e plain plain_last]
  rfl

theorem parse_text_nil (plain : ∀ l ∈ ls, Plain l) :
    parse (e.text ls []) = (payloadOf? (dataIn ls)).map readPayload := by
  rw [parse_text e plain Plain.nil, dataIn_concat_nil]

/-- The payloads of a text are those of the lines it was written from. -/
theorem payloads_text (plain : ∀ l ∈ ls, Plain l) (plain_last : Plain last) :
    payloads (e.text ls last) = payloadsAfter [] ((ls ++ [last]).map strip) := by
  rw [payloads, lines_text e plain plain_last]

end Text

end Frame

namespace Chunked

/-! ## The decoder of chunks -/

/-- The events of bytes when no more come, after the bytes `seen` of a frame, last first. -/
def eventsAfter (seen bytes : Bytes) : List Event :=
  (splitAfter seen bytes).1.filterMap readFrame ++ (readFrame (splitAfter seen bytes).2).toList

theorem decode_eq_eventsAfter (chunks : List Bytes) :
    decode (chunks.map .ok) = eventsAfter [] chunks.flatten := by
  have all := decode_chunks chunks []
  rw [List.append_nil] at all
  exact all

theorem readFrame_encode (text : List Char) : readFrame (encode text) = Frame.parse text := by
  rw [readFrame, Utf8.decodeLossy_encode]

theorem filterMap_readFrame_cons (frame : Bytes) (frames : List Bytes) :
    (frame :: frames).filterMap readFrame =
      (readFrame frame).toList ++ frames.filterMap readFrame := by
  rw [List.filterMap_cons]
  cases readFrame frame with
  | none => rfl
  | some event => rfl

section Bytes

variable (e : LineEnd) (seen : Bytes) {xs r : Bytes}

/-- Bytes without a line feed go to the frame, unless a carriage return at their end begins the end
of the frame. -/
theorem splitAfter_append (free : 10 ∉ xs) (apart : ∀ r', r ≠ 10 :: 13 :: 10 :: r') :
    splitAfter seen (xs ++ r) = splitAfter (xs.reverse ++ seen) r := by
  induction xs generalizing seen with
  | nil => rfl
  | cons b xs ih =>
      have other : b ≠ 10 := fun h => free (h ▸ List.mem_cons_self)
      have rest : 10 ∉ xs := fun h => free (List.mem_cons_of_mem b h)
      rw [List.cons_append, splitAfter, ih (b :: seen) rest, List.reverse_cons, List.append_assoc,
        List.singleton_append]
      · intro r' hb
        exact absurd hb other
      · intro r' _ hr
        cases xs with
        | nil => exact apart r' hr
        | cons x xs =>
            rw [List.cons_append] at hr
            exact rest ((List.cons.inj hr).1 ▸ List.mem_cons_self)

theorem splitAfter_two_ends (r : Bytes) :
    splitAfter seen (e.bytes ++ (e.bytes ++ r)) =
      (seen.reverse :: (split r).1, (split r).2) := by
  cases e with
  | lf => rfl
  | crlf => rfl

/-- The end of one line belongs to the frame. -/
theorem splitAfter_one_end (lf : r.head? ≠ some 10) (cr : r.head? ≠ some 13) :
    splitAfter seen (e.bytes ++ r) = splitAfter (e.bytes.reverse ++ seen) r := by
  have line_feed (seen : Bytes) : splitAfter seen (10 :: r) = splitAfter (10 :: seen) r := by
    rw [splitAfter]
    · intro r' _ hr
      exact lf (by rw [hr, List.head?_cons])
    · intro r' h
      cases h
  cases e with
  | lf => exact line_feed seen
  | crlf =>
      show splitAfter seen (13 :: 10 :: r) = splitAfter (10 :: 13 :: seen) r
      rw [splitAfter, line_feed]
      · intro r' h
        cases h
      · intro r' _ hr
        have hr : r = 13 :: 10 :: r' := (List.cons.inj hr).2
        exact cr (by rw [hr, List.head?_cons])

/-- A carriage return before a line end is not the beginning of the end of a frame. -/
theorem bytes_append_ne (cr : r.head? ≠ some 13) (r' : Bytes) : e.bytes ++ r ≠ 10 :: 13 :: 10 :: r' := by
  intro h
  cases e with
  | lf =>
      have hr : r = 13 :: 10 :: r' := (List.cons.inj h).2
      exact cr (by rw [hr, List.head?_cons])
  | crlf => cases h

end Bytes

section Text

variable (e : LineEnd) (seen : Bytes) {l : List Char}

theorem head?_encode_ne_lf (other : l.head? ≠ some '\n') : (encode l).head? ≠ some 10 := by
  intro h
  exact other (Utf8.head?_of_head?_encode h (by decide))

theorem head?_encode_ne_cr (other : l.head? ≠ some '\r') : (encode l).head? ≠ some 13 := by
  intro h
  exact other (Utf8.head?_of_head?_encode h (by decide))

theorem eventsAfter_last (free : '\n' ∉ l) :
    eventsAfter seen (encode l) = (readFrame (seen.reverse ++ encode l)).toList := by
  have apart : ∀ r' : Bytes, [] ≠ 10 :: 13 :: 10 :: r' := by
    intro r' h
    cases h
  have all := splitAfter_append seen (LineEnd.lf_not_mem_encode free) apart
  rw [List.append_nil] at all
  rw [eventsAfter, all, splitAfter, List.reverse_append, List.reverse_reverse]
  rfl

/-- A line that no blank line follows goes to the frame. -/
theorem splitAfter_line (free : '\n' ∉ l) {r : List Char} (lf : r.head? ≠ some '\n')
    (cr : r.head? ≠ some '\r') :
    splitAfter seen (encode (l ++ (e.chars ++ r))) =
      splitAfter ((encode (l ++ e.chars)).reverse ++ seen) (encode r) := by
  rw [Utf8.encode_append, Utf8.encode_append, Utf8.encode_append, LineEnd.encode_chars,
    splitAfter_append seen (LineEnd.lf_not_mem_encode free) (bytes_append_ne e (head?_encode_ne_cr cr)),
    splitAfter_one_end e _ (head?_encode_ne_lf lf) (head?_encode_ne_cr cr),
    List.reverse_append, List.append_assoc]

/-- A blank line after a line closes the frame. -/
theorem splitAfter_block (free : '\n' ∉ l) (r : List Char) :
    splitAfter seen (encode (l ++ (e.chars ++ (e.chars ++ r)))) =
      ((seen.reverse ++ encode l) :: (split (encode r)).1, (split (encode r)).2) := by
  have other : (e.bytes ++ encode r).head? ≠ some 13 ∨ e = .crlf := by
    cases e with
    | lf => exact .inl (by simp [LineEnd.bytes])
    | crlf => exact .inr rfl
  have apart : ∀ r', e.bytes ++ (e.bytes ++ encode r) ≠ 10 :: 13 :: 10 :: r' := by
    intro r'
    rcases other with cr | rfl
    · exact bytes_append_ne e cr r'
    · intro h
      cases h
  rw [Utf8.encode_append, Utf8.encode_append, Utf8.encode_append, LineEnd.encode_chars,
    splitAfter_append seen (LineEnd.lf_not_mem_encode free) apart, splitAfter_two_ends,
    List.reverse_append, List.reverse_reverse]

end Text

section Lines

open Frame (payloadsAfter dataIn strip readPayload)

variable (e : LineEnd) {earlier ls : List (List Char)} {l last : List Char}

/-- The first line after `earlier` goes to their frame, unless a blank line follows it. -/
theorem splitAfter_text_line (earlier ls : List (List Char)) (free : '\n' ∉ l)
    (lf : (e.text ls last).head? ≠ some '\n') (cr : (e.text ls last).head? ≠ some '\r') :
    splitAfter (encode (e.text earlier [])).reverse (encode (e.text (l :: ls) last)) =
      splitAfter (encode (e.text (earlier ++ [l]) [])).reverse (encode (e.text ls last)) := by
  rw [LineEnd.text_cons, splitAfter_line e _ free lf cr, ← List.reverse_append,
    ← Utf8.encode_append, ← List.append_assoc, LineEnd.text_append_last, LineEnd.text_concat,
    List.append_nil]

/-- A blank line after the next line closes the frame. -/
theorem splitAfter_text_block (plain : Plain l) :
    splitAfter (encode (e.text earlier [])).reverse (encode (e.text (l :: [] :: ls) last)) =
      (encode (e.text earlier l) :: (split (encode (e.text ls last))).1,
        (split (encode (e.text ls last))).2) := by
  rw [LineEnd.text_cons, LineEnd.text_cons, List.nil_append, splitAfter_block e _ plain.1,
    List.reverse_reverse, ← Utf8.encode_append, LineEnd.text_append_last]

/-- The events of the frame that a blank line closes come before those of the rest. -/
theorem eventsAfter_text_block (plain_earlier : ∀ m ∈ earlier, Plain m) (plain : Plain l) :
    eventsAfter (encode (e.text earlier [])).reverse (encode (e.text (l :: [] :: ls) last)) =
      ((Frame.payloadOf? (dataIn (earlier ++ [l]))).map readPayload).toList ++
        eventsAfter [] (encode (e.text ls last)) := by
  rw [eventsAfter, splitAfter_text_block e plain, filterMap_readFrame_cons, readFrame_encode,
    Frame.parse_text e plain_earlier plain, List.append_assoc]
  rfl

theorem eventsAfter_text_last (plain_earlier : ∀ m ∈ earlier, Plain m) (plain : Plain last) :
    eventsAfter (encode (e.text earlier [])).reverse (encode last) =
      (payloadsAfter (dataIn earlier) [strip last]).map readPayload := by
  rw [eventsAfter_last _ plain.1, List.reverse_reverse, ← Utf8.encode_append,
    LineEnd.text_append_last, readFrame_encode, Frame.parse_text e plain_earlier plain,
    Frame.payloadsAfter_last earlier plain, Option.toList_map]

/-- The events of lines are those of their payloads. `earlier` are the lines of the frame that has
begun; only its first line may be blank. -/
theorem eventsAfter_text (plain_earlier : ∀ m ∈ earlier, Plain m) (plain : ∀ m ∈ ls, Plain m)
    (plain_last : Plain last) (begun : earlier = [] ∨ ls.head? ≠ some []) :
    eventsAfter (encode (e.text earlier [])).reverse (encode (e.text ls last)) =
      (payloadsAfter (dataIn earlier) ((ls ++ [last]).map strip)).map readPayload := by
  -- two lines at a time: whether the second is blank decides what becomes of the first
  induction ls using List.twoStepInduction generalizing earlier with
  | nil => exact eventsAfter_text_last e plain_earlier plain_last
  | singleton l =>
      have here := plain l List.mem_cons_self
      have begun : earlier = [] ∨ l ≠ [] := begun.imp_right (mt (congrArg some))
      have plain_later : ∀ m ∈ earlier ++ [l], Plain m :=
        List.forall_mem_append.2 ⟨plain_earlier, plain⟩
      rw [eventsAfter, splitAfter_text_line e earlier [] here.1 plain_last.head?_ne_lf plain_last.2,
        LineEnd.text_nil, List.map_append, List.map_singleton, List.singleton_append,
        List.map_singleton, Frame.payloadsAfter_strip here begun]
      exact eventsAfter_text_last e plain_later plain_last
  | cons_cons l next rest ih_rest ih_next =>
      have here := plain l List.mem_cons_self
      have plain_next := fun m hm => plain m (List.mem_cons_of_mem l hm)
      have begun : earlier = [] ∨ l ≠ [] := begun.imp_right (mt (congrArg some))
      rw [List.cons_append, List.map_cons, Frame.payloadsAfter_strip here begun]
      by_cases blank : next = []
      · subst blank
        have plain_rest := fun m hm => plain_next m (List.mem_cons_of_mem [] hm)
        have rest_events := ih_rest (by simp) plain_rest (.inl rfl)
        rw [eventsAfter_text_block e plain_earlier here, List.cons_append, List.map_cons]
        change _ = List.map _ (payloadsAfter _ ([] :: _))
        rw [Frame.payloadsAfter_blank, List.map_append, Option.toList_map]
        exact congrArg _ rest_events
      · have first := e.head?_text_cons rest last blank
        have plain_first := plain_next next List.mem_cons_self
        have plain_later : ∀ m ∈ earlier ++ [l], Plain m :=
          List.forall_mem_append.2 ⟨plain_earlier, List.forall_mem_singleton.2 here⟩
        rw [eventsAfter, splitAfter_text_line e earlier (next :: rest) here.1
          (by rw [first]; exact plain_first.head?_ne_lf) (by rw [first]; exact plain_first.2)]
        exact ih_next next plain_later plain_next (.inr (mt Option.some.inj blank))

/-- However a text with uniform line ends is cut, the decoder of chunks reads its payloads. -/
theorem decode_text (plain : ∀ m ∈ ls, Plain m) (plain_last : Plain last) {chunks : List Bytes}
    (whole : chunks.flatten = encode (e.text ls last)) :
    decode (chunks.map .ok) = (Frame.payloads (e.text ls last)).map readPayload := by
  rw [decode_eq_eventsAfter, whole, Frame.payloads_text e plain plain_last]
  exact eventsAfter_text e (by simp) plain plain_last (.inl rfl)

end Lines

end Chunked

namespace Lined

/-! ## The decoder of lines -/

theorem decodeAfter_nil (frame : List Char) :
    decodeAfter frame ⟨[], []⟩ = (Frame.parse frame).toList :=
  decodeAfter_of_end (readLineAfter_nil [] List.not_mem_nil)

section Text

open Frame (payloadsAfter dataIn strip readPayload)

variable (e : LineEnd) {block ls : List (List Char)} {l last : List Char}

theorem readLine_text (free : '\n' ∉ l) (rest : Bytes) (reads : List Read) :
    readLine ⟨encode (l ++ e.chars) ++ rest, reads⟩ =
      (.ok (encode (l ++ e.chars)), ⟨rest, reads⟩) := by
  rw [Utf8.encode_append, LineEnd.encode_chars, List.append_assoc]
  cases e with
  | lf => exact readLineAfter_of_lineFeed [] (LineEnd.lf_not_mem_encode free) rest reads
  | crlf =>
      have more : lineFeed ∉ encode l ++ [13] := by
        rw [List.mem_append]
        exact not_or.2 ⟨LineEnd.lf_not_mem_encode free, by decide⟩
      have read := readLineAfter_of_lineFeed [] more rest reads
      rw [List.nil_append, List.append_assoc, List.append_assoc] at read
      exact read

theorem isBlankLine_chars : isBlankLine e.chars = true := by
  cases e with
  | lf => rfl
  | crlf => rfl

theorem isBlankLine_append (plain : Plain l) (more : l ≠ []) (r : List Char) :
    isBlankLine (l ++ r) = false := by
  cases l with
  | nil => exact absurd rfl more
  | cons c l =>
      have cr : (c == '\r') = false := beq_false_of_ne fun h => plain.2 (congrArg some h)
      have lf : (c == '\n') = false :=
        beq_false_of_ne fun h => plain.1 (h ▸ List.mem_cons_self)
      rw [isBlankLine, List.cons_append, List.all_cons, cr, lf]
      rfl

/-- What stands after the last line end goes to the last frame. -/
theorem decodeAfter_last (frame : List Char) (plain : Plain last) :
    decodeAfter frame ⟨encode last, []⟩ = (Frame.parse (frame ++ last)).toList := by
  by_cases blank : last = []
  · subst blank
    rw [List.append_nil]
    exact decodeAfter_nil frame
  · have read : readLine ⟨encode last, []⟩ = (.ok (encode last), ⟨[], []⟩) :=
      readLineAfter_nil [] (LineEnd.lf_not_mem_encode plain.1)
    have full : encode last ≠ [] := by
      intro h
      have back := Utf8.decode?_encode last
      rw [h] at back
      exact blank (Option.some.inj back).symm
    have text := isBlankLine_append plain blank []
    rw [List.append_nil] at text
    rw [decodeAfter_of_line read full (Utf8.decode?_encode last), text, if_neg Bool.false_ne_true,
      decodeAfter_nil]

/-- A blank line closes the frame, any other line goes to it. -/
theorem decodeAfter_line (frame : List Char) (plain : Plain l) (rest : Bytes) (reads : List Read) :
    decodeAfter frame ⟨encode (l ++ e.chars) ++ rest, reads⟩ =
      if l = [] then (Frame.parse frame).toList ++ decodeAfter [] ⟨rest, reads⟩
      else decodeAfter (frame ++ (l ++ e.chars)) ⟨rest, reads⟩ := by
  have full : encode (l ++ e.chars) ≠ [] := by
    rw [Utf8.encode_append, LineEnd.encode_chars]
    cases e with
    | lf => exact List.append_ne_nil_of_right_ne_nil _ (List.cons_ne_nil _ _)
    | crlf => exact List.append_ne_nil_of_right_ne_nil _ (List.cons_ne_nil _ _)
  rw [decodeAfter_of_line (readLine_text e plain.1 rest reads) full (Utf8.decode?_encode _)]
  by_cases blank : l = []
  · subst blank
    rw [List.nil_append, isBlankLine_chars, if_pos rfl, if_pos rfl]
  · rw [isBlankLine_append plain blank, if_neg Bool.false_ne_true, if_neg blank]

/-- The events of lines are those of their payloads; `block` are the lines of the frame that has
begun. -/
theorem decodeAfter_text (plain_block : ∀ m ∈ block, Plain m) (plain : ∀ m ∈ ls, Plain m)
    (plain_last : Plain last) :
    decodeAfter (e.text block []) ⟨encode (e.text ls last), []⟩ =
      (payloadsAfter (dataIn block) ((ls ++ [last]).map strip)).map readPayload := by
  induction ls generalizing block with
  | nil =>
      rw [LineEnd.text_nil, decodeAfter_last _ plain_last, LineEnd.text_append_last,
        Frame.parse_text e plain_block plain_last, List.nil_append, List.map_singleton,
        Frame.payloadsAfter_last block plain_last, Option.toList_map]
  | cons l ls ih =>
      have here := plain l List.mem_cons_self
      have plain := fun m hm => plain m (List.mem_cons_of_mem l hm)
      rw [LineEnd.text_cons, ← List.append_assoc, Utf8.encode_append, decodeAfter_line e _ here,
        List.cons_append, List.map_cons]
      by_cases blank : l = []
      · have rest := ih (List.forall_mem_nil _) plain
        have stripped : strip l = [] := (Frame.strip_eq_nil_iff here).2 blank
        rw [if_pos blank, stripped, Frame.payloadsAfter_blank, List.map_append,
          Frame.parse_text_nil e plain_block, Option.toList_map]
        exact congrArg _ rest
      · have plain_later : ∀ m ∈ block ++ [l], Plain m :=
          List.forall_mem_append.2 ⟨plain_block, List.forall_mem_singleton.2 here⟩
        have rest := ih plain_later plain
        rw [LineEnd.text_concat, List.append_nil] at rest
        rw [if_neg blank, Frame.payloadsAfter_strip here (.inr blank), ← List.append_assoc,
          LineEnd.text_append_last]
        exact rest

/-- However a text with uniform line ends is read, the decoder of lines reads its payloads. -/
theorem decode_text (plain : ∀ m ∈ ls, Plain m) (plain_last : Plain last) {reads : List Bytes}
    (whole : reads.flatten = encode (e.text ls last)) :
    decode (reads.map .ok) = (Frame.payloads (e.text ls last)).map readPayload := by
  rw [decode, decodeAfter_reads, List.nil_append, whole, Frame.payloads_text e plain plain_last]
  exact decodeAfter_text e (List.forall_mem_nil _) plain plain_last

end Text

end Lined

end ChatClient
