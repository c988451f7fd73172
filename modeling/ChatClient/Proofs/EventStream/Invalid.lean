import ChatClient.Proofs.EventStream.Frames

/-!
# Bytes that are no text

Where a frame is not well-formed UTF-8, the decoder of chunks replaces the bad bytes and goes on with
the next frame. The decoder of lines reads each line as text, so that the first bad line ends the
stream with an error (`Lined.readFrames`). On bytes whose lines end in bare line feeds both read the
same frames: up to the first bad one they give the same events, and after the error of the decoder of
lines no valid frame is read any more (`events_of_bare_feeds`, `events_of_bad_comment`).
-/

namespace ChatClient

open Utf8 (Bytes encode)

/-! ## Lines that end in bare line feeds -/

theorem feeds_of_bare {b : Bytes} (bare : ¬[13, 10] <:+: b) : ∀ p ∈ endedLines b, p.2 = .lf := by
  induction b using lines_induction with
  | last t free =>
      rw [endedLines_of_not_mem free]
      exact List.forall_mem_nil _
  | line l e r apart ih =>
      rw [endedLines_line apart, List.forall_mem_cons]
      constructor
      · cases e with
        | lf => rfl
        | crlf => exact absurd ⟨l, r, List.append_assoc l _ r⟩ bare
      · apply ih
        intro h
        apply bare
        apply h.trans
        rw [← List.append_assoc]
        exact (List.suffix_append _ r).isInfix

/-- Lines that all end alike are not mixed. -/
theorem unmixed_of_feeds {α : Type} {ls : List (List α × LineEnd)} (feeds : ∀ p ∈ ls, p.2 = .lf) :
    Unmixed ls := by
  induction ls with
  | nil => exact List.isChain_nil
  | cons p ls ih =>
      obtain ⟨-, later⟩ := List.forall_mem_cons.1 feeds
      apply List.isChain_cons.2
      constructor
      · rintro q hq ⟨-, -, rfl⟩
        cases later _ (List.mem_of_mem_head? hq)
      · exact ih later

/-! ## Lines that are text -/

theorem isSome_decode?_unlines {ls : List Bytes} :
    (Utf8.decode? (unlines ls)).isSome ↔ ∀ l ∈ ls, (Utf8.decode? l).isSome := by
  induction ls with
  | nil => simp [unlines, Utf8.decode?, Utf8.scan, Utf8.allSome]
  | cons l ls ih =>
      rw [unlines_cons, List.forall_mem_cons, ← ih]
      simp only [Option.isSome_iff_exists]
      constructor
      · rintro ⟨s, h⟩
        obtain ⟨t, u, ht, hu, -⟩ := (Utf8.decode?_append_ascii_iff (by decide) _ _).1 h
        exact ⟨⟨t, ht⟩, ⟨u, hu⟩⟩
      · rintro ⟨⟨t, ht⟩, ⟨u, hu⟩⟩
        exact ⟨_, (Utf8.decode?_append_ascii_iff (by decide) _ _).2 ⟨t, u, ht, hu, rfl⟩⟩

/-- One bad line spoils the whole. -/
theorem decode?_unlines_of_invalid {ls : List Bytes} {l : Bytes} (mem : l ∈ ls)
    (invalid : Utf8.decode? l = none) : Utf8.decode? (unlines ls) = none := by
  rw [← Option.not_isSome_iff_eq_none, isSome_decode?_unlines] at *
  exact fun all => invalid (all l mem)

theorem decode?_unlines_concat {ls : List Bytes} {l : Bytes} {s t : List Char}
    (hs : Utf8.decode? (unlines ls) = some s) (hl : Utf8.decode? l = some t) :
    Utf8.decode? (unlines (ls ++ [l])) = some (s ++ (t ++ ['\n'])) := by
  have feed : Utf8.decode? [10] = some ['\n'] := by decide
  rw [unlines_concat]
  exact Utf8.decode?_append hs (Utf8.decode?_append hl feed)

theorem Frame.data_append_of_isBlankLine (s : List Char) {l : List Char}
    (blank : Lined.isBlankLine l = true) : data (s ++ l) = data s := by
  induction l using List.reverseRecOn with
  | nil => rw [List.append_nil]
  | append_singleton l c ih =>
      obtain ⟨before, last⟩ := List.forall_mem_append.1 (List.all_eq_true.1 blank)
      have before : data (s ++ l) = data s := ih (List.all_eq_true.2 before)
      rw [← List.append_assoc]
      have kind := last c List.mem_cons_self
      rw [Bool.or_eq_true, beq_iff_eq, beq_iff_eq] at kind
      rcases kind with rfl | rfl
      · rw [data_concat_ret, before]
      · have nothing : data [] = [] := by decide
        rw [data_append, nothing, List.append_nil, before]

/-- Blank lines at the end of a frame make no difference. -/
theorem Frame.parse_append_of_isBlankLine (s : List Char) {l : List Char}
    (blank : Lined.isBlankLine l = true) : parse (s ++ l) = parse s := by
  rw [parse_eq_data, parse_eq_data, data_append_of_isBlankLine s blank]

namespace Lined

/-! ## The decoder of lines -/

/-- The events of frames that are read as text: the first that is not well-formed ends them with an
error. -/
def readFrames : List Bytes → List Event
  | [] => []
  | f :: rest =>
      match Utf8.decode? f with
      | none => [.error (readFailure invalidUtf8)]
      | some text => (Frame.parse text).toList ++ readFrames rest

section ReadFrames

variable {f : Bytes} {text : List Char} {fs : List Bytes}

theorem readFrames_cons_of_valid (valid : Utf8.decode? f = some text) :
    readFrames (f :: fs) = (Frame.parse text).toList ++ readFrames fs := by
  rw [readFrames, valid]

theorem readFrames_cons_of_invalid (invalid : Utf8.decode? f = none) :
    readFrames (f :: fs) = [.error (readFailure invalidUtf8)] := by
  rw [readFrames, invalid]

/-- Valid frames are read as the decoder of chunks reads them. -/
theorem readFrames_append (valid : ∀ f ∈ fs, (Utf8.decode? f).isSome) (rest : List Bytes) :
    readFrames (fs ++ rest) = fs.filterMap Chunked.readFrame ++ readFrames rest := by
  induction fs with
  | nil => rfl
  | cons f fs ih =>
      obtain ⟨here, later⟩ := List.forall_mem_cons.1 valid
      obtain ⟨text, valid⟩ := Option.isSome_iff_exists.1 here
      have same : Chunked.readFrame f = Frame.parse text := by
        rw [Utf8.eq_encode_of_decode? valid, Chunked.readFrame_encode]
      rw [List.cons_append, readFrames_cons_of_valid valid, ih later,
        Chunked.filterMap_readFrame_cons, same, List.append_assoc]

end ReadFrames

section Lines

variable {l : Bytes} {line : List Char} (frame : List Char)

theorem readLine_feed (free : lineFeed ∉ l) (pending : Bytes) (reads : List Read) :
    readLine ⟨l ++ lineFeed :: pending, reads⟩ = (.ok (l ++ [lineFeed]), ⟨pending, reads⟩) :=
  readLineAfter_of_lineFeed [] free pending reads

/-- A line that is text closes the frame or goes to it. -/
theorem decodeAfter_feed (free : lineFeed ∉ l) (valid : Utf8.decode? l = some line)
    (pending : Bytes) (reads : List Read) :
    decodeAfter frame ⟨l ++ lineFeed :: pending, reads⟩ =
      if isBlankLine line then (Frame.parse frame).toList ++ decodeAfter [] ⟨pending, reads⟩
      else decodeAfter (frame ++ (line ++ ['\n'])) ⟨pending, reads⟩ := by
  have whole : Utf8.decode? (l ++ [lineFeed]) = some (line ++ ['\n']) :=
    Utf8.decode?_append valid (by decide)
  have same : isBlankLine (line ++ ['\n']) = isBlankLine line := by
    rw [isBlankLine, List.all_append]
    exact Bool.and_true _
  rw [decodeAfter_of_line (readLine_feed free pending reads) (by simp) whole, same]

/-- A line that is no text ends the stream. -/
theorem decodeAfter_feed_of_invalid (free : lineFeed ∉ l) (invalid : Utf8.decode? l = none)
    (pending : Bytes) (reads : List Read) :
    decodeAfter frame ⟨l ++ lineFeed :: pending, reads⟩ = [.error (readFailure invalidUtf8)] := by
  refine decodeAfter_of_invalid (readLine_feed free pending reads) (by simp) ?_
  have one : unlines [l] = l ++ [lineFeed] := List.append_nil _
  rw [← one]
  exact decode?_unlines_of_invalid List.mem_cons_self invalid

/-- What stands after the last line feed goes to the last frame. -/
theorem decodeAfter_rest (free : lineFeed ∉ l) (valid : Utf8.decode? l = some line) :
    decodeAfter frame ⟨l, []⟩ = (Frame.parse (frame ++ line)).toList := by
  by_cases empty : l = []
  · subst empty
    cases valid
    rw [List.append_nil]
    exact decodeAfter_nil frame
  · have read : readLine ⟨l, []⟩ = (.ok l, ⟨[], []⟩) := readLineAfter_nil [] free
    rw [decodeAfter_of_line read empty valid]
    split
    · rename_i blank
      rw [decodeAfter_nil, Frame.parse_append_of_isBlankLine frame blank]
      exact List.append_nil _
    · exact decodeAfter_nil _

end Lines

/-- A line that can be told from a bare line feed is blank only if it is empty. -/
theorem isBlankLine_iff_of_apart {l : Bytes} {line : List Char} (apart : Apart l .lf)
    (valid : Utf8.decode? l = some line) : isBlankLine line = true ↔ l = [] := by
  have text := Utf8.eq_encode_of_decode? valid
  subst text
  rw [encode_eq_nil_iff]
  constructor
  · intro blank
    rcases line.eq_nil_or_concat with rfl | ⟨front, c, rfl⟩
    · rfl
    · rw [List.concat_eq_append] at *
      have kind := List.all_eq_true.1 blank c (by simp)
      rw [Bool.or_eq_true, beq_iff_eq, beq_iff_eq] at kind
      rcases kind with rfl | rfl
      · -- the carriage return would belong to the end of the line
        apply absurd _ (apart.ret_last rfl)
        rw [Utf8.encode_append]
        exact List.getLast?_concat
      · apply absurd _ apart.free
        rw [Utf8.encode_append]
        exact List.mem_append_right _ List.mem_cons_self
  · rintro rfl
    rfl

/-- The frames of closed blocks, and that of the block that is left with the last line. -/
def framesOf (b : List (List Bytes) × List Bytes) (last : Bytes) : List Bytes :=
  b.1.map unlines ++ [unlines (b.2 ++ [last])]

/-- A block with a line that is no text ends the stream, whatever lines come after it. -/
theorem readFrames_of_invalid (closing : Closing) (before : Option LineEnd) {block : List Bytes}
    (invalid : Utf8.decode? (unlines block) = none) (rest : List (Bytes × LineEnd)) (last : Bytes) :
    readFrames (framesOf (blocksAfter closing before block rest) last) =
      [.error (readFailure invalidUtf8)] := by
  have longer {block : List Bytes} (invalid : Utf8.decode? (unlines block) = none) (l : Bytes) :
      Utf8.decode? (unlines (block ++ [l])) = none := by
    rw [← Option.not_isSome_iff_eq_none, isSome_decode?_unlines] at invalid ⊢
    exact fun all => invalid fun m hm => all m (List.mem_append_left _ hm)
  induction rest generalizing before block with
  | nil => exact readFrames_cons_of_invalid (longer invalid last)
  | cons p rest ih =>
      obtain ⟨l, e⟩ := p
      by_cases closes : l = [] ∧ closing before e = true
      · obtain ⟨rfl, closes⟩ := closes
        rw [blocksAfter_blank closes]
        exact readFrames_cons_of_invalid invalid
      · rw [blocksAfter_line closes]
        exact ih _ (longer invalid l)

/-- The decoder of lines reads the frames as text; `frame` is the text of the block that has begun. -/
theorem decodeAfter_eq_readFrames {b : Bytes} (feeds : ∀ p ∈ endedLines b, p.2 = .lf)
    (before : Option LineEnd) {block : List Bytes} {frame : List Char}
    (valid : Utf8.decode? (unlines block) = some frame) :
    decodeAfter frame ⟨b, []⟩ =
      readFrames (framesOf (blocksAfter .always before block (endedLines b)) (lastLine b)) := by
  induction b using lines_induction generalizing before block frame with
  | last t free =>
      -- no line end closes the last frame, and the reference adds one to it
      rw [endedLines_of_not_mem free, lastLine_of_not_mem free]
      change _ = readFrames [unlines (block ++ [t])]
      cases text : Utf8.decode? t with
      | none =>
          have full : t ≠ [] := by
            rintro rfl
            cases text
          have bad : Utf8.decode? (unlines (block ++ [t])) = none :=
            decode?_unlines_of_invalid (by simp) text
          rw [readFrames_cons_of_invalid bad]
          exact decodeAfter_of_invalid (readLineAfter_nil [] free) full text
      | some line =>
          have feed : isBlankLine ['\n'] = true := by decide
          rw [readFrames_cons_of_valid (decode?_unlines_concat valid text), ← List.append_assoc,
            Frame.parse_append_of_isBlankLine _ feed, decodeAfter_rest frame free text]
          exact (List.append_nil _).symm
  | line l e r apart ih =>
      rw [endedLines_line apart] at feeds
      obtain ⟨rfl, later⟩ : e = .lf ∧ ∀ p ∈ endedLines r, p.2 = .lf :=
        List.forall_mem_cons.1 feeds
      rw [endedLines_line apart, lastLine_line]
      change decodeAfter frame ⟨l ++ lineFeed :: r, []⟩ = _
      cases text : Utf8.decode? l with
      | none =>
          -- the line is in the first frame that is closed from here on, if any is
          have more : l ≠ [] := by
            rintro rfl
            cases text
          have bad : Utf8.decode? (unlines (block ++ [l])) = none :=
            decode?_unlines_of_invalid (by simp) text
          rw [decodeAfter_feed_of_invalid frame apart.free text,
            blocksAfter_line fun h => more h.1, readFrames_of_invalid _ _ bad]
      | some line =>
          rw [decodeAfter_feed frame apart.free text]
          by_cases empty : l = []
          · subst empty
            rw [if_pos ((isBlankLine_iff_of_apart apart text).2 rfl), blocksAfter_blank rfl,
              ih later (some .lf) (rfl : Utf8.decode? (unlines []) = some [])]
            exact (readFrames_cons_of_valid valid).symm
          · rw [if_neg fun h => empty ((isBlankLine_iff_of_apart apart text).1 h),
              blocksAfter_line fun h => empty h.1]
            exact ih later _ (decode?_unlines_concat valid text)

/-- Bytes whose lines end in bare line feeds are read frame by frame as text. -/
theorem decode_eq_readFrames {reads : List Bytes} (bare : ¬[13, 10] <:+: reads.flatten) :
    decode (reads.map .ok) = readFrames (frames .always reads.flatten) := by
  rw [decode, decodeAfter_reads]
  exact decodeAfter_eq_readFrames (feeds_of_bare bare) none rfl

end Lined

/-! ## Both decoders -/

/-- The decoders of bytes whose lines end in bare line feeds. If all frames are text, they give the
same events. If some are not, they give the same events for the frames before the first of them; the
decoder of chunks goes on with what it makes of the others, and the decoder of lines ends with an
error. -/
theorem events_of_bare_feeds {b : Bytes} (bare : ¬[13, 10] <:+: b) {chunks reads : List Bytes}
    (cut : chunks.flatten = b) (read : reads.flatten = b) :
    let chunked := Chunked.decode (chunks.map .ok)
    let lined := Lined.decode (reads.map .ok)
    let all := frames .always b
    chunked = all.filterMap Chunked.readFrame ∧
      ((∀ f ∈ all, (Utf8.decode? f).isSome) → lined = chunked) ∧
      ∀ good bad rest, all = good ++ bad :: rest → (∀ f ∈ good, (Utf8.decode? f).isSome) →
        Utf8.decode? bad = none →
          lined = good.filterMap Chunked.readFrame ++ [.error (Lined.readFailure Lined.invalidUtf8)] ∧
          (lined.length = chunked.length ↔
            ((bad :: rest).filterMap Chunked.readFrame).length = 1) := by
  intro chunked lined all
  subst cut
  have of_chunks : chunked = all.filterMap Chunked.readFrame :=
    Chunked.decode_chunks_of_unmixed (unmixed_of_feeds (feeds_of_bare bare))
  have of_lines : lined = Lined.readFrames all := by
    rw [← read] at bare
    exact (Lined.decode_eq_readFrames bare).trans (by rw [read])
  refine ⟨of_chunks, ?_, ?_⟩
  · intro valid
    have events := Lined.readFrames_append valid []
    rw [List.append_nil] at events
    rw [of_lines, of_chunks, events]
    exact List.append_nil _
  · intro good bad rest split valid invalid
    have events : lined =
        good.filterMap Chunked.readFrame ++ [.error (Lined.readFailure Lined.invalidUtf8)] := by
      rw [of_lines, split, Lined.readFrames_append valid, Lined.readFrames_cons_of_invalid invalid]
    refine ⟨events, ?_⟩
    rw [events, of_chunks, split, List.filterMap_append, List.length_append, List.length_append,
      List.length_singleton]
    omega

/-- A frame that is no text at the end of the bytes: each decoder gives one event for it. -/
theorem events_of_bare_feeds_and_bad_last_frame :
    let b := encode "data: 1\n\ndata: ".toList ++ [255]
    let chunks := [b.take 5, b.drop 5]
    let good := [encode "data: 1\n".toList]
    let bad := encode "data: ".toList ++ [255, 10]
    let chunked := Chunked.decode (chunks.map .ok)
    let lined := Lined.decode (chunks.map .ok)
    ¬[13, 10] <:+: b ∧ chunks.flatten = b ∧
      (∀ f ∈ good, (Utf8.decode? f).isSome) ∧ Utf8.decode? bad = none ∧
      frames .always b = good ++ bad :: [] ∧
      chunked = (frames .always b).filterMap Chunked.readFrame ∧
      lined = good.filterMap Chunked.readFrame ++ [.error (Lined.readFailure Lined.invalidUtf8)] ∧
      lined.length = chunked.length := by
  intro b chunks good bad chunked lined
  have bare : ¬[13, 10] <:+: b := by decide +kernel
  have cut : chunks.flatten = b := by decide +kernel
  have valid : ∀ f ∈ good, (Utf8.decode? f).isSome := by decide +kernel
  have invalid : Utf8.decode? bad = none := by decide +kernel
  have split : frames .always b = good ++ bad :: [] := by decide +kernel
  obtain ⟨of_chunks, -, of_bad⟩ := events_of_bare_feeds bare cut cut
  obtain ⟨of_lines, same⟩ := of_bad good bad [] split valid invalid
  exact ⟨bare, cut, valid, invalid, split, of_chunks, of_lines, same.2 (by decide +kernel)⟩

/-- A bad byte in a comment: the decoder of chunks gives the events of all frames, the decoder of lines
none of those after the comment. -/
theorem events_of_bad_comment :
    let b := encode "data: 1\n\n: ".toList ++ 255 :: encode "\n\ndata: 2\n\ndata: 3\n\n".toList
    Chunked.decode [.ok b] =
        [.ok (.number (.int 1)), .ok (.number (.int 2)), .ok (.number (.int 3))] ∧
      Lined.decode [.ok b] =
        [.ok (.number (.int 1)), .error (Lined.readFailure Lined.invalidUtf8)] := by
  intro b
  constructor
  · decide +kernel
  · -- the decoder of lines does not compute, as its recursion is well-founded
    have bare : ¬[13, 10] <:+: [b].flatten := by decide +kernel
    have events : Lined.decode [.ok b] = Lined.readFrames (frames .always [b].flatten) :=
      Lined.decode_eq_readFrames bare
    rw [events]
    decide +kernel

end ChatClient
