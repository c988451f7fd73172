import ChatClient.Proofs.EventStream.Agreement

/-!
# An input that fails

When the input fails, both decoders have handed on the events of the frames that were complete, and
they hand on one error for the failure. The decoder of lines then stops, and what has arrived of a
frame is lost. The decoder of chunks still reads it as a last frame (`Chunked.decode_of_failure`).

On lines with uniform ends the events before the error are the same in both, those of the payloads
that a blank line has closed, whatever has arrived of the line that the failure cuts off
(`events_of_failure`). So the decoders hand on equally many values just if the frame that is cut off
does not read as one; that of one data line does (`events_of_cut_frame`).
-/

namespace ChatClient

open Utf8 (Bytes encode)

namespace Frame

/-- The payloads of the blocks that the blank lines among some lines close, after the data of the
block that has begun. -/
def closedAfter (data : List (List Char)) : List (List Char) → List (List Char)
  | [] => []
  | l :: rest =>
      if l = [] then (payloadOf? data).toList ++ closedAfter [] rest
      else closedAfter (data ++ (dataOf l).toList) rest

/-- The payloads of the blocks that are closed in a text. What stands after its last line feed is no
line yet. -/
def closedPayloads (text : List Char) : List (List Char) := closedAfter [] (lines text).dropLast

section ClosedAfter

variable (data : List (List Char)) (rest : List (List Char))

theorem closedAfter_blank :
    closedAfter data ([] :: rest) = (payloadOf? data).toList ++ closedAfter [] rest := by
  rw [closedAfter, if_pos rfl]

/-- A line goes to the block that has begun; a blank line may stand at its beginning. -/
theorem closedAfter_strip {l : List Char} {ls : List (List Char)} (plain : Plain l)
    (begun : ls = [] ∨ l ≠ []) :
    closedAfter (dataIn ls) (strip l :: rest) = closedAfter (dataIn (ls ++ [l])) rest := by
  by_cases blank : l = []
  · subst blank
    have first : ls = [] := begun.resolve_right (fun more => more rfl)
    subst first
    show closedAfter [] ([] :: rest) = closedAfter [] rest
    rw [closedAfter_blank, payloadOf?_nil]
    rfl
  · have more : strip l ≠ [] := mt (strip_eq_nil_iff plain).1 blank
    rw [closedAfter, if_neg more, dataIn_concat]

end ClosedAfter

theorem closedPayloads_text (e : LineEnd) {ls : List (List Char)} (plain : ∀ l ∈ ls, Plain l) :
    closedPayloads (e.text ls []) = closedAfter [] (ls.map strip) := by
  rw [closedPayloads, lines_text e plain Plain.nil, List.map_append, List.map_singleton,
    List.dropLast_concat]

end Frame

open Frame (closedAfter closedPayloads dataIn strip readPayload)

/-! ## The decoder of chunks -/

namespace Chunked

/-- Bytes without a line feed complete no frame. -/
theorem splitAfter_append_of_not_mem {tail : Bytes} (free : 10 ∉ tail) (seen bytes : Bytes) :
    splitAfter seen (bytes ++ tail) =
      ((splitAfter seen bytes).1, (splitAfter seen bytes).2 ++ tail) := by
  fun_induction splitAfter seen bytes with
  | case1 seen r s ih =>
      rw [List.cons_append, List.cons_append, splitAfter, ih]
  | case2 seen r s ih =>
      rw [List.cons_append, List.cons_append, List.cons_append, List.cons_append, splitAfter, ih]
  | case3 seen b r not_two not_four ih =>
      rw [List.cons_append, splitAfter, ih]
      -- the end of a frame would end in the bytes that come later
      · intro r' hb hr
        cases r with
        | nil => exact free (by rw [← List.nil_append tail, hr]; exact List.mem_cons_self)
        | cons x r => exact not_two r hb (by rw [(List.cons.inj hr).1])
      · intro r' hb hr
        rcases r with _ | ⟨x, _ | ⟨y, _ | ⟨z, r⟩⟩⟩
        · exact free (by rw [← List.nil_append tail, hr]; simp)
        · cases hr
          exact free (by simp)
        · cases hr
          exact free (by simp)
        · cases hr
          exact not_four r hb rfl
  | case4 seen =>
      have apart : ∀ r' : Bytes, [] ≠ 10 :: 13 :: 10 :: r' := by
        intro r' h
        cases h
      have all := splitAfter_append seen free apart
      rw [List.append_nil] at all
      rw [List.nil_append, all, splitAfter, List.reverse_append, List.reverse_reverse]

/-- After the complete frames and the error for the failure, what has arrived of a frame is read as
one. -/
theorem decode_of_failure (chunks : List Bytes) (failure : Error) (later : List Chunk) :
    decode (chunks.map .ok ++ .error failure :: later) =
      (split chunks.flatten).1.filterMap readFrame ++
        .error failure :: (readFrame (split chunks.flatten).2).toList :=
  decode_chunks chunks (.error failure :: later)

/-- The complete frames of lines are those that a blank line closes. `earlier` are the lines of the
frame that has begun; only its first line may be blank. -/
theorem filterMap_splitAfter_text (e : LineEnd) {earlier ls : List (List Char)}
    (plain_earlier : ∀ m ∈ earlier, Plain m) (plain : ∀ m ∈ ls, Plain m)
    (begun : earlier = [] ∨ ls.head? ≠ some []) :
    (splitAfter (encode (e.text earlier [])).reverse (encode (e.text ls []))).1.filterMap readFrame =
      (closedAfter (dataIn earlier) (ls.map strip)).map readPayload := by
  -- two lines at a time: whether the second is blank decides what becomes of the first
  induction ls using List.twoStepInduction generalizing earlier with
  | nil => rfl
  | singleton l =>
      have here := plain l List.mem_cons_self
      have begun : earlier = [] ∨ l ≠ [] := begun.imp_right (mt (congrArg some))
      rw [splitAfter_text_line e earlier [] here.1 (by simp) (by simp), List.map_singleton,
        Frame.closedAfter_strip [] here begun]
      rfl
  | cons_cons l next rest ih_rest ih_next =>
      have here := plain l List.mem_cons_self
      have plain_next := fun m hm => plain m (List.mem_cons_of_mem l hm)
      have begun : earlier = [] ∨ l ≠ [] := begun.imp_right (mt (congrArg some))
      rw [List.map_cons, Frame.closedAfter_strip _ here begun]
      by_cases blank : next = []
      · subst blank
        have plain_rest := fun m hm => plain_next m (List.mem_cons_of_mem [] hm)
        have rest_events := ih_rest (by simp) plain_rest (.inl rfl)
        rw [splitAfter_text_block e here, filterMap_readFrame_cons, readFrame_encode,
          Frame.parse_text e plain_earlier here, List.map_cons]
        change _ = List.map _ (closedAfter _ ([] :: _))
        rw [Frame.closedAfter_blank, List.map_append, Option.toList_map]
        exact congrArg _ rest_events
      · have first := e.head?_text_cons rest [] blank
        have plain_first := plain_next next List.mem_cons_self
        have plain_later : ∀ m ∈ earlier ++ [l], Plain m :=
          List.forall_mem_append.2 ⟨plain_earlier, List.forall_mem_singleton.2 here⟩
        rw [splitAfter_text_line e earlier (next :: rest) here.1
          (by rw [first]; exact plain_first.head?_ne_lf) (by rw [first]; exact plain_first.2)]
        exact ih_next next plain_later plain_next (.inr (mt Option.some.inj blank))

theorem decode_text_of_failure (e : LineEnd) {ls : List (List Char)} (plain : ∀ m ∈ ls, Plain m)
    {tail : Bytes} (free : 10 ∉ tail) {chunks : List Bytes}
    (cut : chunks.flatten = encode (e.text ls []) ++ tail) (failure : Error) (later : List Chunk) :
    decode (chunks.map .ok ++ .error failure :: later) =
      (closedPayloads (e.text ls [])).map readPayload ++
        .error failure :: (readFrame (split (encode (e.text ls []) ++ tail)).2).toList := by
  have frames : (split (encode (e.text ls []))).1.filterMap readFrame =
      (closedAfter [] (ls.map strip)).map readPayload :=
    filterMap_splitAfter_text e (List.forall_mem_nil _) plain (.inl rfl)
  have same : (split (encode (e.text ls []) ++ tail)).1 = (split (encode (e.text ls []))).1 := by
    rw [split, splitAfter_append_of_not_mem free]
    rfl
  rw [decode_of_failure, cut, same, frames, Frame.closedPayloads_text e plain]

end Chunked

/-! ## The decoder of lines -/

namespace Lined

/-- The events of the frames that a blank line closes, and the error. `block` are the lines of the
frame that has begun. -/
theorem decodeAfter_text_of_failure (e : LineEnd) {block ls : List (List Char)}
    (plain_block : ∀ m ∈ block, Plain m) (plain : ∀ m ∈ ls, Plain m) {tail : Bytes}
    (free : lineFeed ∉ tail) (details : String) (later : List Read) :
    decodeAfter (e.text block []) ⟨encode (e.text ls []) ++ tail, .error details :: later⟩ =
      (closedAfter (dataIn block) (ls.map strip)).map readPayload ++
        [.error (readFailure details)] := by
  induction ls generalizing block with
  | nil => exact decodeAfter_of_failure (readLineAfter_error [] free details later)
  | cons l ls ih =>
      have here := plain l List.mem_cons_self
      have plain := fun m hm => plain m (List.mem_cons_of_mem l hm)
      rw [LineEnd.text_cons, ← List.append_assoc, Utf8.encode_append, List.append_assoc,
        decodeAfter_line e _ here, List.map_cons]
      by_cases blank : l = []
      · have rest := ih (List.forall_mem_nil _) plain
        have stripped : strip l = [] := (Frame.strip_eq_nil_iff here).2 blank
        rw [if_pos blank, stripped, Frame.closedAfter_blank, List.map_append,
          Frame.parse_text_nil e plain_block, Option.toList_map, List.append_assoc]
        exact congrArg _ rest
      · have plain_later : ∀ m ∈ block ++ [l], Plain m :=
          List.forall_mem_append.2 ⟨plain_block, List.forall_mem_singleton.2 here⟩
        have rest := ih plain_later plain
        rw [LineEnd.text_concat, List.append_nil] at rest
        rw [if_neg blank, Frame.closedAfter_strip _ here (.inr blank), ← List.append_assoc,
          LineEnd.text_append_last]
        exact rest

theorem decode_text_of_failure (e : LineEnd) {ls : List (List Char)} (plain : ∀ m ∈ ls, Plain m)
    {tail : Bytes} (free : lineFeed ∉ tail) {reads : List Bytes}
    (cut : reads.flatten = encode (e.text ls []) ++ tail) (details : String) (later : List Read) :
    decode (reads.map .ok ++ .error details :: later) =
      (closedPayloads (e.text ls [])).map readPayload ++ [.error (readFailure details)] := by
  rw [decode, decodeAfter_reads_append [] [] reads (.failed details later), List.nil_append, cut,
    Frame.closedPayloads_text e plain]
  exact decodeAfter_text_of_failure e (List.forall_mem_nil _) plain free details later

end Lined

/-! ## Both decoders -/

/-- A text with uniform ends whose last line has an end is made of lines alone. -/
theorem exists_whole_lines {t : List Char} (uniform : UniformEnds (encode t))
    (whole : t.getLast? = none ∨ t.getLast? = some '\n') :
    ∃ (e : LineEnd) (ls : List (List Char)), (∀ l ∈ ls, Plain l) ∧ t = e.text ls [] := by
  obtain ⟨e, ls, last, plain, plain_last, rfl⟩ := exists_lines uniform
  refine ⟨e, ls, plain, ?_⟩
  rcases last.eq_nil_or_concat with rfl | ⟨front, c, rfl⟩
  · rfl
  · rw [List.concat_eq_append] at whole plain_last
    rw [← LineEnd.text_append_last, ← List.append_assoc, List.getLast?_concat] at whole
    rcases whole with h | h
    · cases h
    · cases h
      exact absurd (List.mem_append_right front List.mem_cons_self) plain_last.1

/-- The values among the events. -/
def values (events : List Event) : List Json := events.filterMap Except.toOption

@[simp] theorem values_append (events more : List Event) :
    values (events ++ more) = values events ++ values more := List.filterMap_append

@[simp] theorem values_nil : values [] = [] := rfl

@[simp] theorem values_error_cons (e : Error) (events : List Event) :
    values (.error e :: events) = values events := rfl

@[simp] theorem values_ok_cons (v : Json) (events : List Event) :
    values (.ok v :: events) = v :: values events := rfl

/-- An input that fails after some whole lines and a part of a line that has no end. -/
theorem events_of_failure {t : List Char} {tail : Bytes} (uniform : UniformEnds (encode t))
    (whole : t.getLast? = none ∨ t.getLast? = some '\n') (free : Lined.lineFeed ∉ tail)
    {chunks reads : List Bytes} (cut : chunks.flatten = encode t ++ tail)
    (read : reads.flatten = encode t ++ tail) (failure : Error) (later : List Chunked.Chunk)
    (details : String) (later' : List Lined.Read) :
    let closed := (closedPayloads t).map readPayload
    let unfinished := Chunked.readFrame (Chunked.split (encode t ++ tail)).2
    let chunked := Chunked.decode (chunks.map .ok ++ .error failure :: later)
    let lined := Lined.decode (reads.map .ok ++ .error details :: later')
    chunked = closed ++ .error failure :: unfinished.toList ∧
      lined = closed ++ [.error (Lined.readFailure details)] ∧
      ((values chunked).length = (values lined).length ↔ ∀ v, unfinished ≠ some (.ok v)) := by
  intro closed unfinished chunked lined
  obtain ⟨e, ls, plain, rfl⟩ := exists_whole_lines uniform whole
  have of_chunks : chunked = closed ++ .error failure :: unfinished.toList :=
    Chunked.decode_text_of_failure e plain free cut failure later
  have of_lines : lined = closed ++ [.error (Lined.readFailure details)] :=
    Lined.decode_text_of_failure e plain free read details later'
  refine ⟨of_chunks, of_lines, ?_⟩
  rw [of_chunks, of_lines]
  rcases unfinished with _ | e | v
  · simp
  · simp
  · simp

/-- The failure comes within a character of a comment, after a data line that no blank line
follows. -/
theorem events_of_failure_within_comment :
    let t := "data: 1\n\ndata: 2\n".toList
    let tail := (encode ": 帆".toList).take 4
    let parts := [encode t, tail]
    let closed := (closedPayloads t).map readPayload
    let unfinished := Chunked.readFrame (Chunked.split (encode t ++ tail)).2
    let lost : Error := .transport .bodyBroken
    UniformEnds (encode t) ∧ (t.getLast? = none ∨ t.getLast? = some '\n') ∧
      Lined.lineFeed ∉ tail ∧ parts.flatten = encode t ++ tail ∧
      (Chunked.decode (parts.map .ok ++ [.error lost]) = closed ++ .error lost :: unfinished.toList ∧
        Lined.decode (parts.map .ok ++ [.error "lost"]) =
          closed ++ [.error (Lined.readFailure "lost")]) ∧
      closed = [.ok (.number (.int 1))] ∧ unfinished = some (.ok (.number (.int 2))) := by
  intro t tail parts closed unfinished lost
  have uniform : UniformEnds (encode t) := .inl (by decide)
  have whole : t.getLast? = none ∨ t.getLast? = some '\n' := .inr (by decide)
  have free : Lined.lineFeed ∉ tail := by decide
  have cut : parts.flatten = encode t ++ tail := by decide
  obtain ⟨of_chunks, of_lines, -⟩ := events_of_failure uniform whole free cut cut lost [] "lost" []
  exact ⟨uniform, whole, free, cut, ⟨of_chunks, of_lines⟩, by decide +kernel, by decide +kernel⟩

/-- The decoder of chunks hands on a value after the error: that of the frame that the failure cuts
off. -/
theorem events_of_cut_frame :
    let b := encode "data: 1\n\ndata: 2\n".toList
    let lost : Error := .runtime "lost" {}
    Chunked.decode [.ok b, .error lost, .ok (encode ['\n'])] =
        [.ok (.number (.int 1)), .error lost, .ok (.number (.int 2))] ∧
      Lined.decode [.ok b, .error "lost", .ok (encode ['\n'])] =
        [.ok (.number (.int 1)), .error (Lined.readFailure "lost")] := by
  intro b lost
  constructor
  · decide +kernel
  · -- the decoder of lines does not compute, as its recursion is well-founded
    have plain : ∀ l ∈ ["data: 1".toList, [], "data: 2".toList], Plain l := by decide
    have cut : [b].flatten =
        encode (LineEnd.lf.text ["data: 1".toList, [], "data: 2".toList] []) ++ [] := by decide
    have events := Lined.decode_text_of_failure .lf plain List.not_mem_nil cut "lost"
      [.ok (encode ['\n'])]
    have closed : (closedPayloads (LineEnd.lf.text ["data: 1".toList, [], "data: 2".toList] [])).map
        readPayload = [.ok (.number (.int 1))] := by decide +kernel
    rw [closed] at events
    exact events

end ChatClient
