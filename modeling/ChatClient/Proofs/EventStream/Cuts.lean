import ChatClient.EventStream.Chunked
import ChatClient.EventStream.Lined
import Mathlib.Tactic.Common

/-!
# Where the bytes are cut

Bytes arrive in pieces, and neither decoder depends on where one piece ends and the next begins.

A frame of the decoder of chunks is complete when its end has come, and bytes that come later do not
change it (`Chunked.takeFrameAfter_append`). So the frames of two parts are those of the first part,
and then those of what it leaves together with the second (`Chunked.split_append`); by induction over
the chunks, the events are those of all bytes in one chunk (`Chunked.decode_chunks`).

The decoder of lines reads on until it has a line feed, so that a line is the same however it is
delivered (`Lined.readLineAfter_reads`), and so are the events, whether the source then ends or fails
(`Lined.decodeAfter_reads_append`).
-/

namespace ChatClient.Chunked

open Utf8 (Bytes)

/-! ## Chunks -/

/-- The first complete frame of a byte sequence and the bytes after its end. `seen` holds the bytes
of the frame that has begun, last first. -/
def takeFrameAfter (seen : Bytes) : Bytes → Option (Bytes × Bytes)
  | 10 :: 10 :: r => some (seen.reverse, r)
  | 13 :: 10 :: 13 :: 10 :: r => some (seen.reverse, r)
  | b :: r => takeFrameAfter (b :: seen) r
  | [] => none

/-- The first complete frame of a byte sequence and the bytes after its end. -/
def takeFrame (bytes : Bytes) : Option (Bytes × Bytes) := takeFrameAfter [] bytes

/-- Bytes that come later do not change a frame that is complete. -/
theorem takeFrameAfter_append {seen bytes frame rest : Bytes}
    (h : takeFrameAfter seen bytes = some (frame, rest)) (more : Bytes) :
    takeFrameAfter seen (bytes ++ more) = some (frame, rest ++ more) := by
  fun_induction takeFrameAfter seen bytes with
  | case1 seen r =>
      cases h
      rfl
  | case2 seen r =>
      cases h
      rfl
  | case3 seen b r not_two not_four ih =>
      rw [List.cons_append, takeFrameAfter, ih h]
      -- bytes too few for an end cannot hold a complete frame
      · intro r' hb hr
        cases r with
        | nil => cases h
        | cons x r => exact not_two r hb (by rw [(List.cons.inj hr).1])
      · intro r' hb hr
        rcases r with _ | ⟨x, _ | ⟨y, _ | ⟨z, r⟩⟩⟩
        · cases h
        · cases hr
          cases h
        · cases hr
          cases h
        · cases hr
          exact not_four r hb rfl
  | case4 seen => cases h

theorem length_of_takeFrameAfter {seen bytes frame rest : Bytes}
    (h : takeFrameAfter seen bytes = some (frame, rest)) : rest.length < bytes.length := by
  fun_induction takeFrameAfter seen bytes with
  | case1 seen r =>
      cases h
      simp only [List.length_cons]
      omega
  | case2 seen r =>
      cases h
      simp only [List.length_cons]
      omega
  | case3 seen b r _ _ ih => exact Nat.lt_succ_of_lt (ih h)
  | case4 seen => cases h

theorem splitAfter_eq (seen bytes : Bytes) :
    splitAfter seen bytes =
      match takeFrameAfter seen bytes with
      | some (frame, rest) => (frame :: (split rest).1, (split rest).2)
      | none => ([], seen.reverse ++ bytes) := by
  fun_induction takeFrameAfter seen bytes with
  | case1 seen r => rfl
  | case2 seen r => rfl
  | case3 seen b r not_two not_four ih =>
      rw [splitAfter, ih]
      · rw [List.reverse_cons, List.append_assoc, List.singleton_append]
      · exact not_two
      · exact not_four
  | case4 seen => simp [splitAfter]

theorem split_of_takeFrame {bytes frame rest : Bytes} (h : takeFrame bytes = some (frame, rest)) :
    split bytes = (frame :: (split rest).1, (split rest).2) := by
  rw [takeFrame] at h
  rw [split, splitAfter_eq, h]

theorem split_of_takeFrame_none {bytes : Bytes} (h : takeFrame bytes = none) :
    split bytes = ([], bytes) := by
  rw [takeFrame] at h
  rw [split, splitAfter_eq, h]
  rfl

/-- The frames of two parts: what the first part leaves goes with the second. -/
theorem split_append (bytes more : Bytes) :
    split (bytes ++ more) =
      ((split bytes).1 ++ (split ((split bytes).2 ++ more)).1,
        (split ((split bytes).2 ++ more)).2) := by
  induction size : bytes.length using Nat.strongRecOn generalizing bytes with
  | ind n ih =>
      cases h : takeFrame bytes with
      | none => rw [split_of_takeFrame_none h, List.nil_append]
      | some taken =>
          obtain ⟨frame, rest⟩ := taken
          have shorter := length_of_takeFrameAfter h
          rw [size] at shorter
          rw [split_of_takeFrame (takeFrameAfter_append h more), split_of_takeFrame h,
            ih _ shorter rest rfl]
          rfl

/-- No complete frame is left over. -/
theorem split_rest (bytes : Bytes) : split (split bytes).2 = ([], (split bytes).2) := by
  induction size : bytes.length using Nat.strongRecOn generalizing bytes with
  | ind n ih =>
      cases h : takeFrame bytes with
      | none => rw [split_of_takeFrame_none h, split_of_takeFrame_none h]
      | some taken =>
          obtain ⟨frame, rest⟩ := taken
          have shorter := length_of_takeFrameAfter h
          rw [size] at shorter
          rw [split_of_takeFrame h]
          exact ih _ shorter rest rfl

/-- However the bytes after the buffer are cut, the frames are those of all bytes together. -/
theorem decodeAfter_chunks {buffer : Bytes} (unfinished : split buffer = ([], buffer))
    (chunks : List Bytes) (ending : List Chunk) :
    decodeAfter buffer (chunks.map .ok ++ ending) =
      (split (buffer ++ chunks.flatten)).1.filterMap readFrame ++
        decodeAfter (split (buffer ++ chunks.flatten)).2 ending := by
  induction chunks generalizing buffer with
  | nil => simp [unfinished]
  | cons chunk chunks ih =>
      rw [List.map_cons, List.cons_append, decodeAfter, ih (split_rest _), List.flatten_cons,
        ← List.append_assoc buffer, split_append (buffer ++ chunk) chunks.flatten,
        List.filterMap_append, List.append_assoc]

theorem decode_chunks (chunks : List Bytes) (ending : List Chunk) :
    decode (chunks.map .ok ++ ending) =
      (split chunks.flatten).1.filterMap readFrame ++
        decodeAfter (split chunks.flatten).2 ending :=
  decodeAfter_chunks rfl chunks ending

/-- The events do not depend on how the bytes are cut into chunks, whatever comes after them: the end
of the input, or an error that ends it. -/
theorem decode_eq_of_flatten_eq {chunks chunks' : List Bytes}
    (same : chunks.flatten = chunks'.flatten) (ending : List Chunk) :
    decode (chunks.map .ok ++ ending) = decode (chunks'.map .ok ++ ending) := by
  rw [decode_chunks, decode_chunks, same]

/-- A cut inside a character, an empty chunk, and two cuts inside the end of a frame. -/
theorem decode_eq_of_cut_character_and_end :
    let chunks : List Bytes := [[34, 0xE5], [0xB8], [], [0x86, 34, 13], [10, 13], [10, 49]]
    let whole : List Bytes := [[34, 0xE5, 0xB8, 0x86, 34, 13, 10, 13, 10, 49]]
    chunks.flatten = whole.flatten ∧
      decode (chunks.map .ok ++ [.error (.transport .bodyBroken)]) =
        decode (whole.map .ok ++ [.error (.transport .bodyBroken)]) := by
  intro chunks whole
  have same : chunks.flatten = whole.flatten := by decide
  exact ⟨same, decode_eq_of_flatten_eq same _⟩

end ChatClient.Chunked

namespace ChatClient.Lined

open Utf8 (Bytes)

/-! ## Reads -/

/-- Bytes have no line feed, or they are a line with its line feed and a rest. -/
theorem lineFeed_cases (bytes : Bytes) :
    lineFeed ∉ bytes ∨ ∃ line rest, lineFeed ∉ line ∧ bytes = line ++ lineFeed :: rest := by
  by_cases h : lineFeed ∈ bytes
  · obtain ⟨line, rest, split, before⟩ := List.eq_append_cons_of_mem h
    exact .inr ⟨line, rest, before, split⟩
  · exact .inl h

/-- Reads that bring no bytes any more: the source has ended, or it fails. -/
inductive Over : List Read → Prop
  | ended : Over []
  | failed (details : String) (later : List Read) : Over (.error details :: later)

section ReadLine

variable {line pending : Bytes} (seen : Bytes)

theorem all_ne_lineFeed (h : lineFeed ∉ line) : ∀ b ∈ line, decide (b ≠ lineFeed) = true := by
  intro b hb
  apply decide_eq_true
  rintro rfl
  exact h hb

theorem dropWhile_of_not_mem (h : lineFeed ∉ line) : line.dropWhile (· ≠ lineFeed) = [] := by
  have whole : (line ++ []).dropWhile (· ≠ lineFeed) = [] :=
    List.dropWhile_append_of_pos (all_ne_lineFeed h)
  rwa [List.append_nil] at whole

theorem readLineAfter_of_lineFeed (h : lineFeed ∉ line) (rest : Bytes) (reads : List Read) :
    readLineAfter seen (line ++ lineFeed :: rest) reads =
      (.ok (seen ++ line ++ [lineFeed]), ⟨rest, reads⟩) := by
  have stop : (lineFeed :: rest).dropWhile (· ≠ lineFeed) = lineFeed :: rest := by simp
  have none_taken : (lineFeed :: rest).takeWhile (· ≠ lineFeed) = [] := by simp
  rw [readLineAfter.eq_def, List.dropWhile_append_of_pos (all_ne_lineFeed h), stop,
    List.takeWhile_append_of_pos (all_ne_lineFeed h), none_taken, List.append_nil]

theorem readLineAfter_nil (h : lineFeed ∉ pending) :
    readLineAfter seen pending [] = (.ok (seen ++ pending), ⟨[], []⟩) := by
  rw [readLineAfter.eq_def, dropWhile_of_not_mem h]

theorem readLineAfter_cons (h : lineFeed ∉ pending) (bytes : Bytes) (reads : List Read) :
    readLineAfter seen pending (.ok bytes :: reads) =
      readLineAfter (seen ++ pending) bytes reads := by
  rw [readLineAfter.eq_def, dropWhile_of_not_mem h]

theorem readLineAfter_error (h : lineFeed ∉ pending) (details : String) (later : List Read) :
    readLineAfter seen pending (.error details :: later) = (.error details, ⟨[], later⟩) := by
  rw [readLineAfter.eq_def, dropWhile_of_not_mem h]

/-- The part of a line that is at hand can as well have been seen before. -/
theorem readLineAfter_append (h : lineFeed ∉ pending) (more : Bytes) {ending : List Read}
    (ends : Over ending) :
    readLineAfter seen (pending ++ more) ending = readLineAfter (seen ++ pending) more ending := by
  rcases lineFeed_cases more with free | ⟨line, rest, free, rfl⟩
  · have whole : lineFeed ∉ pending ++ more := by
      rw [List.mem_append]
      exact not_or.2 ⟨h, free⟩
    cases ends with
    | ended => rw [readLineAfter_nil _ whole, readLineAfter_nil _ free, List.append_assoc]
    | failed details later =>
        rw [readLineAfter_error _ whole, readLineAfter_error _ free]
  · have whole : lineFeed ∉ pending ++ line := by
      rw [List.mem_append]
      exact not_or.2 ⟨h, free⟩
    rw [← List.append_assoc, readLineAfter_of_lineFeed _ whole, readLineAfter_of_lineFeed _ free,
      ← List.append_assoc seen]

/-- A line read piece by piece is the line of all bytes at hand, and what is left is the same. -/
theorem readLineAfter_reads (pending : Bytes) (reads : List Bytes) {ending : List Read}
    (ends : Over ending) :
    (readLineAfter seen pending (reads.map .ok ++ ending)).1 =
        (readLineAfter seen (pending ++ reads.flatten) ending).1 ∧
      ∀ line, (readLineAfter seen (pending ++ reads.flatten) ending).1 = .ok line →
        ∃ (left : Bytes) (later : List Bytes),
          (readLineAfter seen pending (reads.map .ok ++ ending)).2 =
            ⟨left, later.map .ok ++ ending⟩ ∧
          (readLineAfter seen (pending ++ reads.flatten) ending).2 =
            ⟨left ++ later.flatten, ending⟩ := by
  induction reads generalizing seen pending with
  | nil =>
      rw [List.flatten_nil, List.append_nil, List.map_nil, List.nil_append]
      refine ⟨rfl, fun line read => ?_⟩
      rcases lineFeed_cases pending with free | ⟨line, rest, free, rfl⟩
      · cases ends with
        | ended =>
            rw [readLineAfter_nil _ free]
            exact ⟨[], [], rfl, rfl⟩
        | failed details later =>
            rw [readLineAfter_error _ free] at read
            cases read
      · rw [readLineAfter_of_lineFeed _ free]
        exact ⟨rest, [], rfl, by simp⟩
  | cons bytes reads ih =>
      rcases lineFeed_cases pending with free | ⟨line, rest, free, rfl⟩
      · rw [List.map_cons, List.cons_append, readLineAfter_cons _ free, List.flatten_cons,
          readLineAfter_append _ free _ ends]
        exact ih (seen ++ pending) bytes
      · rw [List.append_assoc line, List.cons_append, readLineAfter_of_lineFeed _ free,
          readLineAfter_of_lineFeed _ free]
        exact ⟨rfl, fun _ _ => ⟨rest, bytes :: reads, rfl, rfl⟩⟩

end ReadLine

section Decode

variable {frame : List Char} {src s : Source} {bytes : Bytes}

theorem decodeAfter_of_failure {details : String} (h : readLine src = (.error details, s)) :
    decodeAfter frame src = [.error (readFailure details)] := by
  rw [decodeAfter]
  split
  · rename_i e
    rw [h] at e
    cases e
    rfl
  · rename_i e
    rw [h] at e
    cases e
  · rename_i e
    rw [h] at e
    cases e

theorem decodeAfter_of_end (h : readLine src = (.ok [], s)) :
    decodeAfter frame src = (Frame.parse frame).toList := by
  rw [decodeAfter]
  split
  · rename_i e
    rw [h] at e
    cases e
  · rfl
  · rename_i e
    rw [h] at e
    cases e

theorem decodeAfter_of_invalid (h : readLine src = (.ok bytes, s)) (full : bytes ≠ [])
    (invalid : Utf8.decode? bytes = none) :
    decodeAfter frame src = [.error (readFailure invalidUtf8)] := by
  rw [decodeAfter]
  split
  · rename_i e
    rw [h] at e
    cases e
  · rename_i e
    rw [h] at e
    cases e
    exact absurd rfl full
  · rename_i e
    rw [h] at e
    cases e
    rw [invalid]

theorem decodeAfter_of_line {line : List Char} (h : readLine src = (.ok bytes, s))
    (full : bytes ≠ []) (valid : Utf8.decode? bytes = some line) :
    decodeAfter frame src =
      if isBlankLine line then (Frame.parse frame).toList ++ decodeAfter [] s
      else decodeAfter (frame ++ line) s := by
  rw [decodeAfter]
  split
  · rename_i e
    rw [h] at e
    cases e
  · rename_i e
    rw [h] at e
    cases e
    exact absurd rfl full
  · rename_i e
    rw [h] at e
    cases e
    rw [valid]

/-- However the bytes are cut into reads, the events are those of all bytes together, whether the
source then ends or fails. -/
theorem decodeAfter_reads_append (frame : List Char) (pending : Bytes) (reads : List Bytes)
    {ending : List Read} (ends : Over ending) :
    decodeAfter frame ⟨pending, reads.map .ok ++ ending⟩ =
      decodeAfter frame ⟨pending ++ reads.flatten, ending⟩ := by
  induction size : (Source.mk pending (reads.map .ok ++ ending)).size using Nat.strongRecOn
    generalizing frame pending reads with
  | ind n ih =>
      obtain ⟨same, rest⟩ := readLineAfter_reads [] pending reads ends
      change (readLine ⟨pending, reads.map .ok ++ ending⟩).1 =
        (readLine ⟨pending ++ reads.flatten, ending⟩).1 at same
      change ∀ line, (readLine ⟨pending ++ reads.flatten, ending⟩).1 = .ok line →
        ∃ (left : Bytes) (later : List Bytes),
          (readLine ⟨pending, reads.map .ok ++ ending⟩).2 = ⟨left, later.map .ok ++ ending⟩ ∧
          (readLine ⟨pending ++ reads.flatten, ending⟩).2 = ⟨left ++ later.flatten, ending⟩ at rest
      generalize read : readLine ⟨pending, reads.map .ok ++ ending⟩ = piecewise at same rest
      generalize whole : readLine ⟨pending ++ reads.flatten, ending⟩ = together at same rest
      obtain ⟨line, s⟩ := piecewise
      obtain ⟨line', s'⟩ := together
      obtain rfl : line = line' := same
      rcases line with e | bytes
      · rw [decodeAfter_of_failure read, decodeAfter_of_failure whole]
      · obtain ⟨left, later, rfl, rfl⟩ := rest bytes rfl
        rcases bytes with _ | ⟨b, bytes⟩
        · rw [decodeAfter_of_end read, decodeAfter_of_end whole]
        · have smaller := size_readLine_lt read
          rw [size] at smaller
          cases valid : Utf8.decode? (b :: bytes) with
          | none =>
              rw [decodeAfter_of_invalid read (List.cons_ne_nil b bytes) valid,
                decodeAfter_of_invalid whole (List.cons_ne_nil b bytes) valid]
          | some line =>
              rw [decodeAfter_of_line read (List.cons_ne_nil b bytes) valid,
                decodeAfter_of_line whole (List.cons_ne_nil b bytes) valid,
                ih _ smaller [] left later rfl, ih _ smaller (frame ++ line) left later rfl]

/-- However the bytes are cut into reads, the events are those of all bytes together. -/
theorem decodeAfter_reads (frame : List Char) (pending : Bytes) (reads : List Bytes) :
    decodeAfter frame ⟨pending, reads.map .ok⟩ = decodeAfter frame ⟨pending ++ reads.flatten, []⟩ := by
  have all := decodeAfter_reads_append frame pending reads .ended
  rwa [List.append_nil] at all

end Decode

end ChatClient.Lined
