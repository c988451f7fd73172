import ChatClient.Proofs.EventStream.Payloads
import ChatClient.Proofs.Text.EndedLines
import Mathlib.Data.List.Chain

/-!
# Frames line by line

A frame is a block of lines that a blank line closes; what stands after the last blank line is a frame
of its own. Which blank lines close a frame may depend on how they end and on how the line before them
ends (`Closing`).

The decoder of chunks looks for two line feeds and for two pairs of carriage return and line feed. It
so finds every blank line but one: that of a pair right after a bare line feed
(`Closing.unlessPairAfterFeed`). A blank line that it meets at the beginning of a frame closes nothing
and adds no data. The events are therefore those of the frames that all other blank lines close, for
all bytes (`Chunked.reading_split`). They are those of the frames that all blank lines close as long as
no line of the overlooked kind follows a line that is not blank (`Unmixed`,
`Chunked.decode_eq_frames`); where one does, the data before and after it are joined
(`Chunked.decode_of_pair_after_feed`).
-/

namespace ChatClient

open LineSigns (feed ret)
open Utf8 (Bytes encode)

/-- Which blank lines close a frame: told by the end of the line before, if there is one, and by the
end of the blank line. -/
abbrev Closing := Option LineEnd → LineEnd → Bool

namespace Closing

/-- Every blank line closes a frame. -/
def always : Closing := fun _ _ => true

/-- A blank line that ends in a pair closes no frame when the line before it ends in a bare line
feed. -/
def unlessPairAfterFeed : Closing
  | some .lf, .crlf => false
  | _, _ => true

end Closing

section Blocks

variable {α : Type}

/-- The blocks of lines that are closed, and the lines of the one that is left. `before` is the end of
the line before, and `block` the lines of the block that has begun. -/
def blocksAfter (closing : Closing) (before : Option LineEnd) (block : List (List α)) :
    List (List α × LineEnd) → List (List (List α)) × List (List α)
  | [] => ([], block)
  | (l, e) :: rest =>
      if l = [] ∧ closing before e = true then
        let b := blocksAfter closing (some e) [] rest
        (block :: b.1, b.2)
      else blocksAfter closing (some e) (block ++ [l]) rest

variable {closing : Closing} {before : Option LineEnd} {e : LineEnd} {block : List (List α)}
  {rest : List (List α × LineEnd)} {l : List α}

theorem blocksAfter_blank (closes : closing before e = true) :
    blocksAfter closing before block (([], e) :: rest) =
      (block :: (blocksAfter closing (some e) [] rest).1,
        (blocksAfter closing (some e) [] rest).2) := by
  rw [blocksAfter, if_pos ⟨rfl, closes⟩]

theorem blocksAfter_line (kept : ¬(l = [] ∧ closing before e = true)) :
    blocksAfter closing before block ((l, e) :: rest) =
      blocksAfter closing (some e) (block ++ [l]) rest := by
  rw [blocksAfter, if_neg kept]

/-- No blank line that ends in a pair comes right after a line with content that ends in a bare line
feed. -/
def Unmixed (ls : List (List α × LineEnd)) : Prop :=
  ls.IsChain fun p q => ¬(p.1 ≠ [] ∧ p.2 = .lf ∧ q = ([], .crlf))

instance [DecidableEq α] (ls : List (List α × LineEnd)) : Decidable (Unmixed ls) :=
  inferInstanceAs (Decidable (List.IsChain _ ls))

end Blocks

section Frames

variable {α : Type} [DecidableEq α] [LineSigns α]

/-- The frames of a text that are closed: their lines, each with a line feed. -/
def closedFrames (closing : Closing) (t : List α) : List (List α) :=
  (blocksAfter closing none [] (endedLines t)).1.map unlines

/-- The frame that the end of a text closes. -/
def lastFrame (closing : Closing) (t : List α) : List α :=
  unlines ((blocksAfter closing none [] (endedLines t)).2 ++ [lastLine t])

/-- The frames of a text. -/
def frames (closing : Closing) (t : List α) : List (List α) :=
  closedFrames closing t ++ [lastFrame closing t]

end Frames

/-! ## Encoded texts -/

theorem encode_eq_nil_iff {l : List Char} : encode l = [] ↔ l = [] := by
  refine ⟨fun h => ?_, fun h => h ▸ rfl⟩
  have back := Utf8.decode?_encode l
  rw [h] at back
  exact (Option.some.inj back).symm

theorem blocksAfter_encode (closing : Closing) (before : Option LineEnd)
    (block : List (List Char)) (rest : List (List Char × LineEnd)) :
    blocksAfter closing before (block.map encode) (rest.map (Prod.map encode id)) =
      ((blocksAfter closing before block rest).1.map (List.map encode),
        (blocksAfter closing before block rest).2.map encode) := by
  induction rest generalizing before block with
  | nil => rfl
  | cons line rest ih =>
      obtain ⟨l, e⟩ := line
      rw [List.map_cons, Prod.map_apply, id]
      -- a line is blank just if its bytes are none
      by_cases closes : l = [] ∧ closing before e = true
      · obtain ⟨rfl, closes⟩ := closes
        have later := ih (some e) []
        rw [List.map_nil] at later
        rw [Utf8.encode_nil, blocksAfter_blank closes, blocksAfter_blank closes, later]
        rfl
      · have later := ih (some e) (block ++ [l])
        rw [List.map_append, List.map_singleton] at later
        have closes' : ¬(encode l = [] ∧ closing before e = true) := by
          rintro ⟨blank, here⟩
          exact closes ⟨encode_eq_nil_iff.1 blank, here⟩
        rw [blocksAfter_line closes, blocksAfter_line closes', later]

/-- The frames of an encoded text are the encoded frames. -/
theorem frames_encode (closing : Closing) (t : List Char) :
    frames closing (encode t) = (frames closing t).map encode := by
  have blocks := blocksAfter_encode closing none [] (endedLines t)
  rw [List.map_nil, ← endedLines_encode] at blocks
  have closed : closedFrames closing (encode t) = (closedFrames closing t).map encode := by
    rw [closedFrames, blocks, closedFrames, List.map_map, List.map_map]
    exact List.map_congr_left fun block _ => unlines_map_encode block
  have last : lastFrame closing (encode t) = encode (lastFrame closing t) := by
    rw [lastFrame, blocks, lastFrame, ← unlines_map_encode, lastLine_encode, List.map_append,
      List.map_singleton]
  rw [frames, closed, last, frames, List.map_append, List.map_singleton]

theorem unmixed_encode {t : List Char} :
    Unmixed (endedLines (encode t)) ↔ Unmixed (endedLines t) := by
  rw [endedLines_encode, Unmixed, List.isChain_map, Unmixed]
  simp [Prod.ext_iff, encode_eq_nil_iff]

/-! ## The data of a frame -/

namespace Frame

/-- The data of a text as a frame. -/
def data (frame : List Char) : List (List Char) := (lines frame).filterMap dataOf

theorem parse_eq_data (frame : List Char) :
    parse frame = (payloadOf? (data frame)).map readPayload := parse_eq frame

/-- A line feed divides the data. -/
theorem data_append (s r : List Char) : data (s ++ '\n' :: r) = data s ++ data r := by
  rw [data, lines, Text.pieces_append, List.map_append, List.filterMap_append]
  rfl

/-- A carriage return at the end adds nothing. -/
theorem data_concat_ret (s : List Char) : data (s ++ ['\r']) = data s := by
  induction s using feed_induction with
  | last s free =>
      have free : '\n' ∉ s := free
      have free' : '\n' ∉ s ++ ['\r'] := by simpa using free
      rw [data, data, lines, lines, Text.pieces_of_not_mem free, Text.pieces_of_not_mem free',
        List.map_singleton, List.map_singleton, Text.dropTrailing_concat_of_pos s rfl]
  | line s r free ih =>
      change data ((s ++ '\n' :: r) ++ ['\r']) = data (s ++ '\n' :: r)
      rw [List.append_assoc, List.cons_append, data_append, data_append, ih]

end Frame

namespace Chunked

/-- The data of bytes as a frame. -/
def dataIn (frame : Bytes) : List (List Char) := Frame.data (Utf8.decodeLossy frame)

theorem readFrame_eq (frame : Bytes) :
    readFrame frame = (Frame.payloadOf? (dataIn frame)).map Frame.readPayload :=
  Frame.parse_eq_data _

theorem readFrame_of_dataIn_eq {f f' : Bytes} (same : dataIn f = dataIn f') :
    readFrame f = readFrame f' := by
  rw [readFrame_eq, readFrame_eq, same]

theorem dataIn_nil : dataIn [] = [] := by decide

theorem readFrame_of_no_data {f : Bytes} (blank : dataIn f = []) : readFrame f = none := by
  rw [readFrame_eq, blank, Frame.payloadOf?_nil]
  rfl

/-- The data of a frame are those of its lines, whatever bytes they have. -/
theorem dataIn_append (s r : Bytes) : dataIn (s ++ 10 :: r) = dataIn s ++ dataIn r := by
  rw [dataIn, Utf8.decodeLossy_append_ascii (by decide)]
  exact Frame.data_append _ _

theorem dataIn_concat_ret (s : Bytes) : dataIn (s ++ [13]) = dataIn s := by
  rw [dataIn, Utf8.decodeLossy_append_ascii (by decide)]
  exact Frame.data_concat_ret _

theorem dataIn_append_end (s : Bytes) (e : LineEnd) (r : Bytes) :
    dataIn (s ++ (e.bytes ++ r)) = dataIn s ++ dataIn r := by
  cases e with
  | lf => exact dataIn_append s r
  | crlf =>
      have all := dataIn_append (s ++ [13]) r
      rw [dataIn_concat_ret, List.append_assoc] at all
      exact all

theorem dataIn_unlines (block : List Bytes) : dataIn (unlines block) = block.flatMap dataIn := by
  induction block with
  | nil => exact dataIn_nil
  | cons l block ih =>
      rw [unlines_cons, List.flatMap_cons, ← ih]
      exact dataIn_append l _

/-! ## The decoder of chunks -/

section Splits

variable (seen : Bytes) {l t : Bytes} {e e' : LineEnd}

/-- A line goes to the frame. -/
theorem splitAfter_of_apart (apart : Apart l e) (r : Bytes) :
    splitAfter seen (l ++ (e.bytes ++ r)) = splitAfter (l.reverse ++ seen) (e.bytes ++ r) := by
  cases e with
  | crlf =>
      apply splitAfter_append seen apart.free
      intro r' h
      cases h
  | lf =>
      rcases l.eq_nil_or_concat with rfl | ⟨s, b, rfl⟩
      · rfl
      · -- the last byte is no carriage return, so that no end of a frame begins with it
        rw [List.concat_eq_append] at apart ⊢
        have free : (10 : UInt8) ∉ s ++ [b] := apart.free
        have last : b ≠ 13 := fun h => apart.ret_last rfl (by rw [List.getLast?_concat, h]; rfl)
        have before : (10 : UInt8) ∉ s := fun h => free (List.mem_append_left _ h)
        have other : b ≠ 10 := fun h => free (h ▸ List.mem_append_right _ List.mem_cons_self)
        rw [List.append_assoc, List.singleton_append, splitAfter_append seen before, splitAfter,
          List.reverse_append]
        · rfl
        · exact fun r' h _ => other h
        · exact fun r' h _ => last h
        · exact fun r' h => other (List.cons.inj h).1

/-- The end of a line goes to the frame unless a blank line follows. -/
theorem splitAfter_end {r : Bytes} (no_feed : r.head? ≠ some 10)
    (no_pair : e = .crlf → ∀ r', r ≠ 13 :: 10 :: r') :
    splitAfter seen (e.bytes ++ r) = splitAfter (e.bytes.reverse ++ seen) r := by
  -- neither of the two signs for a blank line begins with the line feed of this end
  have line_feed (seen : Bytes) : splitAfter seen (10 :: r) = splitAfter (10 :: seen) r := by
    rw [splitAfter]
    · intro r' _ hr
      exact no_feed (by rw [hr, List.head?_cons])
    · intro r' h
      cases h
  cases e with
  | lf => exact line_feed seen
  | crlf =>
      show splitAfter seen (13 :: 10 :: r) = splitAfter (10 :: 13 :: seen) r
      rw [splitAfter, line_feed]
      · intro r' h
        cases h
      · intro r' _ hr
        exact no_pair rfl r' (List.cons.inj hr).2

/-- A blank line that closes the frame. -/
theorem splitAfter_blank (closes : Closing.unlessPairAfterFeed (some e) e' = true) (r : Bytes) :
    ∃ frame, dataIn frame = dataIn seen.reverse ∧
      splitAfter seen (e.bytes ++ (e'.bytes ++ r)) = (frame :: (split r).1, (split r).2) := by
  cases e with
  | lf =>
      cases e' with
      | lf => exact ⟨_, rfl, rfl⟩
      | crlf => cases closes
  | crlf =>
      cases e' with
      | lf =>
          -- the carriage return stays with the frame
          refine ⟨(13 :: seen).reverse, ?_, rfl⟩
          rw [List.reverse_cons]
          exact dataIn_concat_ret _
      | crlf => exact ⟨_, rfl, rfl⟩

/-- Any other line goes to the frame, with the end of the line before it. -/
theorem splitAfter_line_after (apart : Apart l e')
    (kept : ¬(l = [] ∧ Closing.unlessPairAfterFeed (some e) e' = true)) (r : Bytes) :
    splitAfter seen (e.bytes ++ (l ++ (e'.bytes ++ r))) =
      splitAfter ((e.bytes ++ l).reverse ++ seen) (e'.bytes ++ r) := by
  have free : (10 : UInt8) ∉ l := apart.free
  rw [splitAfter_end, splitAfter_of_apart _ apart, List.reverse_append, List.append_assoc]
  · -- a line feed would be a blank line, which closes the frame
    cases l with
    | nil =>
        cases e' with
        | lf => cases e <;> exact absurd ⟨rfl, rfl⟩ kept
        | crlf =>
            intro h
            cases h
    | cons b l =>
        intro h
        cases h
        exact free List.mem_cons_self
  · -- so would a pair, and a carriage return before a bare line feed is not the last of a line
    rintro rfl r' h
    cases l with
    | nil => cases e' <;> exact absurd ⟨rfl, rfl⟩ kept
    | cons b l =>
        obtain ⟨rfl, tail⟩ : b = 13 ∧ l ++ (e'.bytes ++ r) = 10 :: r' := List.cons.inj h
        cases l with
        | nil =>
            cases e' with
            | lf => exact apart.ret_last rfl rfl
            | crlf => cases tail
        | cons b l =>
            obtain ⟨rfl, -⟩ : b = 10 ∧ l ++ (e'.bytes ++ r) = r' := List.cons.inj tail
            exact free (by simp)

theorem splitAfter_last (free : 10 ∉ t) : splitAfter seen t = ([], seen.reverse ++ t) := by
  have all := splitAfter_append (r := []) seen free (by intro r' h; cases h)
  rw [List.append_nil] at all
  rw [all, splitAfter, List.reverse_append, List.reverse_reverse]

theorem splitAfter_last_after (free : 10 ∉ t) :
    splitAfter seen (e.bytes ++ t) = ([], seen.reverse ++ (e.bytes ++ t)) := by
  rw [splitAfter_end, splitAfter_last _ free, List.reverse_append, List.reverse_reverse,
    List.append_assoc]
  · exact fun h => free (List.mem_of_mem_head? h)
  · rintro - r' rfl
    exact free (by simp)

end Splits

/-- The events of complete frames, and that of the bytes after them. -/
def reading (s : List Bytes × Bytes) : List Event × Option Event :=
  (s.1.filterMap readFrame, readFrame s.2)

theorem reading_fst (s : List Bytes × Bytes) : (reading s).1 = s.1.filterMap readFrame := rfl

theorem reading_snd (s : List Bytes × Bytes) : (reading s).2 = readFrame s.2 := rfl

theorem decode_chunks_eq_reading (chunks : List Bytes) :
    decode (chunks.map .ok) =
      (reading (split chunks.flatten)).1 ++ (reading (split chunks.flatten)).2.toList := by
  rw [decode_eq_eventsAfter, eventsAfter, reading, split]

/-- The events of closed blocks, and that of the block that is left with the last line. -/
def readingBlocks (b : List (List Bytes) × List Bytes) (last : Bytes) :
    List Event × Option Event :=
  reading (b.1.map unlines, unlines (b.2 ++ [last]))

theorem reading_cons {f f' : Bytes} (same : dataIn f = dataIn f') {s s' : List Bytes × Bytes}
    (rest : reading s = reading s') : reading (f :: s.1, s.2) = reading (f' :: s'.1, s'.2) := by
  obtain ⟨closed, left⟩ := Prod.mk.inj rest
  rw [reading, reading, filterMap_readFrame_cons, filterMap_readFrame_cons,
    readFrame_of_dataIn_eq same, closed, left]

/-- A block without data is as good as none. -/
theorem reading_cons_of_no_data {f : Bytes} (blank : dataIn f = []) (s : List Bytes × Bytes) :
    reading (f :: s.1, s.2) = reading s := by
  rw [reading, reading, filterMap_readFrame_cons, readFrame_of_no_data blank]
  rfl

theorem reading_last {f : Bytes} {block : List Bytes} {t : Bytes}
    (same : dataIn f = block.flatMap dataIn ++ dataIn t) :
    reading ([], f) = readingBlocks ([], block) t := by
  have data : dataIn f = dataIn (unlines (block ++ [t])) := by
    rw [dataIn_unlines, List.flatMap_append, List.flatMap_singleton, same]
  rw [readingBlocks, reading, reading, readFrame_of_dataIn_eq data]
  rfl

/-- At the beginning of a frame a block may have begun, as long as it has no data; after a line the
data of the frame are those of the block. -/
theorem reading_splitAfter (b : Bytes) :
    (∀ before block, block.flatMap dataIn = [] →
      reading (split b) =
        readingBlocks (blocksAfter .unlessPairAfterFeed before block (endedLines b))
          (lastLine b)) ∧
    ∀ (seen : Bytes) (e : LineEnd) (block : List Bytes),
      dataIn seen.reverse = block.flatMap dataIn →
      reading (splitAfter seen (e.bytes ++ b)) =
        readingBlocks (blocksAfter .unlessPairAfterFeed (some e) block (endedLines b))
          (lastLine b) := by
  -- the two states are proved together, as each line leads from one to the other
  induction b using lines_induction with
  | last t free =>
      rw [endedLines_of_not_mem free, lastLine_of_not_mem free]
      constructor
      · intro before block blank
        rw [split, splitAfter_last _ free]
        apply reading_last
        rw [blank]
        rfl
      · intro seen e block same
        rw [splitAfter_last_after _ free]
        apply reading_last
        rw [dataIn_append_end, same]
  | line l e r apart ih =>
      obtain ⟨fresh, after⟩ := ih
      rw [endedLines_line apart, lastLine_line, LineEnd.signs_byte]
      constructor
      · intro before block blank
        rw [split, splitAfter_of_apart _ apart]
        by_cases closes : l = [] ∧ Closing.unlessPairAfterFeed before e = true
        · obtain ⟨rfl, closes⟩ := closes
          -- the reference closes a block without data; the decoder keeps the line end for the frame
          rw [blocksAfter_blank closes]
          have rest := after [] e [] rfl
          have unseen : dataIn (unlines block) = [] := by rw [dataIn_unlines, blank]
          exact rest.trans (reading_cons_of_no_data unseen _).symm
        · rw [blocksAfter_line closes]
          apply after
          rw [List.append_nil, List.reverse_reverse, List.flatMap_append, blank,
            List.flatMap_singleton]
          rfl
      · intro seen e' block same
        by_cases closes : l = [] ∧ Closing.unlessPairAfterFeed (some e') e = true
        · obtain ⟨rfl, closes⟩ := closes
          -- both close, on frames that need not have the same bytes but have the same data
          obtain ⟨frame, data, cut⟩ := splitAfter_blank seen closes r
          rw [List.nil_append, cut, blocksAfter_blank closes]
          have unseen : dataIn frame = dataIn (unlines block) := by
            rw [data, same, dataIn_unlines]
          exact reading_cons unseen (fresh (some e) [] rfl)
        · rw [blocksAfter_line closes, splitAfter_line_after seen apart closes]
          apply after
          rw [List.reverse_append, List.reverse_reverse, dataIn_append_end, same,
            List.flatMap_append, List.flatMap_singleton]

/-- The decoder of chunks reads the frames that all blank lines close but those of a pair after a bare
line feed. -/
theorem reading_split (b : Bytes) :
    reading (split b) =
      reading (closedFrames .unlessPairAfterFeed b, lastFrame .unlessPairAfterFeed b) :=
  (reading_splitAfter b).1 none [] rfl

/-- A blank line of a pair after a bare line feed makes no difference to a block without data. -/
theorem readingBlocks_of_unmixed {rest : List (List UInt8 × LineEnd)} (unmixed : Unmixed rest)
    (before : Option LineEnd) {block block' : List Bytes}
    (same : block.flatMap dataIn = block'.flatMap dataIn)
    (quiet : before = some .lf → block.flatMap dataIn = [] ∨ rest.head? ≠ some ([], .crlf))
    (last : Bytes) :
    readingBlocks (blocksAfter .unlessPairAfterFeed before block rest) last =
      readingBlocks (blocksAfter .always before block' rest) last := by
  induction rest generalizing before block block' with
  | nil =>
      apply reading_last
      rw [blocksAfter, dataIn_unlines, List.flatMap_append, List.flatMap_singleton, same]
  | cons line rest ih =>
      obtain ⟨l, e⟩ := line
      obtain ⟨next, later⟩ := List.isChain_cons.1 unmixed
      by_cases blank : l = []
      · subst blank
        by_cases closes : Closing.unlessPairAfterFeed before e = true
        · rw [blocksAfter_blank closes, blocksAfter_blank rfl]
          have closed : dataIn (unlines block) = dataIn (unlines block') := by
            rw [dataIn_unlines, dataIn_unlines, same]
          exact reading_cons closed (ih later (some e) rfl fun _ => .inl rfl)
        · -- a pair after a bare line feed: with `always` the block is closed, else it goes on, and it has
          -- no data in either case
          obtain ⟨rfl, rfl⟩ : before = some .lf ∧ e = .crlf := by
            rcases before with _ | _ | _ <;> cases e <;>
              first | exact ⟨rfl, rfl⟩ | exact absurd rfl closes
          have no_data : block'.flatMap dataIn = [] :=
            same.symm.trans ((quiet rfl).resolve_right fun h => h rfl)
          have goes_on : (block ++ [[]]).flatMap dataIn = ([] : List Bytes).flatMap dataIn := by
            rw [List.flatMap_append, same, no_data]
            rfl
          have closed : dataIn (unlines block') = [] := by rw [dataIn_unlines, no_data]
          rw [blocksAfter_line fun h => closes h.2, blocksAfter_blank rfl]
          exact (ih later (some .crlf) goes_on fun h => by cases h).trans
            (reading_cons_of_no_data closed _).symm
      · -- a line with content; by `unmixed` no pair of the kind above comes next
        have line : (block ++ [l]).flatMap dataIn = (block' ++ [l]).flatMap dataIn := by
          rw [List.flatMap_append, List.flatMap_append, same]
        rw [blocksAfter_line fun h => blank h.1, blocksAfter_line fun h => blank h.1]
        apply ih later (some e) line
        intro h
        right
        intro pair
        exact next _ pair ⟨blank, Option.some.inj h, rfl⟩

/-- The events of frames that are closed and of the one that is left. -/
theorem filterMap_readFrame_frames (closing : Closing) (b : Bytes) :
    (frames closing b).filterMap readFrame =
      (reading (closedFrames closing b, lastFrame closing b)).1 ++
        (reading (closedFrames closing b, lastFrame closing b)).2.toList := by
  rw [frames, List.filterMap_append, reading]
  cases h : readFrame (lastFrame closing b) with
  | none => rw [List.filterMap_cons_none h]; rfl
  | some event => rw [List.filterMap_cons_some h]; rfl

theorem decode_chunks_eq_frames (chunks : List Bytes) :
    decode (chunks.map .ok) = (frames .unlessPairAfterFeed chunks.flatten).filterMap readFrame := by
  rw [decode_chunks_eq_reading, filterMap_readFrame_frames, ← reading_split]

/-- Where no blank line is overlooked, all of them close. -/
theorem decode_chunks_of_unmixed {chunks : List Bytes}
    (unmixed : Unmixed (endedLines chunks.flatten)) :
    decode (chunks.map .ok) = (frames .always chunks.flatten).filterMap readFrame := by
  have same : reading (closedFrames .unlessPairAfterFeed chunks.flatten,
      lastFrame .unlessPairAfterFeed chunks.flatten) =
        reading (closedFrames .always chunks.flatten, lastFrame .always chunks.flatten) :=
    readingBlocks_of_unmixed unmixed none rfl (fun h => by cases h) _
  rw [decode_chunks_eq_frames, filterMap_readFrame_frames, filterMap_readFrame_frames, same]

theorem filterMap_readFrame_encode (closing : Closing) (t : List Char) :
    (frames closing (encode t)).filterMap readFrame = (frames closing t).filterMap Frame.parse := by
  have same : readFrame ∘ encode = Frame.parse := funext readFrame_encode
  rw [frames_encode, List.filterMap_map, same]

/-- On a text whose lines end in either way, the decoder of chunks reads the frames that the blank
lines close, but for a blank line of a pair right after a bare line feed; where none of these comes
after a line with content, it reads the frames that all blank lines close. -/
theorem decode_eq_frames {b : Bytes} {t : List Char} (valid : Utf8.decode? b = some t)
    {chunks : List Bytes} (cut : chunks.flatten = b) :
    decode (chunks.map .ok) = (frames .unlessPairAfterFeed t).filterMap Frame.parse ∧
      (Unmixed (endedLines t) →
        decode (chunks.map .ok) = (frames .always t).filterMap Frame.parse) := by
  have text : chunks.flatten = encode t := cut.trans (Utf8.eq_encode_of_decode? valid)
  constructor
  · rw [decode_chunks_eq_frames, text, filterMap_readFrame_encode]
  · intro unmixed
    rw [← unmixed_encode, ← text] at unmixed
    rw [decode_chunks_of_unmixed unmixed, text, filterMap_readFrame_encode]

/-- A blank line at the beginning, pairs and line feeds in turns, too many blank lines, a cut within
an end, and a last frame without an end. -/
theorem decode_of_ends_in_turns :
    let t := "\r\ndata: 1\r\n\ndata: 2\n\n\r\n: idle\r\ndata: 3\r\n\r\n\ndata: 4".toList
    let b := encode t
    let chunks := [b.take 11, b.drop 11]
    Utf8.decode? b = some t ∧ chunks.flatten = b ∧ Unmixed (endedLines t) ∧
      decode (chunks.map .ok) = (frames .unlessPairAfterFeed t).filterMap Frame.parse ∧
      decode (chunks.map .ok) = (frames .always t).filterMap Frame.parse ∧
      (frames .always t).filterMap Frame.parse =
        [.ok (.number (.int 1)), .ok (.number (.int 2)), .ok (.number (.int 3)),
          .ok (.number (.int 4))] := by
  intro t b chunks
  have valid : Utf8.decode? b = some t := Utf8.decode?_encode t
  have cut : chunks.flatten = b := by decide +kernel
  have unmixed : Unmixed (endedLines t) := by decide +kernel
  have reads := decode_eq_frames valid cut
  exact ⟨valid, cut, unmixed, reads.1, reads.2 unmixed, by decide +kernel⟩

/-- A blank line of a pair after a bare line feed is overlooked: the data before it and after it are
one payload, which is no JSON. -/
theorem decode_of_pair_after_feed :
    let t := "data: 1\n\r\ndata: 2\n\n".toList
    decode [.ok (encode t)] = [.error (Frame.notJson "1\n2".toList)] ∧
      (frames .always t).filterMap Frame.parse =
        [.ok (.number (.int 1)), .ok (.number (.int 2))] := by
  decide +kernel

end Chunked

end ChatClient
