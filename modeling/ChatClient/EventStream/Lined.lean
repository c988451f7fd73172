import ChatClient.EventStream.Frame
import ChatClient.Text.Utf8

/-!
# Decoding line by line

The decoder reads a line at a time from a source that delivers bytes in reads. A line of nothing but
its end closes the frame before it. A line that is not UTF-8, or an error of the source, ends the
decoding with an error, and the frame that had begun is lost. At the end of the source what has been
read counts as a last frame.
-/

namespace ChatClient.Lined

open Utf8 (Bytes)

/-- What one read of a source delivers: bytes, which may be none, or the text of an error. -/
abbrev Read := Except String Bytes

/-- A source: the bytes read ahead, and the reads to come. -/
structure Source where
  pending : Bytes
  reads : List Read

/-- A line feed. -/
def lineFeed : UInt8 := 10

/-- The next line of a source with its line feed, after the bytes `seen` of it; an empty line is the
end of the source. -/
def readLineAfter (seen pending : Bytes) (reads : List Read) : Except String Bytes × Source :=
  match pending.dropWhile (· ≠ lineFeed) with
  | _ :: rest => (.ok (seen ++ pending.takeWhile (· ≠ lineFeed) ++ [lineFeed]), ⟨rest, reads⟩)
  | [] =>
      match reads with
      | [] => (.ok (seen ++ pending), ⟨[], []⟩)
      | .error e :: later => (.error e, ⟨[], later⟩)
      | .ok bytes :: later => readLineAfter (seen ++ pending) bytes later

/-- The next line of a source. -/
def readLine (s : Source) : Except String Bytes × Source := readLineAfter [] s.pending s.reads

/-- The number of bytes that a read delivers. -/
def readSize : Read → Nat
  | .ok bytes => bytes.length
  | .error _ => 0

/-- The number of bytes that a source will deliver. -/
def Source.size (s : Source) : Nat :=
  s.pending.length + s.reads.foldr (fun r n => readSize r + n) 0

theorem length_take_drop (p : UInt8 → Bool) (l : Bytes) :
    (l.takeWhile p).length + (l.dropWhile p).length = l.length := by
  rw [← List.length_append, List.takeWhile_append_dropWhile]

/-- A line takes its bytes from the source. -/
theorem size_readLineAfter {seen pending line : Bytes} {reads : List Read} {s : Source}
    (h : readLineAfter seen pending reads = (.ok line, s)) :
    s.size + line.length ≤ (Source.mk pending reads).size + seen.length := by
  induction reads generalizing seen pending with
  | nil =>
      unfold readLineAfter at h
      split at h
      · rename_i a rest hd
        simp only [Prod.mk.injEq, Except.ok.injEq] at h
        obtain ⟨rfl, rfl⟩ := h
        have hp := length_take_drop (· ≠ lineFeed) pending
        rw [hd] at hp
        simp [Source.size] at hp ⊢
        omega
      · simp only [Prod.mk.injEq, Except.ok.injEq] at h
        obtain ⟨rfl, rfl⟩ := h
        simp [Source.size]
        omega
  | cons r later ih =>
      unfold readLineAfter at h
      split at h
      · rename_i a rest hd
        simp only [Prod.mk.injEq, Except.ok.injEq] at h
        obtain ⟨rfl, rfl⟩ := h
        have hp := length_take_drop (· ≠ lineFeed) pending
        rw [hd] at hp
        simp [Source.size] at hp ⊢
        omega
      · cases r with
        | error e => simp at h
        | ok bytes =>
            have := ih h
            simp [Source.size, readSize] at this ⊢
            omega

/-- A line that is not empty makes the source smaller. -/
theorem size_readLine_lt {src s : Source} {b : UInt8} {bs : Bytes}
    (h : readLine src = (.ok (b :: bs), s)) : s.size < src.size := by
  have := size_readLineAfter h
  simp [Source.size, readSize] at this ⊢
  omega

/-- The error for a source that cannot be read on. -/
def readFailure (details : String) : Error :=
  .runtime "failed reading event stream" { details := some details, origin := some "sse_decoder" }

/-- The text of the error for a line that is not UTF-8. -/
def invalidUtf8 : String := "stream did not contain valid UTF-8"

/-- The line has nothing but its end. -/
def isBlankLine (line : List Char) : Bool := line.all fun c => c == '\r' || c == '\n'

/-- The events of a source after the lines in `frame`. -/
def decodeAfter (frame : List Char) (src : Source) : List Event :=
  match _h : readLine src with
  -- the lines in `frame` are lost
  | (.error details, _) => [.error (readFailure details)]
  | (.ok [], _) => (Frame.parse frame).toList
  | (.ok (b :: bs), s) =>
      match Utf8.decode? (b :: bs) with
      | none => [.error (readFailure invalidUtf8)]
      | some line =>
          if isBlankLine line then (Frame.parse frame).toList ++ decodeAfter [] s
          else decodeAfter (frame ++ line) s
termination_by src.size
decreasing_by
  · exact size_readLine_lt _h
  · exact size_readLine_lt _h

/-- The events of a source. -/
def decode (reads : List Read) : List Event := decodeAfter [] ⟨[], reads⟩

end ChatClient.Lined
