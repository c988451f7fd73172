import ChatClient.EventStream.Frame
import ChatClient.Text.Utf8

/-!
# Decoding chunks as they arrive

The decoder keeps the bytes that do not yet make up a frame. A frame ends at two line feeds, or at
two pairs of carriage return and line feed; the earlier of the two counts. A frame is decoded only
when all of it is there, so a character may be cut by the border of two chunks. At the end of the
input, or after an error of the input, what is left counts as a last frame.
-/

namespace ChatClient.Chunked

open Utf8 (Bytes)

/-- The complete frames of a byte sequence and the bytes after the last of them. `seen` holds the
bytes of the frame that has begun, last first. -/
def splitAfter (seen : Bytes) : Bytes → List Bytes × Bytes
  | 10 :: 10 :: r =>
      let s := splitAfter [] r
      (seen.reverse :: s.1, s.2)
  | 13 :: 10 :: 13 :: 10 :: r =>
      let s := splitAfter [] r
      (seen.reverse :: s.1, s.2)
  | b :: r => splitAfter (b :: seen) r
  | [] => ([], seen.reverse)

/-- The complete frames of a byte sequence and the bytes after the last of them. -/
def split (bytes : Bytes) : List Bytes × Bytes := splitAfter [] bytes

/-- What the bytes of a frame stand for. -/
def readFrame (frame : Bytes) : Option Event := Frame.parse (Utf8.decodeLossy frame)

/-- A part of the input: bytes, or the error that ends it. -/
abbrev Chunk := Except Error Bytes

/-- The events of an input after the bytes in the buffer. -/
def decodeAfter (buffer : Bytes) : List Chunk → List Event
  | [] => (readFrame buffer).toList
  -- what has arrived of a frame still counts
  | .error e :: _ => .error e :: (readFrame buffer).toList
  | .ok chunk :: rest =>
      let s := split (buffer ++ chunk)
      s.1.filterMap readFrame ++ decodeAfter s.2 rest

/-- The events of an input. -/
def decode (input : List Chunk) : List Event := decodeAfter [] input

end ChatClient.Chunked
