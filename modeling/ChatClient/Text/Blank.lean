/-!
# Blank characters and trimming

Blank characters are those with the Unicode property `White_Space`. Trimming removes them from the
ends of a text and leaves the middle alone. The other functions cut a text at a separator and join
the pieces again (`join_pieces`), drop a run of characters at its end, and fold ASCII capitals.

Texts are character lists here; the `String` forms convert at the border.
-/

namespace ChatClient.Text

/-- The Unicode property `White_Space`. -/
def isBlank (c : Char) : Bool :=
  let n := c.toNat
  (9 ≤ n && n ≤ 13) || n == 0x20 || n == 0x85 || n == 0xA0 || n == 0x1680 ||
    (0x2000 ≤ n && n ≤ 0x200A) || n == 0x2028 || n == 0x2029 || n == 0x202F || n == 0x205F ||
    n == 0x3000

/-- Core's ASCII white space is blank. -/
theorem isBlank_of_isWhitespace {c : Char} (h : c.isWhitespace = true) : isBlank c = true := by
  simp only [Char.isWhitespace, Bool.or_eq_true, decide_eq_true_eq] at h
  rcases h with ((rfl | rfl) | rfl) | rfl <;> decide

/-- The text without the run of characters at its end that satisfy `p`. -/
def dropTrailing (p : Char → Bool) (s : List Char) : List Char :=
  (s.reverse.dropWhile p).reverse

/-- The text without the blank characters at its start. -/
def trimStart (s : List Char) : List Char := s.dropWhile isBlank

/-- The text without the blank characters at its end. -/
def trimEnd (s : List Char) : List Char := dropTrailing isBlank s

/-- The text without the blank characters at its two ends. -/
def trim (s : List Char) : List Char := trimEnd (trimStart s)

theorem trim_nil : trim [] = [] := rfl

theorem dropTrailing_nil (p : Char → Bool) : dropTrailing p [] = [] := rfl

/-- A last character that does not satisfy `p` ends the text after the cut. -/
theorem dropTrailing_concat_of_neg {p : Char → Bool} {c : Char} (s : List Char) (h : p c = false) :
    dropTrailing p (s ++ [c]) = s ++ [c] := by
  simp [dropTrailing, h]

/-- A last character that satisfies `p` is dropped. -/
theorem dropTrailing_concat_of_pos {p : Char → Bool} {c : Char} (s : List Char) (h : p c = true) :
    dropTrailing p (s ++ [c]) = dropTrailing p s := by
  simp [dropTrailing, h]

/-- The pieces of a text between the occurrences of `sep`; always at least one piece. -/
def pieces (sep : Char) : List Char → List (List Char)
  | [] => [[]]
  | c :: r =>
      if c = sep then [] :: pieces sep r
      else
        match pieces sep r with
        | [] => [[c]]
        | p :: ps => (c :: p) :: ps

theorem pieces_ne_nil (sep : Char) (s : List Char) : pieces sep s ≠ [] := by
  cases s with
  | nil => simp [pieces]
  | cons c r =>
      rw [pieces]
      split
      · simp
      · split <;> simp

/-- The texts joined with one separator between neighbours. -/
def join (sep : Char) : List (List Char) → List Char
  | [] => []
  | [p] => p
  | p :: ps => p ++ sep :: join sep ps

/-- Joining the pieces gives the text back. -/
theorem join_pieces (sep : Char) (s : List Char) : join sep (pieces sep s) = s := by
  induction s with
  | nil => rfl
  | cons c r ih =>
      rw [pieces]
      split
      · rename_i h
        cases hp : pieces sep r with
        | nil => exact absurd hp (pieces_ne_nil sep r)
        | cons p ps => rw [hp] at ih; simp [join, ih, h]
      · split
        · rename_i hp
          exact absurd hp (pieces_ne_nil sep r)
        · rename_i p ps hp
          rw [hp] at ih
          cases ps with
          | nil => simpa [join] using ih
          | cons q qs => simpa [join] using ih

/-- ASCII capitals become small letters; all other characters stay. -/
def lowerAscii (s : List Char) : List Char := s.map Char.toLower

end ChatClient.Text

namespace ChatClient

/-- The text without the blank characters at its two ends. -/
def trimBlank (s : String) : String := String.ofList (Text.trim s.toList)

/-- The text without the slashes at its end. -/
def dropTrailingSlashes (s : String) : String :=
  String.ofList (Text.dropTrailing (· == '/') s.toList)

/-- The text without the slashes at its start. -/
def dropLeadingSlashes (s : String) : String := String.ofList (s.toList.dropWhile (· == '/'))

end ChatClient
