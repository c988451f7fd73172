import ChatClient.EventStream.Frame
import ChatClient.Proofs.Text.Utf8
import Mathlib.Data.List.Induction
import Mathlib.Data.List.TakeWhile

/-!
# Texts as lines

A text whose lines all end alike is written by `LineEnd.text`: lines, each with its end, and what
stands after the last end. A line is plain when it has no line feed and does not begin with a
carriage return (`Plain`); then no end can be mistaken for a part of a line, and the lines are found
again (`lines_text`).
-/

namespace ChatClient

namespace Text

/-! ## Pieces and trailing characters -/

theorem pieces_of_not_mem {sep : Char} {s : List Char} (h : sep ∉ s) : pieces sep s = [s] := by
  induction s with
  | nil => rfl
  | cons c s ih =>
      have other : c ≠ sep := fun e => h (e ▸ List.mem_cons_self)
      rw [pieces, if_neg other, ih fun m => h (List.mem_cons_of_mem c m)]

/-- The first separator ends the first piece. -/
theorem pieces_append_cons {sep : Char} {s : List Char} (h : sep ∉ s) (r : List Char) :
    pieces sep (s ++ sep :: r) = s :: pieces sep r := by
  induction s with
  | nil => rw [List.nil_append, pieces, if_pos rfl]
  | cons c s ih =>
      have other : c ≠ sep := fun e => h (e ▸ List.mem_cons_self)
      rw [List.cons_append, pieces, if_neg other, ih fun m => h (List.mem_cons_of_mem c m)]

/-- A separator divides the pieces. -/
theorem pieces_append (sep : Char) (s r : List Char) :
    pieces sep (s ++ sep :: r) = pieces sep s ++ pieces sep r := by
  induction s with
  | nil =>
      show pieces sep (sep :: r) = [] :: pieces sep r
      rw [pieces, if_pos rfl]
  | cons c s ih =>
      rw [List.cons_append, pieces, pieces]
      split
      · rw [ih, List.cons_append]
      · cases h : pieces sep s with
        | nil => exact absurd h (pieces_ne_nil sep s)
        | cons p ps => rw [ih, h, List.cons_append, List.cons_append]

/-- A piece has characters of the text, and no separator. -/
theorem mem_of_mem_pieces {sep c : Char} {s p : List Char} (hp : p ∈ pieces sep s) (hc : c ∈ p) :
    c ∈ s ∧ c ≠ sep := by
  induction s generalizing p with
  | nil =>
      rw [pieces, List.mem_singleton] at hp
      rw [hp] at hc
      cases hc
  | cons d s ih =>
      have later {q : List Char} (hq : q ∈ pieces sep s) (hc : c ∈ q) : c ∈ d :: s ∧ c ≠ sep :=
        ⟨List.mem_cons_of_mem d (ih hq hc).1, (ih hq hc).2⟩
      rw [pieces] at hp
      split at hp
      · rcases List.mem_cons.1 hp with rfl | hp
        · cases hc
        · exact later hp hc
      · rename_i other
        split at hp
        · rename_i none
          exact absurd none (pieces_ne_nil sep s)
        · rename_i q qs found
          rw [found] at later
          rcases List.mem_cons.1 hp with rfl | hp
          · rcases List.mem_cons.1 hc with rfl | hc
            · exact ⟨List.mem_cons_self, other⟩
            · exact later List.mem_cons_self hc
          · exact later (List.mem_cons_of_mem q hp) hc

theorem dropTrailing_cons_of_neg {p : Char → Bool} {c : Char} (s : List Char) (h : p c = false) :
    dropTrailing p (c :: s) = c :: dropTrailing p s := by
  induction s using List.reverseRecOn with
  | nil => exact dropTrailing_concat_of_neg [] h
  | append_singleton s d ih =>
      rw [← List.cons_append]
      cases hd : p d with
      | true => rw [dropTrailing_concat_of_pos _ hd, dropTrailing_concat_of_pos _ hd, ih]
      | false =>
          rw [dropTrailing_concat_of_neg _ hd, dropTrailing_concat_of_neg _ hd, List.cons_append]

theorem dropTrailing_of_forall_neg {p : Char → Bool} {s : List Char} (h : ∀ c ∈ s, p c = false) :
    dropTrailing p s = s := by
  rcases List.eq_nil_or_concat s with rfl | ⟨s, c, rfl⟩
  · rfl
  · rw [List.concat_eq_append] at h ⊢
    exact dropTrailing_concat_of_neg s (h c (by simp))

/-- Blanks around a text are trimmed away. -/
theorem trim_append {b r : List Char} (front : ∀ c ∈ b, isBlank c = true)
    (back : ∀ c ∈ r, isBlank c = true) (s : List Char) : trim (b ++ (s ++ r)) = trim s := by
  have behind (s : List Char) : trimEnd (s ++ r) = trimEnd s := by
    rw [trimEnd, dropTrailing, List.reverse_append, List.dropWhile_append_of_pos]
    · rfl
    · intro c hc
      exact back c (List.mem_reverse.1 hc)
  rw [trim, trimStart, List.dropWhile_append_of_pos front, List.dropWhile_append]
  split
  · next all =>
      have nothing : trimStart s = [] := List.isEmpty_iff.1 all
      rw [List.dropWhile_eq_nil_iff.2 back, trim, nothing]
  · exact behind _

/-- A text that neither begins nor ends with a blank is trimmed. -/
theorem trim_of_ends {s : List Char} (first : ∀ c ∈ s.head?, isBlank c = false)
    (last : ∀ c ∈ s.getLast?, isBlank c = false) : trim s = s := by
  have front : trimStart s = s := by
    cases s with
    | nil => rfl
    | cons c s => simp [trimStart, first c rfl]
  rcases List.eq_nil_or_concat s with rfl | ⟨q, c, rfl⟩
  · rfl
  · rw [trim, front, List.concat_eq_append]
    rw [List.concat_eq_append, List.getLast?_concat] at last
    exact dropTrailing_concat_of_neg q (last c rfl)

/-- A trimmed text does not end with a blank. -/
theorem isBlank_getLast?_of_trim {s : List Char} (trimmed : trim s = s) {c : Char}
    (last : s.getLast? = some c) : isBlank c = false := by
  have ends := List.head?_dropWhile_not isBlank (trimStart s).reverse
  rw [← List.head?_reverse, ← trimmed, trim, trimEnd, dropTrailing, List.reverse_reverse] at last
  rw [last] at ends
  exact ends

end Text

/-! ## Lines with their ends -/

/-- The way the lines of a text end. -/
inductive LineEnd where
  | lf
  | crlf
  deriving DecidableEq, Repr

namespace LineEnd

/-- The characters of a line end. -/
def chars : LineEnd → List Char
  | lf => ['\n']
  | crlf => ['\r', '\n']

/-- The bytes of a line end. -/
def bytes : LineEnd → Utf8.Bytes
  | lf => [10]
  | crlf => [13, 10]

theorem encode_chars (e : LineEnd) : Utf8.encode e.chars = e.bytes := by cases e <;> rfl

/-- Bytes of a text without line feeds have none. -/
theorem lf_not_mem_encode {s : List Char} (free : '\n' ∉ s) : 10 ∉ Utf8.encode s := by
  intro h
  exact free (Utf8.mem_of_mem_encode h (by decide))

/-- Lines, each with its end, and what stands after the last end. -/
def text (e : LineEnd) (lines : List (List Char)) (last : List Char) : List Char :=
  lines.flatMap (· ++ e.chars) ++ last

variable (e : LineEnd) (l : List Char) (ls ls' : List (List Char)) (last : List Char)

@[simp] theorem text_nil : e.text [] last = last := rfl

theorem text_cons : e.text (l :: ls) last = l ++ (e.chars ++ e.text ls last) := by
  simp [text]

theorem text_append : e.text (ls ++ ls') last = e.text ls (e.text ls' last) := by
  simp [text]

theorem text_concat : e.text (ls ++ [l]) last = e.text ls l ++ (e.chars ++ last) := by
  simp [text]

theorem head?_text_cons {l : List Char} (more : l ≠ []) :
    (e.text (l :: ls) last).head? = l.head? := by
  cases l with
  | nil => exact absurd rfl more
  | cons c l => rw [text_cons, List.cons_append, List.head?_cons, List.head?_cons]

theorem text_append_last : e.text ls [] ++ last = e.text ls last := by
  simp [text]

end LineEnd

/-- A line that no line end runs into: without line feeds, and not beginning with a carriage
return. -/
def Plain (line : List Char) : Prop := '\n' ∉ line ∧ line.head? ≠ some '\r'

instance (line : List Char) : Decidable (Plain line) := inferInstanceAs (Decidable (_ ∧ _))

namespace Plain

variable {line : List Char}

theorem nil : Plain [] := by decide

theorem head?_ne_lf (plain : Plain line) : line.head? ≠ some '\n' :=
  fun h => plain.1 (List.mem_of_mem_head? h)

theorem of_not_mem (lf : '\n' ∉ line) (cr : '\r' ∉ line) : Plain line :=
  ⟨lf, fun h => cr (List.mem_of_mem_head? h)⟩

end Plain

namespace Frame

/-- A line without the carriage returns at its end. -/
abbrev strip (line : List Char) : List Char := Text.dropTrailing (· == '\r') line

theorem strip_cons {c : Char} (line : List Char) (h : c ≠ '\r') :
    strip (c :: line) = c :: strip line :=
  Text.dropTrailing_cons_of_neg line (beq_false_of_ne h)

theorem strip_of_not_mem {line : List Char} (h : '\r' ∉ line) : strip line = line := by
  apply Text.dropTrailing_of_forall_neg
  intro c hc
  apply beq_false_of_ne
  rintro rfl
  exact h hc

/-- A plain line with characters keeps its first one. -/
theorem strip_eq_nil_iff {line : List Char} (plain : Plain line) : strip line = [] ↔ line = [] := by
  cases line with
  | nil => exact iff_of_true rfl rfl
  | cons c line =>
      have first : c ≠ '\r' := fun h => plain.2 (congrArg some h)
      rw [strip_cons line first]
      exact iff_of_false (List.cons_ne_nil _ _) (List.cons_ne_nil _ _)

/-- The lines of a text are the ones it was written from. -/
theorem lines_text (e : LineEnd) {ls : List (List Char)} {last : List Char}
    (plain : ∀ l ∈ ls, Plain l) (plain_last : Plain last) :
    lines (e.text ls last) = (ls ++ [last]).map strip := by
  unfold lines
  induction ls with
  | nil => rw [LineEnd.text_nil, Text.pieces_of_not_mem plain_last.1, List.nil_append]
  | cons l ls ih =>
      have here := (plain l List.mem_cons_self).1
      have ih := ih fun m hm => plain m (List.mem_cons_of_mem l hm)
      rw [LineEnd.text_cons, List.cons_append, List.map_cons, ← ih]
      cases e with
      | lf =>
          have cut := Text.pieces_append_cons here (LineEnd.lf.text ls last)
          rw [LineEnd.chars, List.singleton_append, cut, List.map_cons]
      | crlf =>
          -- the carriage return of the end is stripped with those of the line
          have free : '\n' ∉ l ++ ['\r'] := by
            rw [List.mem_append]
            exact not_or.2 ⟨here, by decide⟩
          have cut := Text.pieces_append_cons free (LineEnd.crlf.text ls last)
          rw [List.append_assoc, List.singleton_append] at cut
          rw [LineEnd.chars, List.cons_append, List.singleton_append, cut, List.map_cons, strip,
            Text.dropTrailing_concat_of_pos l rfl]

end Frame

end ChatClient
