import ChatClient.Json.Raw
import ChatClient.Proofs.Text.Lines
import Mathlib.Data.List.TakeWhile

/-!
# What the JSON reader takes

The reader of a value takes characters from the start of a text and leaves the rest. What it takes
says by itself where the value ends: before another rest it takes the same characters and finds the
same value, if the two rests begin alike (`Raw.Similar`) or the other rest is empty. Numbers need the
condition, for a digit after a number would belong to it.

Each reader has a lemma of this kind. The readers of numbers are composed (`NumberLexeme.Local.bind`,
`NumberLexeme.read_local`); strings go by the recursion of their reader (`Raw.readString_local`);
values, items and members go together, by induction on their fuel (`Raw.takes_of_fuel`), where
`Raw.Value` and `Raw.Member` say what one call of a reader finds. It follows that the blanks around a
value can be trimmed away (`Raw.read?_trim`).
-/

namespace ChatClient

namespace Raw

/-- What may stand in the place of a rest without a reader noticing: nothing at all, or a rest that
begins with the same character. -/
inductive Similar : List Char → List Char → Prop
  | ended (r : List Char) : Similar r []
  | same (c : Char) (r r' : List Char) : Similar (c :: r) (c :: r')

theorem Similar.append {r r' : List Char} (h : Similar r r') (p : List Char) :
    Similar (p ++ r) (p ++ r') := by
  cases p with
  | nil => exact h
  | cons c p => exact .same c _ _

/-- What holds of the first character still holds of it. -/
theorem Similar.head {P : Char → Prop} {r r' : List Char} (h : Similar r r')
    (first : ∀ c ∈ r.head?, P c) : ∀ c ∈ r'.head?, P c := by
  cases h with
  | ended => exact fun c hc => nomatch hc
  | same => exact first

end Raw

namespace NumberLexeme

open Raw (Similar)

/-! ## Numbers -/

/-- The characters that numbers are written with. -/
def isNumeral (c : Char) : Bool :=
  Reading.isDigit c || c == '-' || c == '+' || c == '.' || c == 'e' || c == 'E'

/-- A reader takes numerals only, and takes the same before every rest that begins alike. -/
def Local {α : Type} (read : List Char → Option (α × List Char)) : Prop :=
  ∀ s a r, read s = some (a, r) →
    ∃ p, s = p ++ r ∧ (∀ c ∈ p, isNumeral c = true) ∧
      ∀ r', Similar r r' → read (p ++ r') = some (a, r')

theorem Local.bind {α β : Type} {f : List Char → Option (α × List Char)}
    {g : α → List Char → Option (β × List Char)} (first : Local f) (second : ∀ a, Local (g a)) :
    Local fun s => (f s).bind fun x => g x.1 x.2 := by
  intro s b r h
  obtain ⟨⟨a, r₁⟩, read, later⟩ := Option.bind_eq_some_iff.1 h
  obtain ⟨p, rfl, numerals, again⟩ := first s a r₁ read
  obtain ⟨q, rfl, numerals', again'⟩ := second a r₁ b r later
  refine ⟨p ++ q, (List.append_assoc p q r).symm, ?_, ?_⟩
  · exact List.forall_mem_append.2 ⟨numerals, numerals'⟩
  · intro r' similar
    show (f (p ++ q ++ r')).bind _ = _
    rw [List.append_assoc, again _ (similar.append q), Option.bind_some]
    exact again' r' similar

/-- Digits are taken up to the first character that is none. -/
theorem readDigits_local (s : List Char) :
    ∃ p, s = p ++ (readDigits s).2 ∧ (∀ c ∈ p, isNumeral c = true) ∧
      ∀ r', Similar (readDigits s).2 r' → readDigits (p ++ r') = ((readDigits s).1, r') := by
  induction s with
  | nil =>
      refine ⟨[], rfl, List.forall_mem_nil _, ?_⟩
      intro r' similar
      cases similar
      rfl
  | cons c s ih =>
      cases digit : Reading.digit? c with
      | none =>
          simp only [readDigits, digit]
          refine ⟨[], rfl, List.forall_mem_nil _, ?_⟩
          intro r' similar
          cases similar with
          | ended => rfl
          | same => rw [List.nil_append, readDigits, digit]
      | some d =>
          obtain ⟨p, split, numerals, again⟩ := ih
          have numeral : isNumeral c = true := by simp [isNumeral, Reading.isDigit, digit]
          simp only [readDigits, digit]
          refine ⟨c :: p, congrArg (c :: ·) split, List.forall_mem_cons.2 ⟨numeral, numerals⟩, ?_⟩
          intro r' similar
          rw [List.cons_append, readDigits, digit, again r' similar]

/-- A reader that judges a run of digits. -/
theorem Local.of_digits {α : Type} {read : List Char → Option (α × List Char)}
    (judge : List Nat → Option α)
    (eq : ∀ s, read s = (judge (readDigits s).1).map fun a => (a, (readDigits s).2)) :
    Local read := by
  intro s a r h
  rw [eq] at h
  obtain ⟨found, judged, h⟩ := Option.map_eq_some_iff.1 h
  obtain ⟨rfl, rfl⟩ := Prod.mk.inj h
  obtain ⟨p, split, numerals, again⟩ := readDigits_local s
  refine ⟨p, split, numerals, ?_⟩
  intro r' similar
  rw [eq, again r' similar, judged, Option.map_some]

theorem readWhole_local : Local readWhole := by
  apply Local.of_digits fun ds =>
    if ds = [] ∨ ds.head? = some 0 ∧ 1 < ds.length then none else some ds
  intro s
  rw [readWhole]
  rcases readDigits s with ⟨_ | ⟨_ | d, _ | ⟨e, ds⟩⟩, r⟩
  all_goals rfl

theorem Local.pure {α : Type} (a : α) : Local fun s => some (a, s) := by
  intro s a' r h
  cases h
  exact ⟨[], rfl, List.forall_mem_nil _, fun _ _ => rfl⟩

/-- A reader that looks at the first character to choose between two others. -/
theorem Local.branch {α : Type} {read other : List Char → Option (α × List Char)}
    {after : Char → List Char → Option (α × List Char)} (P : Char → Prop)
    (numeral : ∀ c, P c → isNumeral c = true) (first : ∀ c, Local (after c)) (none : Local other)
    (yes : ∀ c s, P c → read (c :: s) = after c s)
    (no : ∀ s, (∀ c ∈ s.head?, ¬P c) → read s = other s) : Local read := by
  intro s a r h
  by_cases head : ∀ c ∈ s.head?, ¬P c
  · rw [no s head] at h
    obtain ⟨p, rfl, numerals, again⟩ := none s a r h
    refine ⟨p, rfl, numerals, ?_⟩
    intro r' similar
    rw [no _ ((similar.append p).head head)]
    exact again r' similar
  · cases s with
    | nil => exact absurd (fun c hc => nomatch hc) head
    | cons c s =>
        have here : P c := by simpa using head
        rw [yes c s here] at h
        obtain ⟨p, rfl, numerals, again⟩ := first c s a r h
        refine ⟨c :: p, rfl, List.forall_mem_cons.2 ⟨numeral c here, numerals⟩, ?_⟩
        intro r' similar
        rw [List.cons_append, yes c _ here]
        exact again r' similar

theorem readFraction_local : Local readFraction := by
  apply Local.branch (· = '.')
  · rintro c rfl
    decide
  · intro c
    show Local fun s => readFraction ('.' :: s)
    apply Local.of_digits fun ds => if ds = [] then none else some (some ds)
    intro s
    rw [readFraction]
    rcases readDigits s with ⟨_ | ⟨d, ds⟩, r⟩
    all_goals rfl
  · exact Local.pure none
  · rintro c s rfl
    rfl
  · intro s other
    rw [readFraction]
    rintro r rfl
    exact other '.' rfl rfl

theorem readExponentDigits_local (negative : Bool) : Local (readExponentDigits negative) := by
  apply Local.of_digits fun ds =>
    if ds = [] then none else some (some (if negative then -(natural ds : Int) else natural ds))
  intro s
  rw [readExponentDigits]
  rcases readDigits s with ⟨_ | ⟨d, ds⟩, r⟩
  all_goals rfl

theorem readExponent_local : Local readExponent := by
  have sign : Local fun s => readExponent ('e' :: s) := by
    apply Local.branch (fun c => c = '+' ∨ c = '-')
    · rintro c (rfl | rfl)
      all_goals decide
    · exact fun c => readExponentDigits_local (c == '-')
    · exact readExponentDigits_local false
    · rintro c s (rfl | rfl)
      all_goals rfl
    · intro s other
      rw [readExponent, if_pos (.inl rfl)]
      · rintro r rfl
        exact other '+' rfl (.inl rfl)
      · rintro r rfl
        exact other '-' rfl (.inr rfl)
  apply Local.branch (fun c => c = 'e' ∨ c = 'E')
  · rintro c (rfl | rfl)
    all_goals decide
  · exact fun c => sign
  · exact Local.pure none
  · rintro c s (rfl | rfl)
    all_goals rfl
  · intro s other
    cases s with
    | nil => rfl
    | cons c s =>
        unfold readExponent
        exact if_neg (other c rfl)

theorem read_local : Local read := by
  have unsigned (negative : Bool) : Local fun s =>
      (readWhole s).bind fun x => (readFraction x.2).bind fun y => (readExponent y.2).bind fun z =>
        some ((⟨negative, x.1, y.1, z.1⟩ : NumberLexeme), z.2) :=
    readWhole_local.bind fun whole => readFraction_local.bind fun fraction =>
      readExponent_local.bind fun exponent =>
        Local.pure (⟨negative, whole, fraction, exponent⟩ : NumberLexeme)
  apply Local.branch (· = '-')
  · rintro c rfl
    decide
  · exact fun c => unsigned true
  · exact unsigned false
  · rintro c s rfl
    rfl
  · intro s other
    rw [read]
    · rfl
    · rintro r rfl
      exact other '-' rfl rfl

/-- A number begins with a numeral. -/
theorem head_of_read {s r : List Char} {l : NumberLexeme} (h : read s = some (l, r)) :
    ∀ c ∈ s.head?, isNumeral c = true := by
  obtain ⟨p, rfl, numerals, again⟩ := read_local s l r h
  cases p with
  | nil => cases again [] (.ended r)
  | cons c p =>
      rintro c ⟨⟩
      exact numerals c List.mem_cons_self

/-- No numeral is a blank. -/
theorem not_blank_of_isNumeral {c : Char} (h : isNumeral c = true) : Text.isBlank c = false := by
  simp only [isNumeral, Bool.or_eq_true, beq_iff_eq] at h
  rcases h with ((((h | rfl) | rfl) | rfl) | rfl) | rfl
  · have digit : '0' ≤ c ∧ c ≤ '9' := by
      by_contra other
      simp [Reading.isDigit, Reading.digit?, other] at h
    have low : 48 ≤ c.toNat := digit.1
    have high : c.toNat ≤ 57 := digit.2
    simp [Text.isBlank]
    omega
  all_goals rfl

end NumberLexeme

namespace Raw

/-! ## Strings -/

theorem lowSurrogate?_eq_some_iff {s : List Char} {n : Nat} :
    lowSurrogate? s = some n ↔ ∃ a b c d r, s = ['\\', 'u', a, b, c, d] ++ r ∧
      hex4? a b c d = some n ∧ isLowSurrogate n = true := by
  constructor
  · intro h
    unfold lowSurrogate? at h
    split at h
    · next a b c d r => exact ⟨a, b, c, d, r, rfl, Option.filter_eq_some_iff.1 h⟩
    · cases h
  · rintro ⟨a, b, c, d, r, rfl, h⟩
    exact Option.filter_eq_some_iff.2 h

theorem quote_not_mem_of_hex4? {a b c d : Char} {n : Nat} (h : hex4? a b c d = some n) :
    '"' ∉ ['\\', 'u', a, b, c, d] := by
  have no_digit : Reading.hexDigit? '"' = none := by decide
  intro quote
  simp only [List.mem_cons, List.not_mem_nil, or_false] at quote
  rcases quote with quote | quote | rfl | rfl | rfl | rfl
  · cases quote
  · cases quote
  all_goals simp [hex4?, no_digit] at h

/-- A list without a sign ends before the sign. -/
theorem exists_append_of_not_mem {α : Type} {x : α} {p q r t : List α}
    (h : q ++ t = p ++ x :: r) (free : x ∉ q) : ∃ u, p = q ++ u := by
  rcases List.append_eq_append_iff.1 h with ⟨u, rfl, -⟩ | ⟨u, rfl, later⟩
  · exact ⟨u, rfl⟩
  · cases u with
    | nil => exact ⟨[], by simp⟩
    | cons y u =>
        obtain ⟨rfl, -⟩ := List.cons.inj later
        simp at free

/-- The second half of a surrogate pair stands before the closing quote or nowhere. -/
theorem lowSurrogate?_before_quote {p r : List Char} {n : Nat}
    (h : lowSurrogate? (p ++ '"' :: r) = some n) (r' : List Char) :
    lowSurrogate? (p ++ '"' :: r') = some n := by
  obtain ⟨a, b, c, d, rest, split, hex, low⟩ := lowSurrogate?_eq_some_iff.1 h
  obtain ⟨q, rfl⟩ := exists_append_of_not_mem split.symm (quote_not_mem_of_hex4? hex)
  exact lowSurrogate?_eq_some_iff.2 ⟨a, b, c, d, q ++ '"' :: r', List.append_assoc _ _ _, hex, low⟩

/-- So it does not depend on what stands after the quote. -/
theorem lowSurrogate?_quote (p r r' : List Char) :
    lowSurrogate? (p ++ '"' :: r) = lowSurrogate? (p ++ '"' :: r') := by
  apply Option.ext
  intro n
  exact ⟨fun h => lowSurrogate?_before_quote h r', fun h => lowSurrogate?_before_quote h r⟩

section ReadString

variable {acc : List Char} {sound : Bool} {a b c d : Char} {n : Nat}

/-- A unit that is awaited is the second half of a pair. -/
theorem readString_pair (hex : hex4? a b c d = some n) (high : Nat) (s : List Char) :
    readString acc sound (some high) (['\\', 'u', a, b, c, d] ++ s) =
      readString (ofSurrogates high n :: acc) sound none s := by
  rw [readString.eq_def]
  simp only [List.cons_append, List.nil_append, hex]

/-- What becomes of any other unit is seen from it and from the half that comes next, if one does. -/
theorem readString_of_hex (hex : hex4? a b c d = some n) (s : List Char) :
    readString acc sound none (['\\', 'u', a, b, c, d] ++ s) =
      if isHighSurrogate n then
        if (lowSurrogate? s).isSome then readString acc sound (some n) s
        else readString acc false none s
      else if isLowSurrogate n then readString acc false none s
      else readString (Char.ofNat n :: acc) sound none s := by
  rw [readString.eq_def]
  simp only [List.cons_append, List.nil_append, hex]
  cases lowSurrogate? s with
  | none => rfl
  | some low => rfl

end ReadString

/-- A string is taken up to its closing quote, whatever stands after that. -/
theorem readString_local {acc : List Char} {sound : Bool} {pending : Option Nat} {s r : List Char}
    {t : Option String} (h : readString acc sound pending s = some (t, r)) :
    ∃ p, s = p ++ '"' :: r ∧
      ∀ r', readString acc sound pending (p ++ '"' :: r') = some (t, r') := by
  fun_induction readString acc sound pending s with
  | case1 => cases h
  | case2 acc sound pending r =>
      cases h
      exact ⟨[], rfl, fun _ => rfl⟩
  | case3 => cases h
  | case4 acc sound a b c d s n high hex ih =>
      obtain ⟨p, rfl, again⟩ := ih h
      refine ⟨['\\', 'u', a, b, c, d] ++ p, rfl, ?_⟩
      intro r'
      rw [List.append_assoc, readString_pair hex, again]
  | case5 acc sound a b c d s n hex is_high low found ih =>
      obtain ⟨p, rfl, again⟩ := ih h
      refine ⟨['\\', 'u', a, b, c, d] ++ p, rfl, ?_⟩
      intro r'
      rw [lowSurrogate?_quote p r r'] at found
      rw [List.append_assoc, readString_of_hex hex, if_pos is_high, found]
      exact again r'
  | case6 acc sound a b c d s n hex is_high found ih =>
      obtain ⟨p, rfl, again⟩ := ih h
      refine ⟨['\\', 'u', a, b, c, d] ++ p, rfl, ?_⟩
      intro r'
      rw [lowSurrogate?_quote p r r'] at found
      rw [List.append_assoc, readString_of_hex hex, if_pos is_high, found]
      exact again r'
  | case7 acc sound a b c d s n hex not_high is_low ih =>
      obtain ⟨p, rfl, again⟩ := ih h
      refine ⟨['\\', 'u', a, b, c, d] ++ p, rfl, ?_⟩
      intro r'
      rw [List.append_assoc, readString_of_hex hex, if_neg not_high, if_pos is_low, again]
  | case8 acc sound a b c d s n hex not_high not_low ih =>
      obtain ⟨p, rfl, again⟩ := ih h
      refine ⟨['\\', 'u', a, b, c, d] ++ p, rfl, ?_⟩
      intro r'
      rw [List.append_assoc, readString_of_hex hex, if_neg not_high, if_neg not_low, again]
  | case9 acc sound pending c s _ e short ih =>
      obtain ⟨p, rfl, again⟩ := ih h
      refine ⟨'\\' :: c :: p, rfl, ?_⟩
      intro r'
      -- a unit has no escape of one letter
      have no_unit : c ≠ 'u' := by
        rintro rfl
        cases short
      rw [List.cons_append, List.cons_append, readString, short]
      · exact again r'
      · intro _ _ _ _ _ unit _
        exact no_unit unit
  | case10 => cases h
  | case11 => cases h
  | case12 acc sound pending c s quote _ _ plain ih =>
      obtain ⟨p, rfl, again⟩ := ih h
      refine ⟨c :: p, rfl, ?_⟩
      intro r'
      have no_escape : c ≠ '\\' := fun e => plain (.inr e)
      rw [List.cons_append, readString, if_neg plain]
      · exact again r'
      · exact quote
      · intro _ _ _ _ _ escape _
        exact no_escape escape
      · intro _ _ escape _
        exact no_escape escape

/-! ## Values -/

theorem skipBlanks_append {b : List Char} (blanks : ∀ c ∈ b, isBlank c = true) (s : List Char) :
    skipBlanks (b ++ s) = skipBlanks s := List.dropWhile_append_of_pos blanks

theorem skipBlanks_of_head {s : List Char} (head : ∀ c ∈ s.head?, isBlank c = false) :
    skipBlanks s = s := by
  cases s with
  | nil => rfl
  | cons c s =>
      apply List.dropWhile_cons_of_neg
      rw [head c rfl]
      exact Bool.false_ne_true

theorem head_skipBlanks (s : List Char) : ∀ c ∈ (skipBlanks s).head?, isBlank c = false := by
  intro c hc
  have first := List.head?_dropWhile_not isBlank s
  rw [skipBlanks] at hc
  rw [hc] at first
  exact first

/-- A text is its leading blanks and the rest. -/
theorem exists_blanks (s : List Char) :
    ∃ b, (∀ c ∈ b, isBlank c = true) ∧ s = b ++ skipBlanks s :=
  ⟨s.takeWhile isBlank, fun _ hc => List.mem_takeWhile_imp hc,
    (List.takeWhile_append_dropWhile).symm⟩

/-- What comes after leading blanks comes after them whatever stands behind it. -/
theorem exists_blanks_of_append {s p r : List Char} {c : Char} (h : skipBlanks s = p ++ c :: r) :
    ∃ b, s = b ++ (p ++ c :: r) ∧ ∀ r', skipBlanks (b ++ (p ++ c :: r')) = p ++ c :: r' := by
  obtain ⟨b, blanks, split⟩ := exists_blanks s
  have first := head_skipBlanks s
  rw [h] at split first
  refine ⟨b, split, ?_⟩
  intro r'
  rw [skipBlanks_append blanks]
  apply skipBlanks_of_head
  cases p with
  | nil => exact first
  | cons d p => exact first

/-- The blanks of JSON are blank. -/
theorem isBlank_text {c : Char} (h : isBlank c = true) : Text.isBlank c = true := by
  simp only [isBlank, Bool.or_eq_true, beq_iff_eq] at h
  rcases h with ((rfl | rfl) | rfl) | rfl
  all_goals rfl

section Steps

variable {fuel depth : Nat} {s r : List Char}

theorem readItems_eq_some_iff {acc items : List Raw} :
    readItems (fuel + 1) depth acc s = some (items, r) ↔
      ∃ v t, readValue fuel depth s = some (v, t) ∧
        ((∃ t', skipBlanks t = ',' :: t' ∧ readItems fuel depth (v :: acc) t' = some (items, r)) ∨
          skipBlanks t = ']' :: r ∧ items = (v :: acc).reverse) := by
  rw [readItems]
  constructor
  · intro h
    split at h
    · cases h
    · next v t value =>
        refine ⟨v, t, value, ?_⟩
        split at h
        · next t' comma => exact .inl ⟨t', comma, h⟩
        · next bracket =>
            cases h
            exact .inr ⟨bracket, rfl⟩
        · cases h
  · rintro ⟨v, t, value, ⟨t', comma, h⟩ | ⟨bracket, rfl⟩⟩
    · simp only [value, comma, h]
    · simp only [value, bracket]

/-- One member at the start of a text, and what is left. -/
def Member (fuel depth : Nat) (key : Option String) (v : Raw) (s r : List Char) : Prop :=
  ∃ s₁ s₂ s₃, skipBlanks s = '"' :: s₁ ∧ readText s₁ = some (key, s₂) ∧
    skipBlanks s₂ = ':' :: s₃ ∧ readValue fuel depth s₃ = some (v, r)

theorem readMembers_eq_some_iff {acc members : List (Option String × Raw)} :
    readMembers (fuel + 1) depth acc s = some (members, r) ↔
      ∃ key v t, Member fuel depth key v s t ∧
        ((∃ t', skipBlanks t = ',' :: t' ∧
            readMembers fuel depth ((key, v) :: acc) t' = some (members, r)) ∨
          skipBlanks t = '}' :: r ∧ members = ((key, v) :: acc).reverse) := by
  rw [readMembers]
  constructor
  · intro h
    split at h
    · next s₁ quote =>
        split at h
        · cases h
        · next key s₂ text =>
            split at h
            · next s₃ colon =>
                split at h
                · cases h
                · next v t value =>
                    refine ⟨key, v, t, ⟨s₁, s₂, s₃, quote, text, colon, value⟩, ?_⟩
                    split at h
                    · next t' comma => exact .inl ⟨t', comma, h⟩
                    · next brace =>
                        cases h
                        exact .inr ⟨brace, rfl⟩
                    · cases h
            · cases h
    · cases h
  · rintro ⟨key, v, t, ⟨s₁, s₂, s₃, quote, text, colon, value⟩, ⟨t', comma, h⟩ | ⟨brace, rfl⟩⟩
    · simp only [quote, text, colon, value, comma, h]
    · simp only [quote, text, colon, value, brace]

/-- The value at the start of a text that has no leading blanks, and what is left. -/
inductive Value (fuel : Nat) : Nat → List Char → Raw → List Char → Prop
  | null {depth : Nat} (r : List Char) : Value fuel depth ('n' :: 'u' :: 'l' :: 'l' :: r) .null r
  | true {depth : Nat} (r : List Char) :
      Value fuel depth ('t' :: 'r' :: 'u' :: 'e' :: r) (.bool true) r
  | false {depth : Nat} (r : List Char) :
      Value fuel depth ('f' :: 'a' :: 'l' :: 's' :: 'e' :: r) (.bool false) r
  | string {depth : Nat} {s r : List Char} {t : Option String} :
      readText s = some (t, r) → Value fuel depth ('"' :: s) (.string t) r
  | number {depth : Nat} {s r : List Char} {l : NumberLexeme} :
      NumberLexeme.read s = some (l, r) → Value fuel depth s (.number l.value?) r
  | noItems {depth : Nat} {s r : List Char} :
      skipBlanks s = ']' :: r → Value fuel (depth + 1) ('[' :: s) (.array []) r
  | items {depth : Nat} {s r : List Char} {items : List Raw} :
      (∀ t, skipBlanks s ≠ ']' :: t) → readItems fuel depth [] (skipBlanks s) = some (items, r) →
        Value fuel (depth + 1) ('[' :: s) (.array items) r
  | noMembers {depth : Nat} {s r : List Char} :
      skipBlanks s = '}' :: r → Value fuel (depth + 1) ('{' :: s) (.object []) r
  | members {depth : Nat} {s r : List Char} {members : List (Option String × Raw)} :
      (∀ t, skipBlanks s ≠ '}' :: t) →
        readMembers fuel depth [] (skipBlanks s) = some (members, r) →
          Value fuel (depth + 1) ('{' :: s) (.object members) r

theorem value_of_readValue {v : Raw} (h : readValue (fuel + 1) depth s = some (v, r)) :
    Value fuel depth (skipBlanks s) v r := by
  rw [readValue] at h
  -- one alternative for each first character, and that of numbers last
  split at h
  · next start =>
      cases h
      rw [start]
      exact .null _
  · next start =>
      cases h
      rw [start]
      exact .true _
  · next start =>
      cases h
      rw [start]
      exact .false _
  · next start =>
      obtain ⟨⟨t, r'⟩, text, ⟨⟩⟩ := Option.map_eq_some_iff.1 h
      rw [start]
      exact .string text
  · next start =>
      rw [start]
      split at h
      · cases h
      · split at h
        · next bracket =>
            cases h
            exact .noItems bracket
        · next more =>
            obtain ⟨⟨items, r'⟩, read, ⟨⟩⟩ := Option.map_eq_some_iff.1 h
            exact .items more read
  · next start =>
      rw [start]
      split at h
      · cases h
      · split at h
        · next brace =>
            cases h
            exact .noMembers brace
        · next more =>
            obtain ⟨⟨members, r'⟩, read, ⟨⟩⟩ := Option.map_eq_some_iff.1 h
            exact .members more read
  · obtain ⟨⟨l, r'⟩, read, ⟨⟩⟩ := Option.map_eq_some_iff.1 h
    exact .number read

theorem readValue_of_value {v : Raw} (h : Value fuel depth (skipBlanks s) v r) :
    readValue (fuel + 1) depth s = some (v, r) := by
  rw [readValue]
  generalize skipBlanks s = s at h
  cases h with
  | null => rfl
  | true => rfl
  | false => rfl
  | string text => simp only [text, Option.map_some]
  | noItems bracket => simp only [bracket]
  | items more read =>
      -- of the first characters only the bracket fits
      split
      case h_5 same =>
        obtain ⟨-, rfl⟩ := List.cons.inj same
        dsimp only
        split
        · next bracket => exact absurd bracket (more _)
        · rw [read, Option.map_some]
      case h_7 other _ => exact absurd rfl (other _)
      all_goals next other => simp at other
  | noMembers brace => simp only [brace]
  | members more read =>
      split
      case h_6 same =>
        obtain ⟨-, rfl⟩ := List.cons.inj same
        dsimp only
        split
        · next brace => exact absurd brace (more _)
        · rw [read, Option.map_some]
      case h_7 other => exact absurd rfl (other _)
      all_goals next other => simp at other
  | number read =>
      -- no other value begins with a numeral
      have first := NumberLexeme.head_of_read read
      split
      case h_7 => rw [read, Option.map_some]
      all_goals cases first _ rfl

theorem readValue_eq_some_iff {v : Raw} :
    readValue (fuel + 1) depth s = some (v, r) ↔ Value fuel depth (skipBlanks s) v r :=
  ⟨value_of_readValue, readValue_of_value⟩

end Steps

/-- The characters of a value say where it ends: the reader takes all of them, the last one of which
is no blank, and would take the same before every rest that begins alike, on fuel for twice their
number. -/
def Takes (read : Nat → List Char → List Char → Prop) (s r : List Char) : Prop :=
  ∃ p c, s = p ++ c :: r ∧ Text.isBlank c = false ∧
    ∀ fuel r', 2 * (p.length + 1) ≤ fuel → Similar r r' → read fuel (p ++ c :: r') r'

section Takes

variable {fuel depth : Nat} {s r : List Char}

/-- Blanks at the start are taken with what comes after them. -/
theorem Takes.after_blanks {read whole : Nat → List Char → List Char → Prop}
    (h : Takes read (skipBlanks s) r)
    (skip : ∀ {k s r}, read k (skipBlanks s) r → whole k s r) : Takes whole s r := by
  obtain ⟨p, c, split, plain, again⟩ := h
  obtain ⟨b, rfl, blanks⟩ := exists_blanks_of_append split
  refine ⟨b ++ p, c, (List.append_assoc b p _).symm, plain, ?_⟩
  intro fuel r' enough similar
  rw [List.length_append] at enough
  rw [List.append_assoc]
  apply skip
  rw [blanks]
  exact again fuel r' (by omega) similar

/-- What stands between brackets is taken with them; the sign `x` would close them at once. -/
theorem Takes.enclosed {inner outer : Nat → List Char → List Char → Prop} {opening x : Char}
    (more : ∀ t, skipBlanks s ≠ x :: t) (h : Takes inner (skipBlanks s) r)
    (enclose : ∀ {k s r}, (∀ t, skipBlanks s ≠ x :: t) → inner k (skipBlanks s) r →
      outer (k + 1) (opening :: s) r) : Takes outer (opening :: s) r := by
  obtain ⟨p, c, split, plain, again⟩ := h
  obtain ⟨b, rfl, skip⟩ := exists_blanks_of_append split
  refine ⟨opening :: (b ++ p), c, by simp, plain, ?_⟩
  intro fuel r' enough similar
  simp only [List.length_cons, List.length_append] at enough
  obtain ⟨k, rfl⟩ : ∃ k, fuel = k + 1 := ⟨fuel - 1, by omega⟩
  rw [List.cons_append, List.append_assoc]
  apply enclose
  · intro t eq
    rw [split] at more
    rw [skip] at eq
    cases p with
    | nil =>
        obtain ⟨rfl, -⟩ := List.cons.inj eq
        exact more r rfl
    | cons d p =>
        obtain ⟨rfl, -⟩ := List.cons.inj eq
        exact more (p ++ c :: r) rfl
  · rw [skip]
    exact again k r' (by omega) similar

/-- Something that a sign separates from more of its kind. -/
theorem Takes.more {first rest whole : Nat → List Char → List Char → Prop} {t t' : List Char}
    {x : Char} (h : Takes first s t) (sign : skipBlanks t = x :: t') (h' : Takes rest t' r)
    (join : ∀ {k s t t' r}, first k s t → skipBlanks t = x :: t' → rest k t' r →
      whole (k + 1) s r) : Takes whole s r := by
  obtain ⟨p, c, rfl, plain, again⟩ := h
  obtain ⟨b, rfl, skip⟩ := exists_blanks_of_append (p := []) sign
  obtain ⟨q, d, rfl, plain', again'⟩ := h'
  refine ⟨p ++ c :: (b ++ x :: q), d, by simp, plain', ?_⟩
  intro fuel r' enough similar
  simp only [List.length_cons, List.length_append] at enough
  obtain ⟨k, rfl⟩ : ∃ k, fuel = k + 1 := ⟨fuel - 1, by omega⟩
  -- before every rest the first part is followed by the same sign
  have here := again k (b ++ x :: (q ++ d :: r')) (by omega) ((Similar.same x _ _).append b)
  have later := again' k r' (by omega) similar
  simpa using join here (skip _) later

/-- Something that a sign ends. -/
theorem Takes.last {first whole : Nat → List Char → List Char → Prop} {t : List Char} {x : Char}
    (h : Takes first s t) (sign : skipBlanks t = x :: r) (plain : Text.isBlank x = false)
    (close : ∀ {k s t r}, first k s t → skipBlanks t = x :: r → whole (k + 1) s r) :
    Takes whole s r := by
  obtain ⟨p, c, rfl, -, again⟩ := h
  obtain ⟨b, rfl, skip⟩ := exists_blanks_of_append (p := []) sign
  refine ⟨p ++ c :: b, x, by simp, plain, ?_⟩
  intro fuel r' enough _
  simp only [List.length_cons, List.length_append] at enough
  obtain ⟨k, rfl⟩ : ∃ k, fuel = k + 1 := ⟨fuel - 1, by omega⟩
  have here := again k (b ++ x :: r') (by omega) ((Similar.same x _ _).append b)
  simpa using close here (skip _)

/-- A key and its colon are taken with the value that they name. -/
theorem Member.takes {key : Option String} {v : Raw} (h : Member fuel depth key v s r)
    (ofValue : ∀ depth s v r, readValue fuel depth s = some (v, r) →
      Takes (fun fuel s r => readValue fuel depth s = some (v, r)) s r) :
    Takes (fun fuel s r => Member fuel depth key v s r) s r := by
  obtain ⟨s₁, s₂, s₃, quote, text, colon, value⟩ := h
  obtain ⟨b, rfl, skip⟩ := exists_blanks_of_append (p := []) quote
  obtain ⟨q, rfl, again⟩ := readString_local text
  obtain ⟨b', rfl, skip'⟩ := exists_blanks_of_append (p := []) colon
  obtain ⟨p, c, rfl, plain, again'⟩ := ofValue _ _ _ _ value
  refine ⟨b ++ '"' :: (q ++ '"' :: (b' ++ ':' :: p)), c, by simp, plain, ?_⟩
  intro fuel r' enough similar
  simp only [List.length_cons, List.length_append] at enough
  refine ⟨q ++ '"' :: (b' ++ ':' :: (p ++ c :: r')), b' ++ ':' :: (p ++ c :: r'), p ++ c :: r',
    ?_, again _, skip' _, again' fuel r' (by omega) similar⟩
  simpa using skip (q ++ '"' :: (b' ++ ':' :: (p ++ c :: r')))

/-- One step of the reader of values. -/
theorem takes_of_value {v : Raw} (h : Value fuel depth s v r)
    (ofItems : ∀ depth acc s items r, readItems fuel depth acc s = some (items, r) →
      Takes (fun fuel s r => readItems fuel depth acc s = some (items, r)) s r)
    (ofMembers : ∀ depth acc s members r, readMembers fuel depth acc s = some (members, r) →
      Takes (fun fuel s r => readMembers fuel depth acc s = some (members, r)) s r) :
    Takes (fun fuel s r => ∃ k, fuel = k + 1 ∧ Value k depth s v r) s r := by
  have leaf {p : List Char} {c : Char} (split : s = p ++ c :: r) (plain : Text.isBlank c = false)
      (again : ∀ k r', Similar r r' → Value k depth (p ++ c :: r') v r') :
      Takes (fun fuel s r => ∃ k, fuel = k + 1 ∧ Value k depth s v r) s r := by
    refine ⟨p, c, split, plain, ?_⟩
    intro fuel r' enough similar
    exact ⟨fuel - 1, by omega, again _ r' similar⟩
  cases h with
  | null => exact leaf (p := ['n', 'u', 'l']) rfl (by decide) fun _ r' _ => .null r'
  | true => exact leaf (p := ['t', 'r', 'u']) rfl (by decide) fun _ r' _ => .true r'
  | false => exact leaf (p := ['f', 'a', 'l', 's']) rfl (by decide) fun _ r' _ => .false r'
  | string text =>
      obtain ⟨p, rfl, again⟩ := readString_local text
      exact leaf (p := '"' :: p) rfl (by decide) fun _ r' _ => .string (again r')
  | number read =>
      obtain ⟨p, rfl, numerals, again⟩ := NumberLexeme.read_local _ _ _ read
      rcases List.eq_nil_or_concat p with rfl | ⟨q, c, rfl⟩
      · cases again [] (.ended r)
      · have plain := NumberLexeme.not_blank_of_isNumeral (numerals c (by simp))
        apply leaf (p := q) (by simp) plain
        intro k r' similar
        apply Value.number
        rw [← again r' similar, List.concat_append]
  | noItems bracket =>
      obtain ⟨b, rfl, skip⟩ := exists_blanks_of_append (p := []) bracket
      exact leaf (p := '[' :: b) rfl (by decide) fun _ r' _ => .noItems (skip r')
  | noMembers brace =>
      obtain ⟨b, rfl, skip⟩ := exists_blanks_of_append (p := []) brace
      exact leaf (p := '{' :: b) rfl (by decide) fun _ r' _ => .noMembers (skip r')
  | items more read =>
      apply (ofItems _ _ _ _ _ read).enclosed more
      exact fun more read => ⟨_, rfl, .items more read⟩
  | members more read =>
      apply (ofMembers _ _ _ _ _ read).enclosed more
      exact fun more read => ⟨_, rfl, .members more read⟩

/-- The readers of values, of items and of members, together on one fuel. -/
theorem takes_of_fuel (fuel : Nat) :
    (∀ depth s v r, readValue fuel depth s = some (v, r) →
      Takes (fun fuel s r => readValue fuel depth s = some (v, r)) s r) ∧
    (∀ depth acc s items r, readItems fuel depth acc s = some (items, r) →
      Takes (fun fuel s r => readItems fuel depth acc s = some (items, r)) s r) ∧
    (∀ depth acc s members r, readMembers fuel depth acc s = some (members, r) →
      Takes (fun fuel s r => readMembers fuel depth acc s = some (members, r)) s r) := by
  induction fuel with
  | zero => exact ⟨nofun, nofun, nofun⟩
  | succ fuel ih =>
      -- each reader calls the others with the fuel that is left
      obtain ⟨ofValue, ofItems, ofMembers⟩ := ih
      refine ⟨?_, ?_, ?_⟩
      · intro depth s v r h
        apply (takes_of_value (readValue_eq_some_iff.1 h) ofItems ofMembers).after_blanks
        rintro k s r ⟨k, rfl, value⟩
        exact readValue_eq_some_iff.2 value
      · intro depth acc s items r h
        obtain ⟨v, t, value, ⟨t', comma, rest⟩ | ⟨bracket, rfl⟩⟩ := readItems_eq_some_iff.1 h
        · apply (ofValue _ _ _ _ value).more comma (ofItems _ _ _ _ _ rest)
          exact fun value comma rest => readItems_eq_some_iff.2 ⟨_, _, value, .inl ⟨_, comma, rest⟩⟩
        · apply (ofValue _ _ _ _ value).last bracket (by decide)
          exact fun value bracket => readItems_eq_some_iff.2 ⟨_, _, value, .inr ⟨bracket, rfl⟩⟩
      · intro depth acc s members r h
        obtain ⟨key, v, t, member, ⟨t', comma, rest⟩ | ⟨brace, rfl⟩⟩ := readMembers_eq_some_iff.1 h
        · apply (member.takes ofValue).more comma (ofMembers _ _ _ _ _ rest)
          exact fun member comma rest =>
            readMembers_eq_some_iff.2 ⟨_, _, _, member, .inl ⟨_, comma, rest⟩⟩
        · apply (member.takes ofValue).last brace (by decide)
          exact fun member brace =>
            readMembers_eq_some_iff.2 ⟨_, _, _, member, .inr ⟨brace, rfl⟩⟩

/-- A value begins with a character that is no blank. -/
theorem Value.head_not_blank {v : Raw} (h : Value fuel depth s v r) :
    ∀ c ∈ s.head?, Text.isBlank c = Bool.false := by
  cases h with
  | number read =>
      intro c hc
      exact NumberLexeme.not_blank_of_isNumeral (NumberLexeme.head_of_read read c hc)
  | _ =>
      rintro c ⟨⟩
      decide

end Takes

/-- A value is read from its own characters alone, and no blank stands at their two ends. -/
theorem read?_eq_some {depth : Nat} {t : List Char} {v : Raw} (h : read? depth t = some v) :
    ∃ b s r, t = b ++ (s ++ r) ∧ (∀ c ∈ b ++ r, isBlank c = true) ∧
      (∀ c ∈ s.head?, Text.isBlank c = false) ∧ (∀ c ∈ s.getLast?, Text.isBlank c = false) ∧
        read? depth s = some v := by
  rw [read?] at h
  split at h
  · next v' r value =>
      obtain ⟨rest, found⟩ := Option.ite_none_right_eq_some.1 h
      cases found
      have value := readValue_eq_some_iff.1 value
      obtain ⟨-, ofItems, ofMembers⟩ := takes_of_fuel (2 * t.length + 1)
      obtain ⟨p, c, split, plain, again⟩ := takes_of_value value ofItems ofMembers
      obtain ⟨b, blanks, whole⟩ := exists_blanks t
      have blanks' : ∀ c ∈ r, isBlank c = true := List.dropWhile_eq_nil_iff.1 rest
      obtain ⟨k, enough, alone⟩ := again (2 * (p ++ [c]).length + 2) [] (by simp) (.ended r)
      refine ⟨b, p ++ [c], r, ?_, List.forall_mem_append.2 ⟨blanks, blanks'⟩,
        alone.head_not_blank, ?_, ?_⟩
      · rw [List.append_assoc, List.singleton_append, ← split]
        exact whole
      · rw [List.getLast?_concat]
        rintro c ⟨⟩
        exact plain
      · have skip : skipBlanks (p ++ [c]) = p ++ [c] := by
          apply skipBlanks_of_head
          intro d hd
          exact Bool.eq_false_iff.2 (mt isBlank_text (Bool.eq_false_iff.1 (alone.head_not_blank d hd)))
        have read := readValue_eq_some_iff.2 (skip.symm ▸ alone)
        rw [read?, enough, read]
        rfl
  · cases h

/-- The blanks around a value do not matter, those of Unicode included. -/
theorem read?_trim {depth : Nat} {t : List Char} {v : Raw} (h : read? depth t = some v) :
    read? depth (Text.trim t) = some v := by
  obtain ⟨b, s, r, rfl, blanks, first, last, read⟩ := read?_eq_some h
  have blanks : ∀ c ∈ b ++ r, Text.isBlank c = true := fun c hc => isBlank_text (blanks c hc)
  obtain ⟨front, back⟩ := List.forall_mem_append.1 blanks
  rw [Text.trim_append front back, Text.trim_of_ends first last]
  exact read

end Raw

end ChatClient
