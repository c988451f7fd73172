import ChatClient.Proofs.Number.Numerals
import ChatClient.Proofs.Retry.Attempts
import ChatClient.Proofs.Settings.Layers
import ChatClient.Proofs.Text.Lines

/-!
# Lists of error codes

The variable for the error codes worth another attempt lists integers between commas. A list may have
blanks around its codes and items without any code (`CodeList`). A text that lists codes of at most 64
bits sets the codes to exactly these, whatever their order and however often they stand there, and a
text with one item that is no such code is ignored as a whole (`Settings.retryCodes_of_text`).
-/

namespace ChatClient

open Reading (Signed IsInt64)

/-! ## Sets of codes -/

namespace CodeSet

theorem ascending_insert (code : Int) {s : CodeSet} (ascending : s.Pairwise (· < ·)) :
    (insert code s).Pairwise (· < ·) := by
  induction s with
  | nil => exact List.pairwise_singleton _ code
  | cons c s ih =>
      obtain ⟨above, rest⟩ := List.pairwise_cons.1 ascending
      rw [insert]
      split
      · next less =>
          apply List.pairwise_cons.2 ⟨_, ascending⟩
          intro x among
          rcases List.mem_cons.1 among with rfl | later
          · exact less
          · exact Int.lt_trans less (above x later)
      · next not_less =>
          split
          · exact ascending
          · next other =>
              -- the new code goes further down, and all that is there stays above `c`
              apply List.pairwise_cons.2 ⟨_, ih rest⟩
              intro x among
              rcases (mem_insert x code s).1 among with rfl | later
              · omega
              · exact above x later

/-- A set of codes is in ascending order, so no code stands in it twice. -/
theorem ascending_ofList (codes : List Int) : (ofList codes).Pairwise (· < ·) := by
  induction codes with
  | nil => exact List.Pairwise.nil
  | cons code codes ih => exact ascending_insert code ih

end CodeSet

/-! ## Texts that list codes -/

/-- What may stand between two commas: a code in decimal with blanks around it, or blanks alone. -/
inductive CodeItem : List Char → Option Int → Prop
  | code {front s back : List Char} {n : Int} (before : ∀ c ∈ front, Text.isBlank c = true)
      (written : Signed s n) (after : ∀ c ∈ back, Text.isBlank c = true) :
      CodeItem (front ++ (s ++ back)) (some n)
  | blank {s : List Char} (all : ∀ c ∈ s, Text.isBlank c = true) : CodeItem s none

/-- The text lists the codes in this order. -/
inductive CodeList : List Char → List Int → Prop
  | last {s : List Char} {o : Option Int} (item : CodeItem s o) : CodeList s o.toList
  | more {s r : List Char} {o : Option Int} {codes : List Int} (item : CodeItem s o)
      (rest : CodeList r codes) : CodeList (s ++ ',' :: r) (o.toList ++ codes)

/-- Every list of codes can be written. -/
theorem exists_codeList (codes : List Int) : ∃ s, CodeList s codes := by
  have numeral (n : Int) : ∃ s, Signed s n := by
    cases n with
    | ofNat m => exact ⟨_, .bare (Reading.numeral_toDigits m)⟩
    | negSucc m => exact ⟨_, .minus (Reading.numeral_toDigits (m + 1))⟩
  have no_blanks : ∀ c ∈ ([] : List Char), Text.isBlank c = true := List.forall_mem_nil _
  induction codes with
  | nil => exact ⟨_, .last (.blank no_blanks)⟩
  | cons n codes ih =>
      obtain ⟨r, rest⟩ := ih
      obtain ⟨s, written⟩ := numeral n
      exact ⟨_, .more (.code no_blanks written no_blanks) rest⟩

/-- The items of a list that are not blank, without the blanks around them. -/
def codeWords (s : List Char) : List (List Char) :=
  ((Text.pieces ',' s).map Text.trim).filter (· ≠ [])

/-- A comma divides the items. -/
theorem codeWords_append (s r : List Char) :
    codeWords (s ++ ',' :: r) = codeWords s ++ codeWords r := by
  rw [codeWords, Text.pieces_append, List.map_append, List.filter_append]
  rfl

theorem codeWords_of_not_mem {s : List Char} (no_comma : ',' ∉ s) :
    codeWords s = if Text.trim s = [] then [] else [Text.trim s] := by
  rw [codeWords, Text.pieces_of_not_mem no_comma, List.map_singleton, List.filter_singleton]
  by_cases nothing : Text.trim s = []
  · simp [nothing]
  · simp [nothing]

/-! ### Items -/

namespace CodeItem

/-- The characters of a numeral are neither blank nor commas. -/
theorem mark_of_signed {s : List Char} {n : Int} (written : Signed s n) {c : Char} (among : c ∈ s) :
    Text.isBlank c = false ∧ c ≠ ',' := by
  have digit (h : c.isDigit = true) : Text.isBlank c = false ∧ c ≠ ',' := by
    obtain ⟨low, high⟩ := Reading.isDigit_iff.1 h
    have range : 48 ≤ c.toNat ∧ c.toNat ≤ 57 := ⟨low, high⟩
    constructor
    · simp only [Text.isBlank, Bool.or_eq_false_iff, Bool.and_eq_false_iff, beq_eq_false_iff_ne,
        decide_eq_false_iff_not]
      omega
    · rintro rfl
      cases h
  cases written with
  | bare numeral => exact digit (numeral.digits c among)
  | plus numeral =>
      rcases List.mem_cons.1 among with rfl | later
      · decide
      · exact digit (numeral.digits c later)
  | minus numeral =>
      rcases List.mem_cons.1 among with rfl | later
      · decide
      · exact digit (numeral.digits c later)

variable {s : List Char} {o : Option Int}

theorem no_comma (item : CodeItem s o) : ',' ∉ s := by
  have within_blanks {t : List Char} (all : ∀ c ∈ t, Text.isBlank c = true) : ',' ∉ t := by
    intro among
    exact absurd (all _ among) (by decide)
  cases item with
  | code before written after =>
      rw [List.mem_append, List.mem_append]
      rintro (front | within | back)
      · exact within_blanks before front
      · exact (mark_of_signed written within).2 rfl
      · exact within_blanks after back
  | blank all => exact within_blanks all

/-- Without its blanks an item is its code, or nothing. -/
theorem words (item : CodeItem s o) : List.Forall₂ Signed (codeWords s) o.toList := by
  rw [codeWords_of_not_mem item.no_comma]
  cases item with
  | @code front s back n before written after =>
      have trimmed : Text.trim (front ++ (s ++ back)) = s := by
        rw [Text.trim_append before after]
        apply Text.trim_of_ends
        · intro c first
          exact (mark_of_signed written (List.mem_of_head? first)).1
        · intro c last
          exact (mark_of_signed written (List.mem_of_getLast? last)).1
      rw [trimmed, if_neg written.ne_nil]
      exact .cons written .nil
  | blank all =>
      have nothing : Text.trim s = [] := by
        have front := Text.trim_append all (List.forall_mem_nil _) []
        rw [List.append_nil, List.append_nil] at front
        exact front
      rw [if_pos nothing]
      exact .nil

end CodeItem

/-! ### Lists -/

variable {s : List Char} {codes : List Int}

theorem CodeList.words (list : CodeList s codes) : List.Forall₂ Signed (codeWords s) codes := by
  induction list with
  | last item => exact item.words
  | more item _ ih =>
      rw [codeWords_append]
      exact List.rel_append item.words ih

theorem CodeList.read (list : CodeList s codes) (fit : ∀ n ∈ codes, IsInt64 n) :
    (codeWords s).mapM Reading.signed64? = some codes := by
  apply Setting.mapM_eq_some_iff.2
  -- each word is paired with its code, which is in range because it is in the list
  have both := (List.forall₂_and_left _ _).2 ⟨fit, list.words.flip⟩
  exact both.flip.imp fun _ _ h => Reading.signed64?_eq_some_iff.2 ⟨h.2, h.1⟩

/-- One word that is no code spoils the list, wherever it stands. -/
theorem mapM_signed64?_eq_none {words : List (List Char)} {word : List Char}
    (among : word ∈ words) (no_code : ∀ n, ¬(Signed word n ∧ IsInt64 n)) :
    words.mapM Reading.signed64? = none := by
  rw [Option.eq_none_iff_forall_ne_some]
  intro codes read
  -- had all words been read, this one would have a code among them
  have each := (Setting.mapM_eq_some_iff.1 read).imp fun _ n h => And.intro (Exists.intro n h) h
  obtain ⟨n, code⟩ := ((List.forall₂_and_left _ _).1 each).1 word among
  exact no_code n (Reading.signed64?_eq_some_iff.1 code)

namespace Settings

theorem codes?_eq (text : String) :
    codes? text = ((codeWords text.toList).mapM Reading.signed64?).map CodeSet.ofList := rfl

/-- With a policy made of these settings an API error is followed by another attempt just if its code
is in the set and attempts remain. -/
theorem retries_iff (s : Settings) (r : Request) (n : Int) (message : String) (attempt : Nat)
    (fraction : Float) :
    (∃ d, ((Http.Transport.ofSettings s).policy r).decide (.api n message) attempt fraction =
        .retry d) ↔
      n ∈ s.retryCodes ∧ attempt + 1 < max r.options.retryCount 1 := by
  constructor
  · rintro ⟨d, decided⟩
    obtain ⟨retryable, left, -⟩ := RetryPolicy.decide_retry decided
    exact ⟨List.contains_iff_mem.1 retryable, left⟩
  · rintro ⟨listed, left⟩
    exact ⟨_, RetryPolicy.decide_of_retryable fraction (.api message listed) left⟩

/-- The list of error codes is read exactly, or not at all. Every list of codes can be written. A text
of the variable that lists codes of at most 64 bits gives the settings exactly these codes, and an API
error is then followed by another attempt just if its code is in the list and attempts remain. A text
with an item, at any place, that is neither blank nor such a code leaves the settings with the default
codes. -/
theorem retryCodes_of_text :
    (∀ codes : List Int, ∃ text : String, CodeList text.toList codes) ∧
    ∀ (env : Environment) (text : String), env "QIANFAN_LLM_API_RETRY_ERR_CODES" = some text →
      let s := ofEnvironment env
      (∀ codes, CodeList text.toList codes → (∀ n ∈ codes, IsInt64 n) →
        (∀ n, n ∈ s.retryCodes ↔ n ∈ codes) ∧ s.retryCodes.Pairwise (· < ·) ∧
        ∀ (r : Request) n message attempt fraction,
          (∃ d, ((Http.Transport.ofSettings s).policy r).decide (.api n message) attempt fraction =
              .retry d) ↔
            n ∈ codes ∧ attempt + 1 < max r.options.retryCount 1) ∧
      ((∃ item ∈ Text.pieces ',' text.toList, Text.trim item ≠ [] ∧
          ∀ n, ¬(Signed (Text.trim item) n ∧ IsInt64 n)) →
        s.retryCodes = [18, 336100]) := by
  constructor
  · intro codes
    obtain ⟨s, list⟩ := exists_codeList codes
    refine ⟨String.ofList s, ?_⟩
    rw [String.toList_ofList]
    exact list
  · intro env text set s
    have codes_read : s.retryCodes = (codes? text).getD [18, 336100] := by
      show ((env "QIANFAN_LLM_API_RETRY_ERR_CODES").bind codes?).getD [18, 336100] = _
      rw [set, Option.bind_some]
    constructor
    · intro codes list fit
      have exactly : s.retryCodes = CodeSet.ofList codes := by
        rw [codes_read, codes?_eq, list.read fit, Option.map_some, Option.getD_some]
      have members (n : Int) : n ∈ s.retryCodes ↔ n ∈ codes := by
        rw [exactly, CodeSet.mem_ofList]
      refine ⟨members, ?_, ?_⟩
      · rw [exactly]
        exact CodeSet.ascending_ofList codes
      · intro r n message attempt fraction
        rw [retries_iff, members]
    · rintro ⟨item, among, more, no_code⟩
      have word : Text.trim item ∈ codeWords text.toList :=
        List.mem_filter.2 ⟨List.mem_map_of_mem among, decide_eq_true more⟩
      rw [codes_read, codes?_eq, mapM_signed64?_eq_none word no_code, Option.map_none,
        Option.getD_none]

/-- Blanks around codes, items without a code, the least code of all and one that stands there twice;
then a code that is too large, after two good ones. -/
theorem retryCodes_of_two_texts :
    let env (text : String) : Environment := fun name =>
      if name = "QIANFAN_LLM_API_RETRY_ERR_CODES" then some text else none
    let listed := ofEnvironment (env " 7, -9223372036854775808\t,, +7 ,")
    let spoiled := ofEnvironment (env "18,7, 9223372036854775808")
    (∀ n, n ∈ listed.retryCodes ↔ n ∈ [7, -9223372036854775808, 7]) ∧
      listed.retryCodes.Pairwise (· < ·) ∧ spoiled.retryCodes = [18, 336100] := by
  intro env listed spoiled
  have set (text : String) : env text "QIANFAN_LLM_API_RETRY_ERR_CODES" = some text := if_pos rfl
  have code {s : List Char} {n : Int} (read : Reading.signed64? s = some n) : Signed s n :=
    (Reading.signed64?_eq_some_iff.1 read).1
  have none_blank : ∀ c ∈ ([] : List Char), Text.isBlank c = true := List.forall_mem_nil _
  have one_blank {c : Char} (blank : Text.isBlank c = true) : ∀ x ∈ [c], Text.isBlank x = true :=
    List.forall_mem_singleton.2 blank
  have nothing : CodeItem [] none := .blank none_blank
  have least : CodeItem " -9223372036854775808\t".toList (some (-9223372036854775808)) :=
    @CodeItem.code [' '] "-9223372036854775808".toList ['\t'] (-9223372036854775808)
      (one_blank (by decide)) (code (by decide)) (one_blank (by decide))
  have seven : CodeItem " 7".toList (some 7) :=
    @CodeItem.code [' '] ['7'] [] 7 (one_blank (by decide)) (code (by decide)) none_blank
  have again : CodeItem " +7 ".toList (some 7) :=
    @CodeItem.code [' '] ['+', '7'] [' '] 7 (one_blank (by decide)) (code (by decide))
      (one_blank (by decide))
  have list : CodeList " 7, -9223372036854775808\t,, +7 ,".toList [7, -9223372036854775808, 7] :=
    .more seven (.more least (.more nothing (.more again (.last nothing))))
  obtain ⟨members, ascending, -⟩ :=
    (retryCodes_of_text.2 _ _ (set " 7, -9223372036854775808\t,, +7 ,")).1 _ list (by decide)
  refine ⟨members, ascending, ?_⟩
  apply (retryCodes_of_text.2 _ _ (set "18,7, 9223372036854775808")).2
  refine ⟨" 9223372036854775808".toList, by decide, by decide, ?_⟩
  intro n fits
  have refused : Reading.signed64? (Text.trim " 9223372036854775808".toList) = none := by decide
  cases refused.symm.trans (Reading.signed64?_eq_some_iff.2 fits)

end Settings

end ChatClient
