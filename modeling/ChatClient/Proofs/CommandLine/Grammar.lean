import ChatClient.CommandLine
import ChatClient.Proofs.Assignments

/-!
# The grammar of the command line

Arguments are read as items: a word of the prompt, a flag, or an option with its value
(`CommandLine.Item`). Arguments are accepted just if they are the texts of items one after the other,
and then they mean what the items say together: the last value of each option, the flags that occur, and
the words in order (`CommandLine.Meaning`). All other arguments begin with the texts of some items, and
what stands after these is the fault (`CommandLine.Offends`). So a choice of options and words may be
written with its options in any order and at any place (`CommandLine.parse_of_items`).
-/

namespace ChatClient.CommandLine

/-! ## Arguments by themselves -/

/-- The argument may be a word of the prompt: it does not begin as options do. -/
def IsWord (arg : String) : Prop := ¬['-', '-'] <+: arg.toList

instance (arg : String) : Decidable (IsWord arg) := inferInstanceAs (Decidable (¬_))

/-- The options, with and without a value, as they are written. -/
def optionNames : List String :=
  ["--model", "--endpoint", "--system", "--temperature", "--stream", "--auto-concat"]

theorem not_isWord_of_mem_optionNames : ∀ arg ∈ optionNames, ¬IsWord arg := by decide

namespace Token

/-- The argument is of that kind. -/
def Fits (arg : String) : Token → Prop
  | .valued option => arg = option.name
  | .stream => arg = "--stream"
  | .autoContinue => arg = "--auto-concat"
  | .unknown => ¬IsWord arg ∧ arg ∉ optionNames
  | .word => IsWord arg

theorem of_of_not_mem {arg : String} (other : arg ∉ optionNames) :
    Token.of arg = if IsWord arg then .word else .unknown := by
  have dashes : ['-', '-'].isPrefixOf arg.toList = true ↔ ¬IsWord arg := by
    rw [List.isPrefixOf_iff_prefix, IsWord, not_not]
  simp only [optionNames, List.mem_cons, List.not_mem_nil, or_false, not_or] at other
  -- none of the names applies, so only the dashes are left to look at
  obtain ⟨no_model, no_endpoint, no_system, no_temperature, no_stream, no_concat⟩ := other
  rw [Token.of, if_neg no_model, if_neg no_endpoint, if_neg no_system, if_neg no_temperature,
    if_neg no_stream, if_neg no_concat]
  by_cases word : IsWord arg
  · rw [if_neg (mt dashes.1 (not_not.2 word)), if_pos word]
  · rw [if_pos (dashes.2 word), if_neg word]

/-- An argument is of the kind that it is taken for. -/
theorem fits_of (arg : String) : (Token.of arg).Fits arg := by
  by_cases named : arg ∈ optionNames
  · simp only [optionNames, List.mem_cons, List.not_mem_nil, or_false] at named
    rcases named with rfl | rfl | rfl | rfl | rfl | rfl <;> rfl
  · rw [of_of_not_mem named]
    split
    · next word => exact word
    · next dashes => exact ⟨dashes, named⟩

/-- No argument is of two kinds. -/
theorem of_of_fits {arg : String} {kind : Token} (fits : kind.Fits arg) : Token.of arg = kind := by
  cases kind with
  | valued option =>
      cases fits
      cases option <;> rfl
  | stream =>
      cases fits
      rfl
  | autoContinue =>
      cases fits
      rfl
  | unknown => rw [of_of_not_mem fits.2, if_neg fits.1]
  | word =>
      have other : arg ∉ optionNames := fun named => not_isWord_of_mem_optionNames arg named fits
      rw [of_of_not_mem other]
      exact if_pos fits

end Token

/-! ## Items -/

/-- The option may have that value. A temperature must be a number; any other value is taken as it is,
even one that looks like an option. -/
def ValueOption.Takes : ValueOption → String → Prop
  | .temperature, raw => ∃ t, Reading.float? raw.toList = some t
  | _, _ => True

/-- What arguments are made of. -/
inductive Item where
  | word (text : String) (plain : IsWord text)
  | stream
  | autoContinue
  | valued (option : ValueOption) (raw : String) (takes : option.Takes raw)

namespace Item

/-- The arguments that an item stands for. -/
def written : Item → List String
  | word text _ => [text]
  | stream => ["--stream"]
  | autoContinue => ["--auto-concat"]
  | valued option raw _ => [option.name, raw]

/-- The word that an item is. -/
def word? : Item → Option String
  | word text _ => some text
  | _ => none

/-- The value that an item has for an option. -/
def value? (wanted : ValueOption) : Item → Option String
  | valued option raw _ => if option = wanted then some raw else none
  | _ => none

/-- The temperature that an item sets. -/
def temperature? (i : Item) : Option Float :=
  (i.value? .temperature).bind fun raw => Reading.float? raw.toList

end Item

/-- The arguments of items, one after the other. -/
def written (items : List Item) : List String := items.flatMap Item.written

/-- What items ask for together. -/
structure Meaning (items : List Item) (a : Arguments) : Prop where
  model : a.model = lastOf (Item.value? .model) items
  endpoint : a.endpoint = lastOf (Item.value? .endpoint) items
  system : a.system = lastOf (Item.value? .system) items
  temperature : a.temperature = lastOf Item.temperature? items
  stream : a.stream = true ↔ .stream ∈ items
  autoContinue : a.autoContinue = true ↔ .autoContinue ∈ items
  prompt : a.prompt = items.filterMap Item.word?

/-- Why no item begins where the arguments begin. -/
inductive Offends : List String → Fault → Prop
  | unknown {arg : String} {rest : List String} (dashes : ¬IsWord arg)
      (other : arg ∉ optionNames) : Offends (arg :: rest) (.unknownOption arg)
  | missing (option : ValueOption) : Offends [option.name] (.missingValue option.name)
  | temperature {raw : String} {rest : List String} (unread : Reading.float? raw.toList = none) :
      Offends (ValueOption.temperature.name :: raw :: rest) (.badTemperature raw)

/-! ### Steps -/

/-- The arguments read so far, with one item more. -/
def Arguments.add (a : Arguments) : Item → Arguments
  | .word text _ => { a with prompt := a.prompt ++ [text] }
  | .stream => { a with stream := true }
  | .autoContinue => { a with autoContinue := true }
  | .valued .model raw _ => { a with model := some raw }
  | .valued .endpoint raw _ => { a with endpoint := some raw }
  | .valued .system raw _ => { a with system := some raw }
  | .valued .temperature raw _ => { a with temperature := Reading.float? raw.toList }

theorem ValueOption.set_of_takes {option : ValueOption} {raw : String} (takes : option.Takes raw)
    (a : Arguments) : option.set a raw = .ok (a.add (.valued option raw takes)) := by
  cases option with
  | temperature =>
      obtain ⟨t, read⟩ := takes
      simp only [set, Arguments.add, read]
  | _ => rfl

/-- An option takes the next argument, whatever that is. -/
theorem parseAfter_valued (a : Arguments) (option : ValueOption) (raw : String)
    (rest : List String) :
    parseAfter a (option.name :: raw :: rest) =
      match option.set a raw with
      | .error f => .error f
      | .ok a => parseAfter a rest := by
  cases option <;> rfl

/-- An item is read as a whole. -/
theorem parseAfter_item (a : Arguments) (i : Item) (rest : List String) :
    parseAfter a (i.written ++ rest) = parseAfter (a.add i) rest := by
  cases i with
  | word text plain =>
      have kind : Token.of text = .word := Token.of_of_fits plain
      rw [Item.written, List.singleton_append, parseAfter.eq_def]
      dsimp only
      rw [kind]
      rfl
  | stream => rfl
  | autoContinue => rfl
  | valued option raw takes =>
      rw [Item.written, List.cons_append, List.singleton_append, parseAfter_valued,
        ValueOption.set_of_takes takes]

theorem parseAfter_of_offends {rest : List String} {f : Fault} (offends : Offends rest f)
    (a : Arguments) : parseAfter a rest = .error f := by
  cases offends with
  | @unknown arg rest dashes other =>
      have kind : Token.of arg = .unknown := Token.of_of_fits ⟨dashes, other⟩
      rw [parseAfter.eq_def]
      dsimp only
      rw [kind]
  | missing option => cases option <;> rfl
  | @temperature raw rest unread =>
      have refused : ValueOption.temperature.set a raw = .error (.badTemperature raw) := by
        simp only [ValueOption.set, unread]
      rw [parseAfter_valued, refused]

/-! ### Whole lists of arguments -/

theorem parseAfter_written (a : Arguments) (items : List Item) (rest : List String) :
    parseAfter a (written items ++ rest) = parseAfter (items.foldl Arguments.add a) rest := by
  induction items generalizing a with
  | nil => rfl
  | cons i items ih =>
      calc parseAfter a (written (i :: items) ++ rest)
          = parseAfter a (i.written ++ (written items ++ rest)) := by
            rw [written, List.flatMap_cons, List.append_assoc]
            rfl
        _ = parseAfter (a.add i) (written items ++ rest) := parseAfter_item a i _
        _ = parseAfter ((i :: items).foldl Arguments.add a) rest := ih _

theorem parse_written (items : List Item) :
    parse (written items) = .ok (items.foldl Arguments.add {}) := by
  have read := parseAfter_written {} items []
  rw [List.append_nil] at read
  exact read

theorem parse_of_offends {items : List Item} {rest : List String} {f : Fault}
    (offends : Offends rest f) : parse (written items ++ rest) = .error f := by
  rw [parse, parseAfter_written]
  exact parseAfter_of_offends offends _

/-- Arguments are items, or they begin with items and go on with an offence. -/
def Analyzed (args : List String) : Prop :=
  (∃ items, args = written items) ∨ ∃ items rest f, args = written items ++ rest ∧ Offends rest f

theorem Analyzed.after (i : Item) {args : List String} (analyzed : Analyzed args) :
    Analyzed (i.written ++ args) := by
  obtain ⟨items, rfl⟩ | ⟨items, rest, f, rfl, offends⟩ := analyzed
  · exact .inl ⟨i :: items, rfl⟩
  · refine .inr ⟨i :: items, rest, f, ?_, offends⟩
    rw [← List.append_assoc]
    rfl

theorem Analyzed.of_offends {args : List String} {f : Fault} (offends : Offends args f) :
    Analyzed args := .inr ⟨[], args, f, rfl, offends⟩

/-- There is no third way for arguments to go on. -/
theorem analyzed (args : List String) : Analyzed args := by
  match args with
  | [] => exact .inl ⟨[], rfl⟩
  | arg :: rest =>
      have fits := Token.fits_of arg
      cases kind : Token.of arg with
      | valued option =>
          rw [kind] at fits
          cases fits
          match rest with
          | [] => exact .of_offends (.missing option)
          | raw :: rest =>
              -- the value is not looked at as an argument of its own
              by_cases takes : option.Takes raw
              · exact (analyzed rest).after (.valued option raw takes)
              · cases option with
                | temperature =>
                    have unread := Option.eq_none_iff_forall_ne_some.2 (not_exists.1 takes)
                    exact .of_offends (.temperature unread)
                | _ => cases takes trivial
      | stream =>
          rw [kind] at fits
          cases fits
          exact (analyzed rest).after .stream
      | autoContinue =>
          rw [kind] at fits
          cases fits
          exact (analyzed rest).after .autoContinue
      | unknown =>
          rw [kind] at fits
          exact .of_offends (.unknown fits.1 fits.2)
      | word =>
          rw [kind] at fits
          exact (analyzed rest).after (.word arg fits)
termination_by args.length

/-! ### What the items come to -/

namespace Arguments

theorem add_model (a : Arguments) (i : Item) :
    (a.add i).model = (i.value? .model).or a.model := by
  rcases i with _ | _ | _ | ⟨_ | _ | _ | _⟩ <;> rfl

theorem add_endpoint (a : Arguments) (i : Item) :
    (a.add i).endpoint = (i.value? .endpoint).or a.endpoint := by
  rcases i with _ | _ | _ | ⟨_ | _ | _ | _⟩ <;> rfl

theorem add_system (a : Arguments) (i : Item) :
    (a.add i).system = (i.value? .system).or a.system := by
  rcases i with _ | _ | _ | ⟨_ | _ | _ | _⟩ <;> rfl

theorem add_temperature (a : Arguments) (i : Item) :
    (a.add i).temperature = i.temperature?.or a.temperature := by
  rcases i with _ | _ | _ | ⟨_ | _ | _ | _, raw, takes⟩
  case valued.temperature =>
    -- a temperature is read again when it is set; it can be read since the option takes it
    obtain ⟨t, read⟩ := takes
    show Reading.float? raw.toList = (Reading.float? raw.toList).or a.temperature
    rw [read, Option.some_or]
  all_goals rfl

theorem add_stream (a : Arguments) (i : Item) :
    (a.add i).stream = true ↔ .stream = i ∨ a.stream = true := by
  rcases i with _ | _ | _ | ⟨_ | _ | _ | _⟩ <;> simp [add]

theorem add_autoContinue (a : Arguments) (i : Item) :
    (a.add i).autoContinue = true ↔ .autoContinue = i ∨ a.autoContinue = true := by
  rcases i with _ | _ | _ | ⟨_ | _ | _ | _⟩ <;> simp [add]

theorem add_prompt (a : Arguments) (i : Item) :
    (a.add i).prompt = a.prompt ++ i.word?.toList := by
  rcases i with _ | _ | _ | ⟨_ | _ | _ | _⟩
  case word => rfl
  all_goals exact (List.append_nil _).symm

theorem foldl_add_prompt (a : Arguments) (items : List Item) :
    (items.foldl add a).prompt = a.prompt ++ items.filterMap Item.word? := by
  induction items generalizing a with
  | nil => rw [List.filterMap_nil, List.append_nil, List.foldl_nil]
  | cons i items ih =>
      have first : (i :: items).filterMap Item.word? =
          i.word?.toList ++ items.filterMap Item.word? := by
        rw [List.filterMap_cons]
        cases i.word? <;> rfl
      rw [List.foldl_cons, ih, add_prompt, first, List.append_assoc]

end Arguments

theorem meaning_foldl (items : List Item) : Meaning items (items.foldl Arguments.add {}) where
  model := by
    rw [view_foldl_or _ _ _ Arguments.add_model, Option.or_none]
  endpoint := by
    rw [view_foldl_or _ _ _ Arguments.add_endpoint, Option.or_none]
  system := by
    rw [view_foldl_or _ _ _ Arguments.add_system, Option.or_none]
  temperature := by
    rw [view_foldl_or _ _ _ Arguments.add_temperature, Option.or_none]
  stream := by
    rw [view_foldl_raised _ _ _ Arguments.add_stream]
    simp
  autoContinue := by
    rw [view_foldl_raised _ _ _ Arguments.add_autoContinue]
    simp
  prompt := Arguments.foldl_add_prompt {} items

/-- Items mean one thing. -/
theorem Meaning.unique {items : List Item} {a b : Arguments} (first : Meaning items a)
    (second : Meaning items b) : a = b := by
  obtain ⟨model, endpoint, system, temperature, stream, autoContinue, prompt⟩ := b
  have same_stream := Bool.eq_iff_iff.2 (first.stream.trans second.stream.symm)
  have same_concat := Bool.eq_iff_iff.2 (first.autoContinue.trans second.autoContinue.symm)
  have same_prompt := first.prompt.trans second.prompt.symm
  cases a
  cases first.model.trans second.model.symm
  cases first.endpoint.trans second.endpoint.symm
  cases first.system.trans second.system.symm
  cases first.temperature.trans second.temperature.symm
  cases same_stream
  cases same_concat
  cases same_prompt
  rfl

theorem parse_eq_ok_iff {items : List Item} {a : Arguments} :
    parse (written items) = .ok a ↔ Meaning items a := by
  rw [parse_written, Except.ok.injEq]
  exact ⟨fun same => same ▸ meaning_foldl items, fun means => (meaning_foldl items).unique means⟩

theorem accepted_iff {args : List String} :
    (∃ a, parse args = .ok a) ↔ ∃ items, args = written items := by
  constructor
  · rintro ⟨a, accepted⟩
    -- an offence would have been the answer
    obtain items | ⟨items, rest, f, rfl, offends⟩ := analyzed args
    · exact items
    · cases accepted.symm.trans (parse_of_offends offends)
  · rintro ⟨items, rfl⟩
    exact ⟨_, parse_written items⟩

theorem parse_eq_error_iff {args : List String} {f : Fault} :
    parse args = .error f ↔ ∃ items rest, args = written items ++ rest ∧ Offends rest f := by
  constructor
  · intro refused
    obtain ⟨items, rfl⟩ | ⟨items, rest, g, rfl, offends⟩ := analyzed args
    · cases refused.symm.trans (parse_written items)
    · cases refused.symm.trans (parse_of_offends offends)
      exact ⟨items, rest, rfl, offends⟩
  · rintro ⟨items, rest, rfl, offends⟩
    exact parse_of_offends offends

/-! ## Choices -/

/-- A list of at most one value has one order. -/
theorem eq_toList_of_perm {γ : Type} {values : List γ} {chosen : Option γ}
    (perm : values.Perm chosen.toList) : values = chosen.toList := by
  cases chosen with
  | none => exact perm.eq_nil
  | some v => exact List.perm_singleton.1 perm

theorem filterMap_chosen {γ δ : Type} (g : Item → Option δ) (item : γ → Item) (chosen : Option γ) :
    (chosen.map item).toList.filterMap g = (chosen.bind fun x => g (item x)).toList := by
  cases chosen with
  | none => rfl
  | some x =>
      rw [Option.map_some, Option.toList_some, List.filterMap_cons, List.filterMap_nil]
      show _ = (g (item x)).toList
      cases g (item x) <;> rfl

theorem filterMap_words {δ : Type} (g : Item → Option δ) {of : String → Option δ}
    (same : ∀ text plain, g (.word text plain) = of text) {texts : List String}
    (plain : ∀ text ∈ texts, IsWord text) :
    (texts.pmap Item.word plain).filterMap g = texts.filterMap of := by
  induction texts with
  | nil => rfl
  | cons text texts ih => rw [List.pmap, List.filterMap_cons, List.filterMap_cons, same, ih]

namespace Arguments

/-- Items that write down a choice: one for each option that is chosen, the flags, and the words in
order. Where the options stand among the words is left open. -/
structure Renders (a : Arguments) (items : List Item) : Prop where
  model : items.filterMap (Item.value? .model) = a.model.toList
  endpoint : items.filterMap (Item.value? .endpoint) = a.endpoint.toList
  system : items.filterMap (Item.value? .system) = a.system.toList
  temperature : items.filterMap Item.temperature? = a.temperature.toList
  stream : .stream ∈ items ↔ a.stream = true
  autoContinue : .autoContinue ∈ items ↔ a.autoContinue = true
  prompt : items.filterMap Item.word? = a.prompt

theorem Renders.meaning {a : Arguments} {items : List Item} (renders : a.Renders items) :
    Meaning items a where
  model := (lastOf_of_once renders.model).symm
  endpoint := (lastOf_of_once renders.endpoint).symm
  system := (lastOf_of_once renders.system).symm
  temperature := (lastOf_of_once renders.temperature).symm
  stream := renders.stream.symm
  autoContinue := renders.autoContinue.symm
  prompt := renders.prompt.symm

/-- The options may be moved, as long as the words keep their order. -/
theorem Renders.rearranged {a : Arguments} {items moved : List Item} (renders : a.Renders items)
    (perm : moved.Perm items) (words : moved.filterMap Item.word? = a.prompt) : a.Renders moved where
  model := eq_toList_of_perm (renders.model ▸ perm.filterMap _)
  endpoint := eq_toList_of_perm (renders.endpoint ▸ perm.filterMap _)
  system := eq_toList_of_perm (renders.system ▸ perm.filterMap _)
  temperature := eq_toList_of_perm (renders.temperature ▸ perm.filterMap _)
  stream := perm.mem_iff.trans renders.stream
  autoContinue := perm.mem_iff.trans renders.autoContinue
  prompt := words

/-- A choice can be written down if its words are none of the options and its temperature can be
spelled. -/
theorem exists_renders {a : Arguments} (plain : ∀ text ∈ a.prompt, IsWord text)
    (spelled : ∀ t, a.temperature = some t → ∃ raw : String, Reading.float? raw.toList = some t) :
    ∃ items, a.Renders items := by
  obtain ⟨warmth, read⟩ : ∃ warmth : Option { raw : String // ValueOption.temperature.Takes raw },
      warmth.bind (fun raw => Reading.float? raw.1.toList) = a.temperature := by
    -- a spelling of the temperature, if one is chosen
    cases set : a.temperature with
    | none => exact ⟨none, rfl⟩
    | some t =>
        obtain ⟨raw, read⟩ := spelled t set
        exact ⟨some ⟨raw, t, read⟩, read⟩
  let options : List Item :=
    (a.model.map fun raw => .valued .model raw trivial).toList ++
    (a.endpoint.map fun raw => .valued .endpoint raw trivial).toList ++
    (a.system.map fun raw => .valued .system raw trivial).toList ++
    (warmth.map fun raw => .valued .temperature raw.1 raw.2).toList ++
    ((Option.guard (fun _ => a.stream) ()).map fun _ => .stream).toList ++
    ((Option.guard (fun _ => a.autoContinue) ()).map fun _ => .autoContinue).toList
  -- the options first: where they stand does not matter
  refine ⟨options ++ a.prompt.pmap Item.word plain, ?_⟩
  have silent {δ : Type} (g : Item → Option δ) (mute : ∀ text plain, g (.word text plain) = none) :
      (options ++ a.prompt.pmap Item.word plain).filterMap g = options.filterMap g := by
    rw [List.filterMap_append, filterMap_words g mute, List.filterMap_eq_nil_iff.2 fun _ _ => rfl,
      List.append_nil]
  constructor
  · rw [silent _ fun _ _ => rfl]
    simp [options, filterMap_chosen, Item.value?]
  · rw [silent _ fun _ _ => rfl]
    simp [options, filterMap_chosen, Item.value?]
  · rw [silent _ fun _ _ => rfl]
    simp [options, filterMap_chosen, Item.value?]
  · rw [silent _ fun _ _ => rfl]
    simp [options, filterMap_chosen, Item.value?, Item.temperature?, read]
  · simp [options]
  · simp [options]
  · rw [List.filterMap_append, filterMap_words _ fun _ _ => rfl, List.filterMap_some]
    simp [options, filterMap_chosen, Item.word?]

end Arguments

/-- Arguments are accepted just if they are items, and then what comes out is what the items mean.
Otherwise the fault is what stands where no further item begins. So a choice comes out of everything that
renders it, the options may stand anywhere among the words, and every choice of plain words and of a
temperature that can be spelled has a rendering. -/
theorem parse_of_items :
    (∀ args, (∃ a, parse args = .ok a) ↔ ∃ items, args = written items) ∧
    (∀ items a, parse (written items) = .ok a ↔ Meaning items a) ∧
    (∀ args f, parse args = .error f ↔
      ∃ items rest, args = written items ++ rest ∧ Offends rest f) ∧
    ∀ a : Arguments,
      (∀ items, a.Renders items → parse (written items) = .ok a ∧
        ∀ moved : List Item, moved.Perm items → moved.filterMap Item.word? = a.prompt →
          a.Renders moved) ∧
      ((∀ text ∈ a.prompt, IsWord text) →
        (∀ t, a.temperature = some t → ∃ raw : String, Reading.float? raw.toList = some t) →
        ∃ items, a.Renders items) := by
  refine ⟨fun args => accepted_iff, fun items a => parse_eq_ok_iff, fun args f => parse_eq_error_iff, ?_⟩
  intro a
  constructor
  · intro items renders
    constructor
    · exact parse_eq_ok_iff.2 renders.meaning
    · intro moved perm words
      exact renders.rearranged perm words
  · exact Arguments.exists_renders

/-- Options before, between and after the words, one of them with a value that looks like a flag; then
with the flag moved to the end. -/
theorem parse_of_scattered_options :
    let a : Arguments :=
      { model := some "--stream"
        temperature := Reading.float? "0.5".toList
        autoContinue := true
        prompt := ["say", "-", "hi"] }
    parse ["--auto-concat", "say", "--model", "--stream", "-", "hi", "--temperature", "0.5"] = .ok a ∧
      parse ["say", "--model", "--stream", "-", "hi", "--temperature", "0.5", "--auto-concat"] = .ok a ∧
      ∃ items, a.Renders items := by
  intro a
  have warm : ValueOption.temperature.Takes "0.5" := ⟨_, rfl⟩
  let later : List Item :=
    [.word "say" (by decide), .valued .model "--stream" trivial, .word "-" (by decide),
      .word "hi" (by decide), .valued .temperature "0.5" warm]
  have renders : a.Renders (.autoContinue :: later) :=
    ⟨rfl, rfl, rfl, rfl, by simp [later, a], by simp [later, a], rfl⟩
  have moved : (later ++ [Item.autoContinue]).Perm (.autoContinue :: later) :=
    List.perm_append_singleton _ _
  have rendered := (parse_of_items.2.2.2 a).1
  refine ⟨(rendered _ renders).1, ?_, ?_⟩
  · exact (rendered _ ((rendered _ renders).2 _ moved rfl)).1
  · apply (parse_of_items.2.2.2 a).2
    · decide
    · intro t chosen
      exact ⟨"0.5", chosen⟩

end ChatClient.CommandLine
