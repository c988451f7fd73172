import ChatClient.Client
import ChatClient.Proofs.Assignments
import Mathlib.Data.List.Forall2
import Mathlib.Logic.Function.Basic

/-!
# Layers of settings

A setting of a client is looked for in four layers (`Setting.Layered`). The last call of the builder
for that setting comes first, then the explicit settings if any were given, else the environment
variable of the setting, and at last the default. The layers are looked through for each setting on
its own (`Setting.layered_iff`), so calls for different settings commute
(`Builder.call_comm`), and a variable matters for its own setting only
(`Setting.of_settings_congr`).

The cap on rounds has a fifth layer, the completion itself. Zero stands for no cap wherever a cap is
set by number or text (`settings_layered`).
-/

namespace ChatClient

/-! ## Texts without slashes at their ends -/

namespace Text

/-- What is dropped at the end is a run of the character, and the rest does not end with it. -/
theorem eq_dropTrailing_iff {c : Char} {s short : List Char} :
    short = dropTrailing (· == c) s ↔
      (∃ n, s = short ++ List.replicate n c) ∧ short.getLast? ≠ some c := by
  have kept {d : Char} (other : d ≠ c) (front : List Char) :
      dropTrailing (· == c) (front ++ [d]) = front ++ [d] :=
    dropTrailing_concat_of_neg front (beq_false_of_ne other)
  have dropped (front : List Char) :
      dropTrailing (· == c) (front ++ [c]) = dropTrailing (· == c) front :=
    dropTrailing_concat_of_pos front (beq_self_eq_true c)
  -- both directions go from the end of the text inwards, as the characters are dropped
  constructor
  · rintro rfl
    induction s using List.reverseRecOn with
    | nil => exact ⟨⟨0, rfl⟩, nofun⟩
    | append_singleton s d ih =>
        by_cases same : d = c
        · subst same
          obtain ⟨⟨n, run⟩, rest⟩ := ih
          rw [dropped]
          refine ⟨⟨n + 1, ?_⟩, rest⟩
          rw [List.replicate_succ', ← List.append_assoc, ← run]
        · rw [kept same, List.getLast?_concat]
          refine ⟨⟨0, (List.append_nil _).symm⟩, ?_⟩
          intro last
          exact same (Option.some.inj last)
  · rintro ⟨⟨n, rfl⟩, rest⟩
    induction n with
    | zero =>
        rw [List.replicate_zero, List.append_nil]
        rcases short.eq_nil_or_concat with rfl | ⟨front, d, rfl⟩
        · rfl
        · rw [List.concat_eq_append, List.getLast?_concat] at rest
          have other : d ≠ c := by
            intro same
            exact rest (congrArg some same)
          rw [List.concat_eq_append, kept other]
    | succ n ih => rw [List.replicate_succ', ← List.append_assoc, dropped, ← ih]

end Text

/-- The second text is the first one without the slashes at its end. -/
structure SlashesDropped (url short : String) : Prop where
  slashes : ∃ n, url.toList = short.toList ++ List.replicate n '/'
  no_more : short.toList.getLast? ≠ some '/'

theorem slashesDropped_iff {url short : String} :
    SlashesDropped url short ↔ short = dropTrailingSlashes url := by
  have texts : short = dropTrailingSlashes url ↔
      short.toList = Text.dropTrailing (· == '/') url.toList := by
    rw [dropTrailingSlashes, ← String.toList_inj, String.toList_ofList]
  rw [texts, Text.eq_dropTrailing_iff]
  constructor
  · rintro ⟨slashes, no_more⟩
    exact ⟨slashes, no_more⟩
  · rintro ⟨slashes, no_more⟩
    exact ⟨slashes, no_more⟩

/-! ## Settings by name -/

/-- A setting of a client. -/
inductive Setting where
  | baseUrl
  | accessToken
  | ak
  | sk
  | disableAlternate
  | retryCodes
  | maxWait
  | jitter
  | maxRounds
deriving DecidableEq, Repr

namespace Setting

/-- What a setting is set to. -/
abbrev Value : Setting → Type
  | .baseUrl => String
  | .accessToken | .ak | .sk => Option String
  | .disableAlternate => Bool
  | .retryCodes => CodeSet
  | .maxWait => Duration
  | .jitter => Float
  | .maxRounds => Option Nat

/-- The value of a setting. -/
def of (s : Settings) : (x : Setting) → x.Value
  | .baseUrl => s.baseUrl
  | .accessToken => s.credentials.accessToken
  | .ak => s.credentials.ak
  | .sk => s.credentials.sk
  | .disableAlternate => s.disableAlternate
  | .retryCodes => s.retryCodes
  | .maxWait => s.maxWait
  | .jitter => s.jitter
  | .maxRounds => s.maxRounds

/-- The environment variable of a setting. -/
def source : Setting → String
  | .baseUrl => "QIANFAN_BASE_URL"
  | .accessToken => "QIANFAN_ACCESS_TOKEN"
  | .ak => "QIANFAN_AK"
  | .sk => "QIANFAN_SK"
  | .disableAlternate => "QIANFAN_DISABLE_EB_SDK"
  | .retryCodes => "QIANFAN_LLM_API_RETRY_ERR_CODES"
  | .maxWait => "QIANFAN_LLM_API_RETRY_MAX_WAIT_INTERVAL"
  | .jitter => "QIANFAN_LLM_API_RETRY_JITTER"
  | .maxRounds => "QIANFAN_MAX_CONTINUATION_ROUNDS"

/-- No two settings have a variable in common. -/
theorem source_injective : Function.Injective source := by
  intro x y same
  cases x <;> cases y <;> first | rfl | exact absurd same (by decide)

/-- The reader of the variable of a setting. -/
def read? : (x : Setting) → String → Option x.Value
  | .baseUrl, text => Settings.baseUrl? text
  | .accessToken, text => (Settings.secret? text).map some
  | .ak, text => (Settings.secret? text).map some
  | .sk, text => (Settings.secret? text).map some
  | .disableAlternate, text => Settings.flag? text
  | .retryCodes, text => Settings.codes? text
  | .maxWait, text => Settings.wait? text
  | .jitter, text => Settings.jitter? text
  | .maxRounds, text => Settings.cap? text

/-- The words for a truth value. -/
def words : Bool → List String
  | true => ["1", "true", "yes", "on"]
  | false => ["0", "false", "no", "off"]

/-- A text is one for that value of the setting. A text that is one for no value is malformed. -/
def Denotes : (x : Setting) → String → x.Value → Prop
  | .baseUrl, text, url => trimBlank text ≠ "" ∧ SlashesDropped (trimBlank text) url
  | .accessToken, text, secret => text ≠ "" ∧ secret = some text
  | .ak, text, secret => text ≠ "" ∧ secret = some text
  | .sk, text, secret => text ≠ "" ∧ secret = some text
  | .disableAlternate, text, flag =>
      String.ofList (Text.lowerAscii (Text.trim text.toList)) ∈ words flag
  | .retryCodes, text, codes => ∃ values,
      List.Forall₂ (fun item n => Reading.signed64? item = some n)
        (((Text.pieces ',' text.toList).map Text.trim).filter (· ≠ [])) values ∧
      codes = CodeSet.ofList values
  | .maxWait, text, wait => ∃ x, Settings.seconds? text = some x ∧
      Duration.ofFloatSeconds? x = some wait
  | .jitter, text, x => Settings.seconds? text = some x ∧ ∃ wait,
      Duration.ofFloatSeconds? x = some wait
  | .maxRounds, text, cap => ∃ n, Reading.unsigned32? (Text.trim text.toList) = some n ∧
      cap = Settings.capOf n

/-! ### Readers -/

theorem flag?_eq_some_iff {text : String} {flag : Bool} :
    Settings.flag? text = some flag ↔
      String.ofList (Text.lowerAscii (Text.trim text.toList)) ∈ words flag := by
  -- no word stands for both truth values, so it does not matter which list is asked first
  have disjoint : ∀ word ∈ words false, word ∉ words true := by decide
  rw [Settings.flag?]
  generalize String.ofList (Text.lowerAscii (Text.trim text.toList)) = word
  show (if (words true).contains word then some true
    else if (words false).contains word then some false else none) = some flag ↔ _
  by_cases yes : word ∈ words true
  · rw [if_pos (List.contains_iff_mem.2 yes)]
    cases flag with
    | true => exact ⟨fun _ => yes, fun _ => rfl⟩
    | false => exact ⟨nofun, fun no => absurd yes (disjoint word no)⟩
  · rw [if_neg (mt List.contains_iff_mem.1 yes), Option.ite_none_right_eq_some,
      List.contains_iff_mem]
    cases flag with
    | true => exact ⟨nofun, fun h => absurd h yes⟩
    | false => exact ⟨And.left, fun no => ⟨no, rfl⟩⟩

theorem secret?_eq_some_iff {text secret : String} :
    Settings.secret? text = some secret ↔ text ≠ "" ∧ secret = text := by
  rw [Settings.secret?, Option.ite_none_left_eq_some, Option.some.injEq]
  exact and_congr_right fun _ => eq_comm

theorem map_secret?_eq_some_iff {text : String} {secret : Option String} :
    (Settings.secret? text).map some = some secret ↔ text ≠ "" ∧ secret = some text := by
  rw [Option.map_eq_some_iff]
  constructor
  · rintro ⟨own, read, rfl⟩
    obtain ⟨more, rfl⟩ := secret?_eq_some_iff.1 read
    exact ⟨more, rfl⟩
  · rintro ⟨more, rfl⟩
    exact ⟨text, secret?_eq_some_iff.2 ⟨more, rfl⟩, rfl⟩

theorem baseUrl?_eq_some_iff {text url : String} :
    Settings.baseUrl? text = some url ↔
      trimBlank text ≠ "" ∧ SlashesDropped (trimBlank text) url := by
  rw [Settings.baseUrl?, slashesDropped_iff, Option.ite_none_left_eq_some, Option.some.injEq]
  exact and_congr_right fun _ => eq_comm

/-- A list is read if each of its items is. -/
theorem mapM_eq_some_iff {α β : Type} {f : α → Option β} {as : List α} {bs : List β} :
    as.mapM f = some bs ↔ List.Forall₂ (fun a b => f a = some b) as bs := by
  induction as generalizing bs with
  | nil =>
      rw [List.mapM_nil, List.forall₂_nil_left_iff]
      exact ⟨fun same => (Option.some.inj same).symm, fun same => congrArg some same.symm⟩
  | cons a as ih =>
      simp only [List.mapM_cons, bind, pure, Option.bind_eq_some_iff, Option.some.injEq, ih,
        List.forall₂_cons_left_iff]
      constructor
      · rintro ⟨b, first, rest, others, rfl⟩
        exact ⟨b, rest, first, others, rfl⟩
      · rintro ⟨b, rest, first, others, rfl⟩
        exact ⟨b, first, rest, others, rfl⟩

theorem read?_eq_some_iff {x : Setting} {text : String} {v : x.Value} :
    x.read? text = some v ↔ x.Denotes text v := by
  cases x with
  | baseUrl => exact baseUrl?_eq_some_iff
  | accessToken => exact map_secret?_eq_some_iff
  | ak => exact map_secret?_eq_some_iff
  | sk => exact map_secret?_eq_some_iff
  | disableAlternate => exact flag?_eq_some_iff
  | retryCodes =>
      show Settings.codes? text = some v ↔ _
      rw [Settings.codes?, Option.map_eq_some_iff]
      constructor
      · rintro ⟨values, read, rfl⟩
        exact ⟨values, mapM_eq_some_iff.1 read, rfl⟩
      · rintro ⟨values, read, rfl⟩
        exact ⟨values, mapM_eq_some_iff.2 read, rfl⟩
  | maxWait => exact Option.bind_eq_some_iff
  | jitter =>
      show Settings.jitter? text = some v ↔ _
      rw [Settings.jitter?, Option.filter_eq_some_iff, Option.isSome_iff_exists]
      rfl
  | maxRounds =>
      show Settings.cap? text = some v ↔ _
      rw [Settings.cap?, Option.map_eq_some_iff]
      constructor
      · rintro ⟨n, read, rfl⟩
        exact ⟨n, read, rfl⟩
      · rintro ⟨n, read, rfl⟩
        exact ⟨n, read, rfl⟩

/-- The settings of an environment are found each in its own variable, or else are the default. -/
theorem of_ofEnvironment (env : Environment) (x : Setting) :
    x.of (Settings.ofEnvironment env) = ((env x.source).bind x.read?).getD (x.of {}) := by
  -- a secret that is absent by default and one that is not read are the same
  have secrets (o : Option String) :
      o.bind Settings.secret? = (o.bind fun text => (Settings.secret? text).map some).getD none := by
    cases o with
    | none => rfl
    | some text =>
        rw [Option.bind_some, Option.bind_some]
        cases Settings.secret? text with
        | none => rfl
        | some secret => rfl
  cases x with
  | accessToken => exact secrets _
  | ak => exact secrets _
  | sk => exact secrets _
  | _ => rfl

end Setting

/-! ## Calls of the builder -/

namespace Builder

/-- A call of the builder that sets something. -/
inductive Call where
  | settings (s : Settings)
  | baseUrl (url : String)
  | accessToken (token : String)
  | ak (key : String)
  | sk (key : String)
  | disableAlternate (disable : Bool)
  | maxRounds (rounds : Nat)

/-- The builder after a call. -/
def call (b : Builder) : Call → Builder
  | .settings s => b.withSettings s
  | .baseUrl url => b.withBaseUrl url
  | .accessToken token => b.withAccessToken token
  | .ak key => b.withAk key
  | .sk key => b.withSk key
  | .disableAlternate disable => b.withDisableAlternate disable
  | .maxRounds rounds => b.withMaxRounds rounds

/-- The builder after calls, one after the other. -/
def callAll (b : Builder) (calls : List Call) : Builder := calls.foldl call b

namespace Call

/-- The explicit settings that a call gives. -/
def settings? : Call → Option Settings
  | .settings s => some s
  | _ => none

/-- The setting that a call is for; explicit settings are for none in particular. -/
def target : Call → Option Setting
  | .settings _ => none
  | .baseUrl _ => some .baseUrl
  | .accessToken _ => some .accessToken
  | .ak _ => some .ak
  | .sk _ => some .sk
  | .disableAlternate _ => some .disableAlternate
  | .maxRounds _ => some .maxRounds

/-- The value that a call has for a setting, if it is a call for that one. -/
def value? : Call → (x : Setting) → Option x.Value
  | .baseUrl url, .baseUrl => some (dropTrailingSlashes url)
  | .accessToken token, .accessToken => some (some token)
  | .ak key, .ak => some (some key)
  | .sk key, .sk => some (some key)
  | .disableAlternate disable, .disableAlternate => some disable
  | .maxRounds rounds, .maxRounds => some (Settings.capOf rounds)
  | _, _ => none

/-- A call has a value for the setting that it is for, and for no other. -/
theorem isSome_value?_iff (c : Call) (x : Setting) :
    (c.value? x).isSome = true ↔ c.target = some x := by
  cases c <;> cases x <;> first | exact ⟨fun _ => rfl, fun _ => rfl⟩ | exact ⟨nofun, nofun⟩

end Call

/-- The value that the builder holds for a setting. -/
def held (b : Builder) : (x : Setting) → Option x.Value
  | .baseUrl => b.baseUrl.map dropTrailingSlashes
  | .accessToken => b.accessToken.map some
  | .ak => b.ak.map some
  | .sk => b.sk.map some
  | .disableAlternate => b.disableAlternate
  | .maxRounds => b.maxRounds
  | .retryCodes | .maxWait | .jitter => none

theorem held_call (b : Builder) (c : Call) (x : Setting) :
    (b.call c).held x = (c.value? x).or (b.held x) := by
  cases c <;> cases x <;> rfl

theorem base_call (b : Builder) (c : Call) : (b.call c).base = c.settings?.or b.base := by
  cases c <;> rfl

/-- What the builder holds comes first, then the explicit settings or the environment. -/
theorem of_settings (b : Builder) (env : Environment) (x : Setting) :
    x.of (b.settings env) = (b.held x).getD (x.of (b.base.getD (.ofEnvironment env))) := by
  have secrets (o below : Option String) : o.or below = (o.map some).getD below := by
    cases o with
    | none => rfl
    | some secret => rfl
  cases x with
  | accessToken => exact secrets _ _
  | ak => exact secrets _ _
  | sk => exact secrets _ _
  | _ => rfl

/-- Calls for different settings commute. -/
theorem call_comm (b : Builder) {c d : Call} (different : c.target ≠ d.target) :
    (b.call c).call d = (b.call d).call c := by
  -- two calls of one kind have the same target; any others write to different fields
  cases c <;> cases d <;> first | rfl | exact absurd rfl different

/-- After calls the builder holds the last value called for. -/
theorem held_callAll (calls : List Call) (x : Setting) :
    (callAll {} calls).held x = lastOf (·.value? x) calls := by
  have start : ({} : Builder).held x = none := by cases x <;> rfl
  have last := view_foldl_or call (·.held x) (·.value? x) (fun b c => b.held_call c x) {} calls
  rw [start, Option.or_none] at last
  exact last

theorem base_callAll (calls : List Call) :
    (callAll {} calls).base = lastOf Call.settings? calls := by
  have last := view_foldl_or call base Call.settings? base_call {} calls
  rw [Option.or_none] at last
  exact last

end Builder

/-! ## Layers -/

namespace Setting

/-- The value of a setting, looked for in one layer after the other: the calls of the builder for
it, the explicit settings, the environment variable, the default. Explicit settings stand in place
of the environment as a whole. -/
inductive Layered (env : Environment) (calls : List Builder.Call) (x : Setting) : x.Value → Prop
  | called {v : x.Value} (last : lastOf (·.value? x) calls = some v) : Layered env calls x v
  | explicit {s : Settings} (uncalled : lastOf (·.value? x) calls = none)
      (last : lastOf Builder.Call.settings? calls = some s) : Layered env calls x (x.of s)
  | environment {text : String} {v : x.Value} (uncalled : lastOf (·.value? x) calls = none)
      (implicit : lastOf Builder.Call.settings? calls = none) (set : env x.source = some text)
      (denotes : x.Denotes text v) : Layered env calls x v
  | default (uncalled : lastOf (·.value? x) calls = none)
      (implicit : lastOf Builder.Call.settings? calls = none)
      (unset : ∀ text v, env x.source = some text → ¬x.Denotes text v) :
      Layered env calls x (x.of {})

variable {env : Environment} {calls : List Builder.Call} {x : Setting} {v : x.Value}

/-- The reader of the variable finds nothing just if the variable is unset or malformed. -/
theorem bind_read?_eq_none_iff :
    (env x.source).bind x.read? = none ↔
      ∀ text v, env x.source = some text → ¬x.Denotes text v := by
  rw [Option.bind_eq_none_iff]
  constructor
  · intro unread text v set denotes
    cases (unread text set).symm.trans (read?_eq_some_iff.2 denotes)
  · intro unset text set
    rw [Option.eq_none_iff_forall_ne_some]
    exact fun v read => unset text v set (read?_eq_some_iff.1 read)

/-- In the settings of a client each one has the value of the first layer that has any. -/
theorem layered_iff :
    Layered env calls x v ↔ x.of ((Builder.callAll {} calls).settings env) = v := by
  rw [Builder.of_settings, Builder.held_callAll, Builder.base_callAll]
  constructor
  · intro layered
    cases layered with
    | called last => rw [last, Option.getD_some]
    | explicit uncalled last => rw [uncalled, last, Option.getD_none, Option.getD_some]
    | environment uncalled implicit set denotes =>
        rw [uncalled, implicit, Option.getD_none, Option.getD_none, of_ofEnvironment, set,
          Option.bind_some, read?_eq_some_iff.2 denotes, Option.getD_some]
    | default uncalled implicit unset =>
        rw [uncalled, implicit, Option.getD_none, Option.getD_none, of_ofEnvironment,
          bind_read?_eq_none_iff.2 unset, Option.getD_none]
  · -- the layers are asked in turn, and the first that has a value gives it
    rintro rfl
    cases uncalled : lastOf (·.value? x) calls with
    | some v => exact .called uncalled
    | none =>
        cases implicit : lastOf Builder.Call.settings? calls with
        | some s => exact .explicit uncalled implicit
        | none =>
            rw [Option.getD_none, Option.getD_none, of_ofEnvironment]
            cases read : (env x.source).bind x.read? with
            | none => exact .default uncalled implicit (bind_read?_eq_none_iff.1 read)
            | some v =>
                obtain ⟨text, set, denoted⟩ := Option.bind_eq_some_iff.1 read
                exact .environment uncalled implicit set (read?_eq_some_iff.1 denoted)

/-- A variable matters for its own setting only. -/
theorem of_settings_congr (b : Builder) {env env' : Environment} (x : Setting)
    (same : env' x.source = env x.source) : x.of (b.settings env') = x.of (b.settings env) := by
  rw [Builder.of_settings, Builder.of_settings]
  cases b.base with
  | some s => rfl
  | none => rw [Option.getD_none, Option.getD_none, of_ofEnvironment, of_ofEnvironment, same]

end Setting

/-! ## The cap on rounds -/

/-- Zero stands for no cap, every other number for itself. -/
theorem Settings.capOf_cases (n : Nat) :
    n = 0 ∧ Settings.capOf n = none ∨ 0 < n ∧ Settings.capOf n = some n := by
  rcases Nat.eq_zero_or_pos n with rfl | positive
  · exact .inl ⟨rfl, rfl⟩
  · exact .inr ⟨positive, if_pos positive⟩

theorem Settings.capOf_ne_zero (n : Nat) : Settings.capOf n ≠ some 0 := by
  rcases Settings.capOf_cases n with ⟨-, unbounded⟩ | ⟨positive, bounded⟩
  · rw [unbounded]
    nofun
  · rw [bounded]
    intro zero
    exact absurd (Option.some.inj zero) (Nat.ne_of_gt positive)

/-- Without a cap every round may begin. -/
theorem Continuation.State.exists_beginRound {st : State} (unbounded : st.maxRounds = none) :
    ∃ st', st.beginRound = .ok st' := by
  rw [beginRound, atCap, unbounded]
  exact ⟨_, rfl⟩

/-- Neither a variable nor a call for the cap sets it to no rounds at all; only explicit settings
may say that. -/
theorem Setting.maxRounds_ne_zero {env : Environment} {calls : List Builder.Call}
    (free : ∀ s, .settings s ∈ calls → s.maxRounds ≠ some 0) :
    ((Builder.callAll {} calls).settings env).maxRounds ≠ some 0 := by
  have layered : Layered env calls .maxRounds
      (of ((Builder.callAll {} calls).settings env) .maxRounds) := layered_iff.2 rfl
  show of ((Builder.callAll {} calls).settings env) .maxRounds ≠ some 0
  generalize of ((Builder.callAll {} calls).settings env) .maxRounds = cap at layered
  -- calls and variables set the cap by number
  cases layered with
  | called last =>
      obtain ⟨c, -, called⟩ := exists_of_lastOf last
      cases c with
      | maxRounds n =>
          cases called
          exact Settings.capOf_ne_zero n
      | _ => cases called
  | explicit uncalled last =>
      obtain ⟨c, among, given⟩ := exists_of_lastOf last
      cases c with
      | settings s =>
          cases given
          exact free _ among
      | _ => cases given
  | environment uncalled implicit set denotes =>
      obtain ⟨n, -, rfl⟩ := denotes
      exact Settings.capOf_ne_zero n
  | default => decide

namespace Client

variable {σ : Type}

/-- How a client bounds the rounds of its completions: by the cap of the completion if it has one,
else by that of the settings. A completion is the one that a client with this cap would answer if
the completion had none of its own. -/
structure Caps (c : Client σ) : Prop where
  own : ∀ q cap, q.maxRounds = some cap → c.cap q = cap
  set : ∀ (q : CompletionRequest) n, c.cap (q.withMaxRounds n) = Settings.capOf n
  inherited : ∀ q, q.maxRounds = none → c.cap q = c.settings.maxRounds
  used : ∀ g q w, c.complete g q w =
    { c with settings := { c.settings with maxRounds := c.cap q } }.complete g
      { q with maxRounds := none } w

theorem caps (c : Client σ) : c.Caps where
  own := by
    intro q cap own
    rw [Client.cap, own, Option.getD_some]
  set _ _ := rfl
  inherited := by
    intro q none
    rw [Client.cap, none, Option.getD_none]
  -- nothing but the cap is read of what differs
  used _ _ _ := rfl

end Client

/-- Settings are layered, each on its own. Whatever the environment and the calls of the builder, in
any order and with repetitions, a setting has the value of the last call for it, else that of the
explicit settings if any were given, else what its variable denotes, else the default. Calls for
different settings commute, and a change of one variable changes no setting but its own.

A completion is bounded by its own cap, else by that of the client. In a variable, in a call of the
builder and in a completion zero stands for no cap, so none of them sets the cap to no rounds at all;
without a cap every round may begin. -/
theorem settings_layered :
    (∀ (env : Environment) (calls : List Builder.Call) (x : Setting) (v : x.Value),
      x.of ((Builder.callAll {} calls).settings env) = v ↔ x.Layered env calls v) ∧
    (∀ (c : Builder.Call) (x : Setting), (c.value? x).isSome = true ↔ c.target = some x) ∧
    (∀ url short : String, SlashesDropped url short ↔ short = dropTrailingSlashes url) ∧
    (∀ (b : Builder) (c d : Builder.Call), c.target ≠ d.target →
      (b.call c).call d = (b.call d).call c) ∧
    (Function.Injective Setting.source ∧
      ∀ (b : Builder) (env : Environment) (name : String) (text : Option String) (x : Setting),
        name ≠ x.source → x.of (b.settings (Function.update env name text)) = x.of (b.settings env)) ∧
    (∀ {σ : Type} (c : Client σ), c.Caps) ∧
    (∀ n, n = 0 ∧ Settings.capOf n = none ∨ 0 < n ∧ Settings.capOf n = some n) ∧
    (∀ (env : Environment) (calls : List Builder.Call),
      (∀ s, .settings s ∈ calls → s.maxRounds ≠ some 0) →
        ((Builder.callAll {} calls).settings env).maxRounds ≠ some 0) ∧
    ∀ st : Continuation.State, st.maxRounds = none → ∃ st', st.beginRound = .ok st' := by
  refine ⟨?_, Builder.Call.isSome_value?_iff, fun _ _ => slashesDropped_iff, ?_,
    ⟨Setting.source_injective, ?_⟩, Client.caps, Settings.capOf_cases, ?_, ?_⟩
  · intro env calls x v
    exact Setting.layered_iff.symm
  · intro b c d different
    exact b.call_comm different
  · intro b env name text x other
    exact Setting.of_settings_congr b x (Function.update_of_ne other.symm text env)
  · intro env calls free
    exact Setting.maxRounds_ne_zero free
  · intro st unbounded
    exact Continuation.State.exists_beginRound unbounded

/-- Two calls for the base URL, over a variable for it; one secret from a call, another one from its
variable; a flag that is malformed, and zero for the cap. -/
theorem settings_layered_of_two_calls :
    let env : Environment := fun name =>
      if name = "QIANFAN_BASE_URL" then some " http://environment// "
      else if name = "QIANFAN_SK" then some "secret"
      else if name = "QIANFAN_DISABLE_EB_SDK" then some "perhaps"
      else if name = "QIANFAN_MAX_CONTINUATION_ROUNDS" then some " +0 "
      else none
    let calls : List Builder.Call := [.baseUrl "http://first", .ak "key", .baseUrl "http://last//"]
    let s := (Builder.callAll {} calls).settings env
    s.baseUrl = "http://last" ∧ s.credentials.ak = some "key" ∧
      s.credentials.sk = some "secret" ∧ s.credentials.accessToken = none ∧
      s.disableAlternate = true ∧ s.maxRounds = none := by
  intro env calls s
  have layers := settings_layered.1 env calls
  refine ⟨?_, ?_, ?_, ?_, ?_, ?_⟩
  · exact (layers .baseUrl _).2 (.called rfl)
  · exact (layers .ak _).2 (.called rfl)
  · exact (layers .sk _).2 (.environment rfl rfl rfl ⟨by decide, rfl⟩)
  · exact (layers .accessToken _).2 (.default rfl rfl nofun)
  · refine (layers .disableAlternate _).2 (.default rfl rfl ?_)
    intro text flag set
    cases set
    have unknown : ∀ flag, "perhaps" ∉ Setting.words flag := by decide
    exact unknown flag
  · exact (layers .maxRounds _).2 (.environment rfl rfl rfl ⟨0, by decide, rfl⟩)

end ChatClient
