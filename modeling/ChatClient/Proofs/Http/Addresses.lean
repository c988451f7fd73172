import ChatClient.Http.Transport
import ChatClient.Proofs.Settings.Layers
import Mathlib.Data.List.TakeWhile

/-!
# Where a call goes

The URL of a call is made of a base, which comes from the settings, and of a path, which comes from the
call. The base may be given with slashes at its end and an endpoint with slashes at its start: they are
dropped, wherever the base was given, and one slash joins the parts (`JoinedBySlash`). A call that
names no endpoint, or an empty one, goes to the path of its model in the catalog, and it fails before
any attempt just if its model is not listed there (`Http.Transport.url_joined`).
-/

namespace ChatClient

/-! ## Slashes -/

/-- Without slashes at its end a text stays as it is. -/
theorem SlashesDropped.self {s : String} (no_more : s.toList.getLast? ≠ some '/') :
    SlashesDropped s s where
  slashes := ⟨0, (List.append_nil _).symm⟩
  no_more := no_more

/-- It does not matter how often the slashes at the end are dropped. -/
theorem dropTrailingSlashes_twice (s : String) :
    dropTrailingSlashes (dropTrailingSlashes s) = dropTrailingSlashes s := by
  have once : SlashesDropped s (dropTrailingSlashes s) := slashesDropped_iff.2 rfl
  exact (slashesDropped_iff.1 (SlashesDropped.self once.no_more)).symm

/-- The second text is the first one without the slashes at its start. -/
structure LeadingSlashesDropped (text short : String) : Prop where
  slashes : ∃ n, text.toList = List.replicate n '/' ++ short.toList
  no_more : short.toList.head? ≠ some '/'

theorem leadingSlashesDropped_iff {text short : String} :
    LeadingSlashesDropped text short ↔ short = dropLeadingSlashes text := by
  constructor
  · rintro ⟨⟨n, slashes⟩, no_more⟩
    have kept : short.toList.dropWhile (· == '/') = short.toList := by
      cases rest : short.toList with
      | nil => rfl
      | cons c s =>
          rw [rest, List.head?_cons] at no_more
          exact List.dropWhile_cons_of_neg fun same => no_more (congrArg some (beq_iff_eq.1 same))
    rw [dropLeadingSlashes, slashes, List.dropWhile_append_of_pos, kept, String.ofList_toList]
    intro c among
    exact beq_iff_eq.2 (List.eq_of_mem_replicate among)
  · rintro rfl
    rw [dropLeadingSlashes]
    constructor
    · refine ⟨(text.toList.takeWhile (· == '/')).length, ?_⟩
      have run : text.toList.takeWhile (· == '/') =
          List.replicate (text.toList.takeWhile (· == '/')).length '/' := by
        apply List.eq_replicate_of_mem
        intro c among
        have slash := List.mem_takeWhile_imp among
        exact beq_iff_eq.1 slash
      rw [String.toList_ofList, ← run, List.takeWhile_append_dropWhile]
    · rw [String.toList_ofList]
      intro first
      have other := List.head?_dropWhile_not (· == '/') text.toList
      rw [first] at other
      cases other

/-- One slash joins the two parts, and no other stands beside it. -/
structure JoinedBySlash (front back whole : String) : Prop where
  joined : whole = front ++ "/" ++ back
  ends : front.toList.getLast? ≠ some '/'
  begins : back.toList.head? ≠ some '/'

/-- A base and a path with a name, each without slashes of its own where they meet. -/
theorem joinedBySlash_of_path {base name : String} (ends : base.toList.getLast? ≠ some '/')
    (begins : name.toList.head? ≠ some '/') :
    JoinedBySlash base ("chat/" ++ name) (base ++ ("/chat/" ++ name)) ∧
      JoinedBySlash (base ++ "/chat") name (base ++ ("/chat/" ++ name)) := by
  constructor
  · refine ⟨?_, ends, ?_⟩
    · simp [← String.toList_inj]
    · simp
  · refine ⟨?_, ?_, begins⟩
    · simp [← String.toList_inj]
    · simp

/-! ## Bases -/

namespace Builder

/-- The base URL that a client is given, as it is written there: by the builder, in explicit settings,
or in the environment with blanks around it. A blank variable counts as unset. -/
inductive GivesUrl (b : Builder) (env : Environment) : String → Prop
  | called {url : String} (called : b.baseUrl = some url) : GivesUrl b env url
  | explicit {s : Settings} (uncalled : b.baseUrl = none) (explicit : b.base = some s) :
      GivesUrl b env s.baseUrl
  | environment {text : String} (uncalled : b.baseUrl = none) (implicit : b.base = none)
      (set : env "QIANFAN_BASE_URL" = some text) (more : trimBlank text ≠ "") :
      GivesUrl b env (trimBlank text)
  | default (uncalled : b.baseUrl = none) (implicit : b.base = none)
      (unset : ∀ text, env "QIANFAN_BASE_URL" = some text → trimBlank text = "") :
      GivesUrl b env ({} : Settings).baseUrl

variable {b : Builder} {env : Environment}

theorem exists_givesUrl (b : Builder) (env : Environment) : ∃ url, b.GivesUrl env url := by
  cases called : b.baseUrl with
  | some url => exact ⟨url, .called called⟩
  | none =>
      cases explicit : b.base with
      | some s => exact ⟨s.baseUrl, .explicit called explicit⟩
      | none =>
          cases set : env "QIANFAN_BASE_URL" with
          | none => exact ⟨_, .default called explicit fun text set' => nomatch set.symm.trans set'⟩
          | some text =>
              by_cases blank : trimBlank text = ""
              · refine ⟨_, .default called explicit ?_⟩
                rintro _ same
                cases set.symm.trans same
                exact blank
              · exact ⟨_, .environment called explicit set blank⟩

/-- Wherever the base URL comes from, the executor has it without the slashes at its end. -/
theorem baseUrl_ofSettings {given : String} (gives : b.GivesUrl env given) :
    (Http.Transport.ofSettings (b.settings env)).baseUrl = dropTrailingSlashes given := by
  have drops : (Http.Transport.ofSettings (b.settings env)).baseUrl = dropTrailingSlashes
      ((b.baseUrl.map dropTrailingSlashes).getD (b.base.getD (.ofEnvironment env)).baseUrl) := rfl
  rw [drops]
  -- the builder and the environment have dropped them before, the executor does it for explicit settings
  cases gives with
  | called called =>
      rw [called, Option.map_some, Option.getD_some]
      exact dropTrailingSlashes_twice _
  | explicit uncalled explicit => rw [uncalled, explicit, Option.map_none, Option.getD_none,
      Option.getD_some]
  | @environment text uncalled implicit set more =>
      have read : (Settings.ofEnvironment env).baseUrl = dropTrailingSlashes (trimBlank text) := by
        show ((env "QIANFAN_BASE_URL").bind Settings.baseUrl?).getD _ = _
        rw [set, Option.bind_some, Settings.baseUrl?, if_neg more, Option.getD_some]
      rw [uncalled, implicit, Option.map_none, Option.getD_none, Option.getD_none, read]
      exact dropTrailingSlashes_twice _
  | default uncalled implicit unset =>
      have unread : (Settings.ofEnvironment env).baseUrl = ({} : Settings).baseUrl := by
        show ((env "QIANFAN_BASE_URL").bind Settings.baseUrl?).getD _ = _
        cases set : env "QIANFAN_BASE_URL" with
        | none => rfl
        | some text => rw [Option.bind_some, Settings.baseUrl?, if_pos (unset text set),
            Option.getD_none]
      rw [uncalled, implicit, Option.map_none, Option.getD_none, Option.getD_none, unread]

end Builder

/-! ## Paths -/

namespace Catalog

/-- The path that a call with this model and this endpoint goes to. An endpoint counts whatever the
model, unless it is empty. -/
inductive Leads (model endpoint : Option String) : String → Prop
  | endpoint {e name : String} (named : endpoint = some e) (more : e ≠ "")
      (dropped : LeadingSlashesDropped e name) : Leads model endpoint ("/chat/" ++ name)
  | model {info : ModelInfo} (unnamed : endpoint = none ∨ endpoint = some "")
      (listed : info ∈ models) (called : model.getD defaultModel = info.name) :
      Leads model endpoint info.path

/-- The call names no endpoint, and a model outside the catalog. -/
structure LeadsNowhere (model endpoint : Option String) (name : String) : Prop where
  unnamed : endpoint = none ∨ endpoint = some ""
  named : model = some name
  unlisted : name ∉ names

variable {model endpoint : Option String}

theorem namedEndpoint?_eq_none_iff :
    namedEndpoint? endpoint = none ↔ endpoint = none ∨ endpoint = some "" := by
  cases endpoint with
  | none => exact ⟨fun _ => .inl rfl, fun _ => rfl⟩
  | some e =>
      rw [namedEndpoint?, Option.filter_eq_none_iff]
      simp

theorem namedEndpoint?_eq_some_iff {e : String} :
    namedEndpoint? endpoint = some e ↔ endpoint = some e ∧ e ≠ "" := by
  rw [namedEndpoint?, Option.filter_eq_some_iff, decide_eq_true_eq]

/-- The name of a model is found in the catalog just if it is one of the listed models. -/
theorem info?_eq_some_iff {name : String} {info : ModelInfo} :
    info? name = some info ↔ info ∈ models ∧ name = info.name := by
  -- no name stands twice in the catalog
  have found : ∀ info ∈ models, info? info.name = some info := by decide
  constructor
  · intro h
    have same := List.find?_some h
    exact ⟨List.mem_of_find?_eq_some h, (beq_iff_eq.1 same).symm⟩
  · rintro ⟨listed, rfl⟩
    exact found info listed

theorem info?_eq_none_iff {name : String} : info? name = none ↔ name ∉ names := by
  rw [info?, List.find?_eq_none, names, List.mem_map]
  constructor
  · rintro other ⟨info, listed, rfl⟩
    exact other info listed (beq_self_eq_true _)
  · intro unlisted info listed same
    exact unlisted ⟨info, listed, beq_iff_eq.1 same⟩

theorem resolve_eq_ok_iff {path : String} :
    resolve model endpoint = .ok path ↔ Leads model endpoint path := by
  rw [resolve]
  constructor
  · intro resolved
    split at resolved
    · next e named =>
        obtain ⟨named, more⟩ := namedEndpoint?_eq_some_iff.1 named
        cases resolved
        exact .endpoint named more (leadingSlashesDropped_iff.2 rfl)
    · next unnamed =>
        dsimp only at resolved
        split at resolved
        · next info found =>
            obtain ⟨listed, called⟩ := info?_eq_some_iff.1 found
            cases resolved
            exact .model (namedEndpoint?_eq_none_iff.1 unnamed) listed called
        · cases resolved
  · intro leads
    cases leads with
    | endpoint named more dropped =>
        rw [namedEndpoint?_eq_some_iff.2 ⟨named, more⟩, leadingSlashesDropped_iff.1 dropped]
    | model unnamed listed called =>
        rw [namedEndpoint?_eq_none_iff.2 unnamed]
        dsimp only
        rw [info?_eq_some_iff.2 ⟨listed, called⟩]

theorem resolve_eq_error_iff {e : Error} :
    resolve model endpoint = .error e ↔
      ∃ name, LeadsNowhere model endpoint name ∧ e = unsupported name := by
  rw [resolve]
  constructor
  · intro resolved
    split at resolved
    · cases resolved
    · next unnamed =>
        dsimp only at resolved
        split at resolved
        · cases resolved
        · next missing =>
            have unlisted := info?_eq_none_iff.1 missing
            cases resolved
            cases model with
            -- the default model is in the catalog
            | none => exact absurd (by decide) unlisted
            | some name =>
                exact ⟨name, ⟨namedEndpoint?_eq_none_iff.1 unnamed, rfl, unlisted⟩, rfl⟩
  · rintro ⟨name, ⟨unnamed, rfl, unlisted⟩, rfl⟩
    rw [namedEndpoint?_eq_none_iff.2 unnamed]
    dsimp only [Option.getD_some]
    rw [info?_eq_none_iff.2 unlisted]

/-- The paths of the catalog have one directory in common, and each has a name of its own below it. -/
theorem path_of_listed :
    ∀ info ∈ models, info.path.toList.take 6 = "/chat/".toList ∧
      (info.path.toList.drop 6).head? ≠ some '/' ∧ info.path.toList.drop 6 ≠ [] := by
  decide

/-- Every path is one name below the same directory. The name is empty just if the call names an
endpoint of slashes alone. -/
theorem Leads.exists_name {path : String} (leads : Leads model endpoint path) :
    ∃ name, path = "/chat/" ++ name ∧ name.toList.head? ≠ some '/' ∧
      (name = "" ↔ ∃ n, endpoint = some (String.ofList (List.replicate (n + 1) '/'))) := by
  cases leads with
  | @endpoint e name named more dropped =>
      refine ⟨name, rfl, dropped.no_more, ?_⟩
      rw [named]
      constructor
      · rintro rfl
        obtain ⟨n, slashes⟩ := dropped.slashes
        rw [String.toList_empty, List.append_nil] at slashes
        cases n with
        | zero => exact absurd (String.toList_eq_nil_iff.1 slashes) more
        | succ n => exact ⟨n, by rw [← slashes, String.ofList_toList]⟩
      · rintro ⟨n, same⟩
        have slashes := Option.some.inj same
        have none_left : (List.replicate (n + 1) '/').dropWhile (· == '/') = [] := by
          apply List.dropWhile_eq_nil_iff.2
          intro c among
          exact beq_iff_eq.2 (List.eq_of_mem_replicate among)
        rw [leadingSlashesDropped_iff.1 dropped, slashes, dropLeadingSlashes,
          String.toList_ofList, none_left]
  | @model info unnamed listed called =>
      obtain ⟨directory, begins, more⟩ := path_of_listed info listed
      refine ⟨String.ofList (info.path.toList.drop 6), ?_, ?_, ?_⟩
      · have parts := List.take_append_drop 6 info.path.toList
        have below : (String.ofList (info.path.toList.drop 6)).toList = info.path.toList.drop 6 :=
          String.toList_ofList
        rw [← String.toList_inj, String.toList_append, below, ← directory, parts]
      · rw [String.toList_ofList]
        exact begins
      · constructor
        · intro empty
          rw [← String.toList_inj, String.toList_ofList] at empty
          exact absurd empty more
        · rintro ⟨n, named⟩
          -- a call that goes to a path of the catalog names no endpoint but the empty one
          rcases unnamed with rfl | rfl
          · cases named
          · have empty := Option.some.inj named
            rw [← String.toList_inj, String.toList_empty, String.toList_ofList] at empty
            cases empty

end Catalog

/-! ## URLs -/

namespace Http.Transport

/-- The URL of a call is its base and its path, and fails with the path. -/
theorem url_eq_ok_iff {t : Transport} {r : Request} {url : String} :
    t.url r = .ok url ↔ ∃ path, Catalog.Leads r.model r.endpoint path ∧ url = t.baseUrl ++ path := by
  rw [Transport.url]
  constructor
  · intro resolved
    split at resolved
    · cases resolved
    · next path found =>
        cases resolved
        exact ⟨path, Catalog.resolve_eq_ok_iff.1 found, rfl⟩
  · rintro ⟨path, leads, rfl⟩
    rw [Catalog.resolve_eq_ok_iff.2 leads]

theorem url_eq_error_iff {t : Transport} {r : Request} {e : Error} :
    t.url r = .error e ↔
      ∃ name, Catalog.LeadsNowhere r.model r.endpoint name ∧ e = Catalog.unsupported name := by
  rw [Transport.url, ← Catalog.resolve_eq_error_iff]
  constructor
  · intro failed
    split at failed
    · next found => rw [found, failed]
    · cases failed
  · intro failed
    rw [failed]

/-- An empty endpoint is no endpoint. -/
theorem url_of_empty_endpoint (t : Transport) (r : Request) :
    t.url { r with endpoint := some "" } = t.url { r with endpoint := none } := rfl

theorem invoke_of_empty_endpoint (t : Transport) (g : Regime) (r : Request) (w : World Server) :
    t.invoke g { r with endpoint := some "" } w = t.invoke g { r with endpoint := none } w := rfl

theorem invoke_of_url_error {t : Transport} {r : Request} {e : Error} (failed : t.url r = .error e)
    (g : Regime) (w : World Server) : t.invoke g r w = (.error e, w) := by
  rw [invoke, failed]

/-- The URL of a call has one slash where its parts meet. Whatever base URL a client is given, with
slashes at its end or without, a URL is that base without them, followed by the path of the call: below
`/chat/` the endpoint without the slashes at its start, whatever the model, or else the path of the
model in the catalog. So one slash stands between base and path, and one before the name, which is
empty only for an endpoint of slashes alone. An empty endpoint does what no endpoint does. A call has no
URL just if it names no endpoint and a model that is not listed; it then fails with a validation error
at its model, and the world stays as it was: nothing is sent, and nothing noted. -/
theorem url_joined :
    (∀ (b : Builder) (env : Environment), ∃ given, b.GivesUrl env given) ∧
    ∀ (b : Builder) (env : Environment) (given short : String) (around : Surroundings) (r : Request),
      b.GivesUrl env given → SlashesDropped given short →
        let t := ofSettings (b.settings env) around
        (∀ url, t.url r = .ok url ↔
          ∃ path, Catalog.Leads r.model r.endpoint path ∧ url = short ++ path) ∧
        (∀ path, Catalog.Leads r.model r.endpoint path → ∃ name,
          JoinedBySlash short ("chat/" ++ name) (short ++ path) ∧
          JoinedBySlash (short ++ "/chat") name (short ++ path) ∧
          (name = "" ↔ ∃ n, r.endpoint = some (String.ofList (List.replicate (n + 1) '/')))) ∧
        (t.url { r with endpoint := some "" } = t.url { r with endpoint := none } ∧
          (∀ g w, t.invoke g { r with endpoint := some "" } w =
            t.invoke g { r with endpoint := none } w) ∧
          ∀ params, Catalog.undocumented r.model (some "") params =
            Catalog.undocumented r.model none params) ∧
        (∀ e, t.url r = .error e ↔
          ∃ name, Catalog.LeadsNowhere r.model r.endpoint name ∧ e = Catalog.unsupported name) ∧
        ∀ name, Catalog.LeadsNowhere r.model r.endpoint name →
          ∃ message context, context.field = some "model" ∧
            ∀ g w, t.invoke g r w = (.error (.validation message context), w) := by
  refine ⟨Builder.exists_givesUrl, ?_⟩
  intro b env given short around r gives dropped t
  have base : t.baseUrl = short := by
    rw [slashesDropped_iff.1 dropped]
    exact Builder.baseUrl_ofSettings gives
  refine ⟨?_, ?_, ⟨t.url_of_empty_endpoint r, ?_, fun _ => rfl⟩, fun e => url_eq_error_iff, ?_⟩
  · intro url
    rw [url_eq_ok_iff, base]
  · intro path leads
    obtain ⟨name, rfl, begins, empty⟩ := leads.exists_name
    obtain ⟨one_after_base, one_before_name⟩ := joinedBySlash_of_path dropped.no_more begins
    exact ⟨name, one_after_base, one_before_name, empty⟩
  · intro g w
    exact t.invoke_of_empty_endpoint g r w
  · intro name nowhere
    have failed : t.url r = .error (Catalog.unsupported name) :=
      url_eq_error_iff.2 ⟨name, nowhere, rfl⟩
    refine ⟨_, _, ?_, invoke_of_url_error failed⟩
    rfl

/-- Blanks and slashes around the base, slashes on both sides of the endpoint, and a model that is not
listed, once with that endpoint and once with an empty one. -/
theorem url_joined_of_needless_slashes :
    let env : Environment := fun name =>
      if name = "QIANFAN_BASE_URL" then some " http://host/api// " else none
    let t := ofSettings (({} : Builder).settings env)
    t.url { model := some "unlisted", endpoint := some "//deep/name/" } =
        .ok "http://host/api/chat/deep/name/" ∧
      ∃ message context, context.field = some "model" ∧
        ∀ g w, t.invoke g { model := some "unlisted", endpoint := some "" } w =
          (.error (.validation message context), w) := by
  intro env t
  have gives : ({} : Builder).GivesUrl env (trimBlank " http://host/api// ") :=
    .environment rfl rfl (if_pos rfl) (by decide)
  have dropped : SlashesDropped (trimBlank " http://host/api// ") "http://host/api" :=
    ⟨⟨2, by decide⟩, by decide⟩
  have urls (r : Request) := url_joined.2 _ env _ _ {} r gives dropped
  constructor
  · apply ((urls _).1 _).2
    have named : LeadingSlashesDropped "//deep/name/" "deep/name/" := ⟨⟨2, rfl⟩, by decide⟩
    exact ⟨_, .endpoint rfl (by decide) named, rfl⟩
  · apply (urls _).2.2.2.2 "unlisted"
    exact ⟨.inr rfl, rfl, by decide⟩

end Http.Transport

end ChatClient
