import ChatClient.Duration
import ChatClient.Number.Reading
import ChatClient.Text.Blank
import ChatClient.Text.Quoted

/-!
# Settings

The settings of a client are layered. Each one starts from a built-in default, an environment
variable of its own may replace it, and a builder may replace that again. A variable whose value
cannot be read is ignored as a whole. Secrets show their first four characters only.
-/

namespace ChatClient

/-- The environment: a partial map from names of variables to their values. -/
abbrev Environment := String → Option String

/-- The keys of an account. -/
structure Credentials where
  ak : Option String := none
  sk : Option String := none
  accessToken : Option String := none
deriving DecidableEq, Repr, Inhabited

namespace Credentials

/-- What is shown of a secret. -/
def mask (secret : String) : String := String.ofList (secret.toList.take 4) ++ "****"

/-- The credentials as they may be shown. -/
def masked (c : Credentials) : String :=
  "Credentials \x7b ak: " ++ quotedOption (c.ak.map mask) ++
    ", sk: " ++ quotedOption (c.sk.map mask) ++
    ", access_token: " ++ quotedOption (c.accessToken.map mask) ++ " \x7d"

end Credentials

/-- A finite set of error codes, in ascending order. -/
abbrev CodeSet := List Int

namespace CodeSet

/-- The set with one more code. -/
def insert (code : Int) : CodeSet → CodeSet
  | [] => [code]
  | c :: r => if code < c then code :: c :: r else if code = c then c :: r else c :: insert code r

/-- The set of the codes in a list. -/
def ofList (codes : List Int) : CodeSet := codes.foldr insert []

@[simp] theorem mem_insert (x code : Int) (s : CodeSet) :
    x ∈ insert code s ↔ x = code ∨ x ∈ s := by
  induction s with
  | nil => simp [insert]
  | cons c r ih =>
      rw [insert]
      split
      · simp
      · split
        · rename_i h
          subst h
          simp
        · simp only [List.mem_cons, ih]
          grind

/-- A set made from a list has the members of the list. -/
@[simp] theorem mem_ofList (x : Int) (codes : List Int) : x ∈ ofList codes ↔ x ∈ codes := by
  induction codes with
  | nil => simp [ofList]
  | cons c r ih =>
      have e : ofList (c :: r) = insert c (ofList r) := rfl
      rw [e, mem_insert, ih, List.mem_cons]

end CodeSet

/-- The settings of a client. -/
structure Settings where
  baseUrl : String := "https://aip.baidubce.com/rpc/2.0/ai_custom/v1/wenxinworkshop"
  credentials : Credentials := {}
  /-- The alternate backend is never used, even if installed. -/
  disableAlternate : Bool := true
  /-- The API errors worth another attempt: request limit reached, internal server error. -/
  retryCodes : CodeSet := [18, 336100]
  /-- The longest wait between two attempts. -/
  maxWait : Duration := .ofSeconds 120
  /-- The bound, in seconds, of the random part of each wait. -/
  jitter : Float := 1.0
  /-- The most rounds of continuation; `none` for no bound. -/
  maxRounds : Option Nat := some 32
deriving Inhabited

namespace Settings

/-- A cap on rounds as it is set from outside, where zero stands for no cap. -/
def capOf (rounds : Nat) : Option Nat := if 0 < rounds then some rounds else none

/-- A truth value in one of its usual spellings, in any case, between blanks. -/
def flag? (s : String) : Option Bool :=
  let word := String.ofList (Text.lowerAscii (Text.trim s.toList))
  if ["1", "true", "yes", "on"].contains word then some true
  else if ["0", "false", "no", "off"].contains word then some false
  else none

/-- A list of error codes between commas; blanks and empty items do not count, and one bad item
spoils the list. -/
def codes? (s : String) : Option CodeSet :=
  let items := ((Text.pieces ',' s.toList).map Text.trim).filter (· ≠ [])
  (items.mapM Reading.signed64?).map CodeSet.ofList

/-- A number of seconds between blanks. -/
def seconds? (s : String) : Option Float := Reading.float? (Text.trim s.toList)

/-- The base URL without blanks around it and slashes at its end; a blank one does not count. -/
def baseUrl? (s : String) : Option String :=
  let url := trimBlank s
  if url = "" then none else some (dropTrailingSlashes url)

/-- The wait that a number of seconds stands for. -/
def wait? (s : String) : Option Duration := (seconds? s).bind Duration.ofFloatSeconds?

/-- The bound of the random part of a wait, which must itself be a length of time. -/
def jitter? (s : String) : Option Float :=
  (seconds? s).filter fun x => (Duration.ofFloatSeconds? x).isSome

/-- The cap on rounds, between blanks. -/
def cap? (s : String) : Option (Option Nat) :=
  (Reading.unsigned32? (Text.trim s.toList)).map capOf

/-- A secret; an empty one does not count. -/
def secret? (s : String) : Option String := if s = "" then none else some s

/-- The settings of an environment: each variable has its own default. -/
def ofEnvironment (env : Environment) : Settings :=
  let default : Settings := {}
  { baseUrl := ((env "QIANFAN_BASE_URL").bind baseUrl?).getD default.baseUrl
    credentials :=
      { ak := (env "QIANFAN_AK").bind secret?
        sk := (env "QIANFAN_SK").bind secret?
        accessToken := (env "QIANFAN_ACCESS_TOKEN").bind secret? }
    disableAlternate :=
      ((env "QIANFAN_DISABLE_EB_SDK").bind flag?).getD default.disableAlternate
    retryCodes :=
      ((env "QIANFAN_LLM_API_RETRY_ERR_CODES").bind codes?).getD default.retryCodes
    maxWait :=
      ((env "QIANFAN_LLM_API_RETRY_MAX_WAIT_INTERVAL").bind wait?).getD default.maxWait
    jitter := ((env "QIANFAN_LLM_API_RETRY_JITTER").bind jitter?).getD default.jitter
    maxRounds := ((env "QIANFAN_MAX_CONTINUATION_ROUNDS").bind cap?).getD default.maxRounds }

end Settings

/-- The settings that a caller has chosen; what is not set comes from the explicit settings if there
are any, else from the environment. -/
structure Builder where
  base : Option Settings := none
  baseUrl : Option String := none
  accessToken : Option String := none
  ak : Option String := none
  sk : Option String := none
  disableAlternate : Option Bool := none
  maxRounds : Option (Option Nat) := none
deriving Inhabited

namespace Builder

/-- Starts from explicit settings instead of the environment. -/
def withSettings (b : Builder) (s : Settings) : Builder := { b with base := some s }

/-- Sets the base URL. -/
def withBaseUrl (b : Builder) (url : String) : Builder := { b with baseUrl := some url }

/-- Sets the access token. -/
def withAccessToken (b : Builder) (token : String) : Builder := { b with accessToken := some token }

/-- Sets the access key. -/
def withAk (b : Builder) (ak : String) : Builder := { b with ak := some ak }

/-- Sets the secret key. -/
def withSk (b : Builder) (sk : String) : Builder := { b with sk := some sk }

/-- Forbids the alternate backend, or allows it. -/
def withDisableAlternate (b : Builder) (disable : Bool) : Builder :=
  { b with disableAlternate := some disable }

/-- Sets the cap on rounds; zero stands for no cap. -/
def withMaxRounds (b : Builder) (rounds : Nat) : Builder :=
  { b with maxRounds := some (Settings.capOf rounds) }

/-- The settings of the client to be built. -/
def settings (b : Builder) (env : Environment) : Settings :=
  let base := b.base.getD (Settings.ofEnvironment env)
  { base with
    baseUrl := (b.baseUrl.map dropTrailingSlashes).getD base.baseUrl
    credentials :=
      { ak := b.ak.or base.credentials.ak
        sk := b.sk.or base.credentials.sk
        accessToken := b.accessToken.or base.credentials.accessToken }
    disableAlternate := b.disableAlternate.getD base.disableAlternate
    maxRounds := b.maxRounds.getD base.maxRounds }

end Builder

end ChatClient
