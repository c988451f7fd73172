import ChatClient.Client
import ChatClient.Http.Transport

/-!
# The command line

The first word may ask for help, the version or the list of models. Otherwise the arguments are
options and words of the prompt in any order, read from left to right; the first offending one is
the error. Without words the prompt is the trimmed standard input. The reply goes to standard
output, an error to standard error.
-/

namespace ChatClient.CommandLine

/-- What the arguments ask for. -/
structure Arguments where
  model : Option String := none
  endpoint : Option String := none
  system : Option String := none
  temperature : Option Float := none
  stream : Bool := false
  autoContinue : Bool := false
  prompt : List String := []
deriving Inhabited

/-- Why a run fails. -/
inductive Fault where
  | unknownOption (option : String)
  | missingValue (option : String)
  | badTemperature (raw : String)
  | badInput
  | noPrompt
  | failed (e : Error)
deriving DecidableEq, Repr

/-- The text of a fault, with its cause on lines of its own, if `complaint` is what the JSON reader
says of a text that it cannot read. -/
def Fault.text (complaint : String → String) : Fault → String
  | .unknownOption option => "unknown option: " ++ option
  | .missingValue option => option ++ " requires a value"
  | .badTemperature raw =>
      let cause :=
        if raw = "" then "cannot parse float from empty string" else "invalid float literal"
      "invalid temperature: " ++ raw ++ "\n\nCaused by:\n    " ++ cause
  | .badInput => "stream did not contain valid UTF-8"
  | .noPrompt => "no prompt given"
  | .failed e => e.message complaint

/-- The options that take a value. -/
inductive ValueOption where
  | model
  | endpoint
  | system
  | temperature
deriving DecidableEq, Repr

namespace ValueOption

/-- The option as it is written. -/
def name : ValueOption → String
  | .model => "--model"
  | .endpoint => "--endpoint"
  | .system => "--system"
  | .temperature => "--temperature"

/-- The arguments with the value of an option set. -/
def set (a : Arguments) (raw : String) : ValueOption → Except Fault Arguments
  | .model => .ok { a with model := some raw }
  | .endpoint => .ok { a with endpoint := some raw }
  | .system => .ok { a with system := some raw }
  | .temperature =>
      match Reading.float? raw.toList with
      | some t => .ok { a with temperature := some t }
      | none => .error (.badTemperature raw)

end ValueOption

/-- What an argument is, taken by itself. -/
inductive Token where
  | valued (option : ValueOption)
  | stream
  | autoContinue
  | unknown
  | word
deriving DecidableEq, Repr

/-- The kind of an argument. -/
def Token.of (arg : String) : Token :=
  if arg = "--model" then .valued .model
  else if arg = "--endpoint" then .valued .endpoint
  else if arg = "--system" then .valued .system
  else if arg = "--temperature" then .valued .temperature
  else if arg = "--stream" then .stream
  else if arg = "--auto-concat" then .autoContinue
  else if ['-', '-'].isPrefixOf arg.toList then .unknown
  else .word

/-- The arguments read after those in `a`. -/
def parseAfter (a : Arguments) : List String → Except Fault Arguments
  | [] => .ok a
  | arg :: rest =>
      match Token.of arg, rest with
      | .valued option, [] => .error (.missingValue option.name)
      | .valued option, raw :: rest =>
          match option.set a raw with
          | .error f => .error f
          | .ok a => parseAfter a rest
      | .stream, rest => parseAfter { a with stream := true } rest
      | .autoContinue, rest => parseAfter { a with autoContinue := true } rest
      | .unknown, _ => .error (.unknownOption arg)
      | .word, rest => parseAfter { a with prompt := a.prompt ++ [arg] } rest

/-- The arguments of a run. -/
def parse (args : List String) : Except Fault Arguments := parseAfter {} args

/-- The lines that say how the program is used. -/
def usageLines : List String := [
  "qianfan-chat: 千帆对话补全命令行工具",
  "",
  "USAGE:",
  "    qianfan-chat [OPTIONS] <PROMPT>...",
  "    qianfan-chat models",
  "",
  "OPTIONS:",
  "    --model <name>          Model name (default: ERNIE-Bot-turbo)",
  "    --endpoint <name>       Custom endpoint, overrides --model",
  "    --system <text>         System message sent before the prompt",
  "    --temperature <value>   Sampling temperature",
  "    --stream                Print the reply as it arrives",
  "    --auto-concat           Continue truncated replies until complete",
  "",
  "The prompt is read from stdin when none is given.",
  "",
  "ENVIRONMENT:",
  "    QIANFAN_ACCESS_TOKEN    Access token for the chat API",
  "    QIANFAN_BASE_URL        API base URL",
  "    RUST_LOG                Log filter (e.g. qianfan_chat=debug)"]

/-- Lines of text, each with its end. -/
def unlines (ls : List String) : String := String.join (ls.map (· ++ "\n"))

/-- How the program is used. -/
def usage : String := unlines usageLines

/-- The line that answers a question for the version. -/
def versionLine : String := "qianfan-chat 0.3.1\n"

/-- What a run writes, and whether it fails. -/
structure Outcome where
  stdout : String := ""
  fault : Option Fault := none

/-- What a run writes to standard error. -/
def Outcome.stderr (complaint : String → String) (o : Outcome) : String :=
  match o.fault with
  | none => ""
  | some f => "Error: " ++ f.text complaint ++ "\n"

/-- The exit code of a run. -/
def Outcome.exitCode (o : Outcome) : Nat := if o.fault.isSome then 1 else 0

/-- The prompt of a run: the words, or else the standard input. -/
def prompt (a : Arguments) (stdin : Utf8.Bytes) : Except Fault String :=
  if a.prompt.isEmpty then
    match Utf8.decode? stdin with
    | none => .error .badInput
    | some text => .ok (String.ofList (Text.trim text))
  else .ok (String.intercalate " " a.prompt)

/-- The completion that a run asks for. -/
def completion (a : Arguments) (prompt : String) : CompletionRequest :=
  let system : Conversation := (a.system.map fun text => (⟨.system, text⟩ : Message)).toList
  let q : CompletionRequest :=
    { messages := .typed (system.push ⟨.user, prompt⟩)
      model := a.model
      endpoint := a.endpoint
      stream := a.stream
      autoContinue := a.autoContinue }
  match a.temperature with
  | none => q
  | some t => q.withTemperature t

section Run

variable (around : Http.Surroundings) (env : Environment)

/-- The client of a run. -/
def client : Client Http.Server :=
  let settings := ({} : Builder).settings env
  { settings, executor := (Http.Transport.ofSettings settings around).executor }

/-- The run of one prompt. -/
def chat (a : Arguments) (prompt : String) (w : World Http.Server) :
    Outcome × World Http.Server :=
  let c := client around env
  match c.complete .async (completion a prompt) w with
  | (.error e, w) => ({ fault := some (.failed e) }, w)
  | (.ok (.single e), w) => ({ stdout := e.result ++ "\n" }, w)
  | (.ok (.stream feed), w) =>
      let ((text, error), w) := feed.readOut c.executor w
      match error with
      | none => ({ stdout := text ++ "\n" }, w)
      | some e => ({ stdout := text, fault := some (.failed e) }, w)

/-- The run of arguments that ask for no information. -/
def runChat (args : List String) (stdin : Utf8.Bytes) (w : World Http.Server) :
    Outcome × World Http.Server :=
  match parse args with
  | .error f => ({ fault := some f }, w)
  | .ok a =>
      match prompt a stdin with
      | .error f => ({ fault := some f }, w)
      | .ok text =>
          if text = "" then ({ stdout := usage, fault := some .noPrompt }, w)
          else chat around env a text w

/-- A run of the program. -/
def run (args : List String) (stdin : Utf8.Bytes) (w : World Http.Server) :
    Outcome × World Http.Server :=
  let first := args.head?.getD ""
  if ["help", "--help", "-h"].contains first then ({ stdout := usage }, w)
  else if ["version", "--version", "-V"].contains first then ({ stdout := versionLine }, w)
  else if first = "models" then ({ stdout := unlines Catalog.names }, w)
  else runChat around env args stdin w

end Run

end ChatClient.CommandLine
