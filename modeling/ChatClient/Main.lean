import ChatClient.CommandLine

/-!
# The program

Runs the command line on the arguments, the environment and the standard input of the process. No
connection can be opened from here: no URL leads to a server.
-/

open ChatClient

/-- The variables that the settings are read from. -/
def settingNames : List String := [
  "QIANFAN_BASE_URL", "QIANFAN_AK", "QIANFAN_SK", "QIANFAN_ACCESS_TOKEN",
  "QIANFAN_DISABLE_EB_SDK", "QIANFAN_LLM_API_RETRY_ERR_CODES",
  "QIANFAN_LLM_API_RETRY_MAX_WAIT_INTERVAL", "QIANFAN_LLM_API_RETRY_JITTER",
  "QIANFAN_MAX_CONTINUATION_ROUNDS"]

/-- The settings variables that are set in the process. -/
def readEnvironment : IO Environment := do
  let values ← settingNames.filterMapM fun name => do
    return (← IO.getEnv name).map (name, ·)
  return fun name => values.lookup name

/-- Whether a run may need the standard input: it reads it when the arguments hold no word. -/
def needsInput (args : List String) : Bool :=
  match CommandLine.parse args with
  | .ok a => a.prompt.isEmpty
  | .error _ => false

def main (args : List String) : IO UInt32 := do
  let env ← readEnvironment
  let stdin ← if needsInput args then (← IO.getStdin).readBinToEnd else pure ByteArray.empty
  let (outcome, _) :=
    CommandLine.run { leads := fun _ => false } env args stdin.toList { supplier := [] }
  IO.print outcome.stdout
  IO.eprint (outcome.stderr fun _ => "malformed JSON")
  return UInt32.ofNat outcome.exitCode
