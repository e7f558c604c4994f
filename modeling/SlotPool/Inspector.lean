import SlotPool.Fault.Message
import SlotPool.Inspector.Settings
import SlotPool.Inspector.Workload

/-!
# The inspector

The inspector builds a pool, puts it through a workload and prints what has become of
it.  This file is the whole program as a function of its words and of the files it may
read: what it prints on its two outputs, and its exit code.

Main definitions:

- `Inspector.report`: what is printed after the workload.
- `Inspector.respond`: the response to a row of words.
-/

namespace SlotPool.Inspector

/-- What the program prints and how it exits. -/
structure Response where
  exitCode : Nat
  stdout : String
  stderr : String
deriving DecidableEq

/-! ## Texts -/

/-- Help on the options. -/
def usage : String :=
  "Usage: pool_inspect [options]\n" ++
  "\n" ++
  "Options:\n" ++
  "  --config <pool.toml>   Load pool sizing from a TOML file\n" ++
  "  --object-size <bytes>  Object size (default 32)\n" ++
  "  --blocks <n>           Blocks created up front (default 20)\n" ++
  "  --allocs <n>           Objects to allocate (default 100000)\n" ++
  "  --frees <n>            Objects to free afterwards (default allocs / 2)\n" ++
  "  --reclaim              Reclaim the pool at the end\n"

/-- Wording of a count that cannot be read. -/
def numeralMessage : NumeralFault → String
  | .empty => "cannot parse integer from empty string"
  | .invalidDigit => "invalid digit found in string"
  | .tooLarge => "number too large to fit in target type"

/-- Wording of settings that cannot be read. -/
def SettingsFault.message : SettingsFault → String
  | missingPath => Settings.configFlag ++ " needs a path"
  | missingValue flag => flag ++ " needs a value"
  | notACount flag value cause => flag ++ " " ++ value ++ ": " ++ numeralMessage cause
  | config cause => (Fault.invalidConfig cause).message

/-- The line on the identities of the blocks, if there are any. -/
def blockLine (pool : Pool) : String :=
  match pool.blocks[0]?, pool.blocks.back? with
  | some first, some last =>
    s!"block ids:         {first.id.number}..={last.id.number} ({first.objectSize} byte slots)\n"
  | _, _ => ""

/-- What is printed after the workload. -/
def report (initialFootprint : Nat) (work : Workload) (reclaim : Bool) : String :=
  work.pool.text ++ "\n" ++
    s!"live objects:      {work.live.size}\n" ++
    s!"freed objects:     {work.freed}\n" ++
    s!"initial footprint: {initialFootprint} bytes\n" ++
    s!"current footprint: {work.pool.footprint} bytes\n" ++
    blockLine work.pool ++
    if reclaim then "\nafter reclaim:\n" ++ work.pool.reclaim.text ++ "\n" else ""

/-! ## The program -/

/-- The response to a failure before anything is printed. -/
def failure (message : String) (stdout : String) : Response where
  exitCode := 1
  stdout := stdout
  stderr := "error: " ++ message ++ "\n"

/-- The response to the end of the workload. -/
def Outcome.response (reclaim : Bool) : Outcome → Response
  | refused fault => failure fault.message ""
  | crashed => { exitCode := 101, stdout := "", stderr := "panic\n" }
  | finished initialFootprint work =>
    { exitCode := 0, stdout := report initialFootprint work reclaim, stderr := "" }

/-- A word that asks for help. -/
def isHelp (word : String) : Bool :=
  word == "--help" || word == "-h"

/-- The response to a row of words.  Help comes before everything else. -/
def respond (memory : Memory) (check : FreeCheck) (readFile : Config.ReadFile)
    (words : List String) : Response :=
  if words.any isHelp then
    { exitCode := 0, stdout := usage, stderr := "" }
  else
    match Settings.parse .standard readFile words with
    | .error fault => failure fault.message usage
    | .ok settings =>
      (Workload.run memory check settings.config settings.allocs settings.frees).run.response
        settings.reclaim

end SlotPool.Inspector
