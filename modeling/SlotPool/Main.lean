import SlotPool.Inspector

/-!
# The command line

Reads the configuration file that the words name, if any, and prints the inspector's
response.
-/

namespace SlotPool

/-- The reason why the system did not read a file.  Some numbers of the system come negated. -/
def fileFaultOf (number : UInt32) : FileFault :=
  let code := number.toNat
  match if 0x80000000 ≤ code then 0x100000000 - code else code with
  | 2 => .missing
  | 13 => .denied
  | 20 => .notDirectory
  | 21 => .isDirectory
  | 36 => .nameTooLong
  | other => .other other

/-- The reason why a file was not read. -/
def fileFaultOfError : IO.Error → FileFault
  | .noFileOrDirectory _ number _ => fileFaultOf number
  | .inappropriateType _ number _ => fileFaultOf number
  | .permissionDenied _ number _ => fileFaultOf number
  | .invalidArgument _ number _ => fileFaultOf number
  | .resourceExhausted _ number _ => fileFaultOf number
  | .hardwareFault number _ => fileFaultOf number
  | .otherError number _ => fileFaultOf number
  | _ => .missing

/-- Reads the bytes of a file. -/
def readFileBytes (path : String) : IO (Except FileFault ByteArray) := do
  if path.toList.contains '\x00' then
    return .error .nulInName
  try
    return .ok (← IO.FS.readBinFile path)
  catch problem =>
    return .error (fileFaultOfError problem)

end SlotPool

open SlotPool in
/-- Runs the inspector on the words of the command line. -/
def main (words : List String) : IO UInt32 := do
  let content ←
    match Inspector.Settings.valueOf? Inspector.Settings.configFlag words with
    | some (some path) => readFileBytes path
    | _ => pure (.error .missing)
  let response := Inspector.respond .ample .quick (fun _ => content) words
  IO.print response.stdout
  IO.eprint response.stderr
  return response.exitCode.toUInt32
