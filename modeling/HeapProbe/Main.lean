import HeapProbe.Command.Run

/-! # The program

The outer layer of the command: it reads the settings file, runs the command and prints the result.
No debugger bindings are linked in, so an inspection stops where it would need them.
-/

namespace HeapProbe

/-- What a path leads to on disk. -/
def findOnDisk (path : String) : IO (Option FileEntry) := do
  try
    return some (.file (← IO.FS.readBinFile path))
  catch error =>
    match error with
    | .noFileOrDirectory .. => return none
    | .inappropriateType .. => return some .folder
    | _ => throw error

end HeapProbe

def main (arguments : List String) : IO UInt32 := do
  let path := (HeapProbe.settingsFile? arguments).getD HeapProbe.Settings.defaultFileName
  let entry ← HeapProbe.findOnDisk path
  let context : HeapProbe.Context := { host := { bindings := false } }
  match HeapProbe.runCommand arguments (fun _ => .ok entry) context with
  | .ok result _ =>
    IO.print result.output
    IO.eprint result.errors
    return result.exitCode.toUInt32
  | .error (.load _) _ =>
    IO.eprintln s!"heapscope: error: cannot load {path}"
    return 1
  | .error (.unexpected fault) _ =>
    IO.eprintln s!"heapscope: error: {fault.message}"
    return 1
