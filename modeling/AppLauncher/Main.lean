import AppLauncher.Cli.Machine
import AppLauncher.Cli.Run

/-!
The program: a session on this machine, whose outcome is the exit code.
-/
open AppLauncher AppLauncher.Cli in
def main (arguments : List String) : IO UInt32 := do
  match Invocation.read arguments with
  | .error fault =>
    if fault.isRequest then
      IO.println fault.message
      return 0
    else
      IO.eprintln fault.message
      return 2
  | .ok invocation =>
    match ← (invocation.run Machine.host).run with
    | .ok _ => return 0
    | .error failure =>
      IO.eprintln ("Error: " ++ failure.message)
      return 1
