import MemberMapping.CommandLine

/-!
The command line program.
-/

open MemberMapping MemberMapping.CommandLine

def diskAccess : FileAccess IO where
  read path := do
    try return some (← IO.FS.readFile path) catch _ => return none
  write path text := do
    try
      IO.FS.writeFile path text
      return true
    catch _ => return false

def main (arguments : List String) : IO UInt32 := do
  match Command.ofArguments arguments with
  | .error fault =>
    match fault with
    | .helpAsked | .versionAsked =>
      IO.println fault.message
      return 0
    | _ =>
      IO.eprintln fault.message
      return 2
  | .ok command =>
    match ← run diskAccess {} command with
    | .ok output =>
      for note in output.notes do IO.eprintln note
      IO.print output.text
      return if output.ok then 0 else 1
    | .error fault =>
      IO.eprintln ("Error: " ++ fault.message)
      if let some cause := fault.cause? then IO.eprintln ("\nCaused by:\n    " ++ cause)
      return 1
