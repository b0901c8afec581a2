/-
# The program
-/
import LongPoll.CommandLine

/-- Runs the command of the arguments. -/
def main (args : List String) : IO UInt32 := do
  let output := LongPoll.CommandLine.run args
  IO.print output.stdout
  match output.error with
  | some error => IO.eprintln ("Error: " ++ error)
  | none =>
    if output.exit = 2 then IO.eprintln "error: usage: pollsync simulate|version" else pure ()
  return UInt32.ofNat output.exit
