import NostrEntities.Cli.Run

/-!
# The program

Prints what the run of a command leaves, and exits with its code.
-/

/-- Run the command of the arguments. -/
def main (arguments : List String) : IO UInt32 := do
  let outcome := NostrEntities.Cli.run arguments
  IO.print outcome.output
  IO.eprint outcome.errorOutput
  return outcome.exitCode.toUInt32
