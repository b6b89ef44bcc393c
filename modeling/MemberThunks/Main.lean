import MemberThunks.CommandLine

set_option autoImplicit false

/- The command as a program. It knows no classes but the built-in ones. -/
open MemberThunks in
def main (arguments : List String) : IO UInt32 := do
  let settings ← [Options.registerVariable, Options.prefixVariable].filterMapM fun setting => do
    return (← IO.getEnv setting).map fun text => (setting, text)
  match ((CommandLine.run .empty .empty settings arguments).run .empty).1.1 with
  | .ok outcome =>
    IO.print outcome.output
    IO.eprint outcome.errors
    return outcome.exit.toUInt32
  | .error failure =>
    IO.eprintln (failure.kind.label ++ ": " ++ failure.text)
    return 1
