/-
The program: hands the environment and the command line to
`StreamRequest.CommandLine.run` and writes what it answers.

`run` takes words of any bytes. The words that the program is started with come
to it as strings, in which a byte that is not UTF-8 has been replaced, so only
words that are text reach `run` as they were written.
-/
import StreamRequest.CommandLine

namespace StreamRequest.CommandLine

/-- Writes what a run leaves and gives its exit code. -/
def Outcome.write (outcome : Outcome) : IO UInt32 := do
  (← IO.getStdout).write ⟨outcome.output.toArray⟩
  (← IO.getStderr).putStr outcome.diagnostics
  return .ofNat outcome.exit

end StreamRequest.CommandLine

open StreamRequest in
/-- Runs the command line on words that are text. -/
def main (args : List String) : IO UInt32 := do
  let env : Environment :=
    ⟨← IO.getEnv Settings.levelVariable, ← IO.getEnv Settings.formatVariable⟩
  match CommandLine.run env (args.map Utf8.ofText) with
  | .done outcome => outcome.write
  | .badLevel fault =>
    (← IO.getStderr).putStrLn fault.message
    return 1
  | .unprintable strays =>
    (← IO.getStderr).putStrLn strays.message
    return 1
  | .help subcommand => (CommandLine.success (CommandLine.helpLines subcommand) "").write
