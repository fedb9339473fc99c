/-
The program: it hands its arguments, its environment and the time to the command line, prints what
comes back and ends with its exit code.
-/
import GraphicCache.CommandLine
import Std.Time.DateTime

open GraphicCache

/-- Runs the program. -/
def main (args : List String) : IO UInt32 := do
  let limit ← IO.getEnv Config.memoryLimitVariable
  let idle ← IO.getEnv Config.allowedIdleVariable
  let enabled ← IO.getEnv Config.swapEnabledVariable
  let fuzzing ← IO.getEnv Config.fuzzingVariable
  let now ← Std.Time.Timestamp.now
  let lookup := fun name =>
    if name = Config.memoryLimitVariable then limit
    else if name = Config.allowedIdleVariable then idle
    else if name = Config.swapEnabledVariable then enabled
    else if name = Config.fuzzingVariable then fuzzing
    else none
  match CommandLine.respond lookup now.toNanosecondsSinceUnixEpoch.toInt.toNat args with
  | .shown text => do
    IO.print text
    return 0
  | .failed code => do
    IO.eprintln "error: the arguments were not understood"
    return UInt32.ofNat code
