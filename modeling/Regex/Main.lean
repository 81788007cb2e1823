import Regex.Command.Run

/-!
# The command line

Hands the arguments, the standard input and the log filter of the environment to `Regex.Command.run`
and prints what comes back.
-/

open Regex Regex.Command

/-- Everything that is left to read. -/
partial def readAll (stream : IO.FS.Stream) (done : ByteArray) : IO ByteArray := do
  let chunk ← stream.read 65536
  if chunk.isEmpty then return done
  readAll stream (done ++ chunk)

/-- Runs the program. -/
def main (arguments : List String) : IO UInt32 := do
  let arguments := arguments.map Utf8.encode
  let filter ← IO.getEnv "PCREGEX_LOG"
  let input ← if readsInput arguments then readAll (← IO.getStdin) .empty else pure .empty
  let outcome := run arguments input.toList filter
  IO.print outcome.stdout
  IO.eprint outcome.stderr
  return outcome.exit.toUInt32
