import WatchLang.Command.Arguments

/-!
# The command line

Reads standard input where what is asked for needs it, and writes the answer.
-/

set_option autoImplicit false

namespace WatchLang

/-- All bytes of a stream, after those read before. -/
partial def readToEnd (stream : IO.FS.Stream) (before : ByteArray) : IO ByteArray := do
  let chunk ← stream.read 65536
  if chunk.isEmpty then return before
  readToEnd stream (before ++ chunk)

end WatchLang

/-- Run the command that the arguments ask for. -/
def main (arguments : List String) : IO UInt32 := do
  let request := WatchLang.Request.ofArguments arguments
  let input ← if request.readsInput then WatchLang.readToEnd (← IO.getStdin) .empty else pure .empty
  let response := request.respond input.toList
  IO.print response.output
  IO.eprint response.errors
  return response.exit.toUInt32
