import Lisplet.Repl

/-!
# The interactive program

Reads lines from standard input and writes what the loop answers, until a line ends it or the input
does.
-/

set_option autoImplicit false

namespace Lisplet.Main

/-- Answers line after line. -/
partial def loop (input output : IO.FS.Stream) (environment : Environment Empty) : IO Unit := do
  let line ← input.getLine
  if line.isEmpty then
    output.putStr (Repl.text [Repl.farewell])
    output.flush
  else
    let (written, next) := Repl.respond environment line
    output.putStr written
    output.flush
    match next with
    | some environment => loop input output environment
    | none => pure ()

end Lisplet.Main

/-- The interactive program. -/
def main : IO Unit := do
  let output ← IO.getStdout
  output.putStr (Lisplet.Repl.text Lisplet.Repl.banner)
  output.flush
  Lisplet.Main.loop (← IO.getStdin) output Lisplet.Repl.startEnvironment
