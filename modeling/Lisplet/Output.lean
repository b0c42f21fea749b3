import Lisplet.Run
import Lisplet.Value.Printer

/-!
# What a run prints

A run lists the calls of `print` with the sink of each. The console shows a line of text for each
call that goes to it; a log keeps the values of the calls that go to it, one after the other.
-/

set_option autoImplicit false

namespace Lisplet.Printed

variable {Host : Type}

/-- The line that the console shows for a call of `print`. -/
def line (printed : Printed Host) : String := Value.displayAll printed.values ++ "\n"

/-- The text that the console shows for the calls of `print` that go to it. -/
def consoleText : List (Printed Host) → String
  | [] => ""
  | first :: rest =>
      match first.sink with
      | .console => first.line ++ consoleText rest
      | .log => consoleText rest

/-- The values that a log gets from the calls of `print` that go to it. -/
def logged : List (Printed Host) → List (Value Host)
  | [] => []
  | first :: rest =>
      match first.sink with
      | .console => logged rest
      | .log => first.values ++ logged rest

end Lisplet.Printed
