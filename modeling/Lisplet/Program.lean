import Lisplet.Environment.Global
import Lisplet.Output
import Lisplet.Prelude

/-!
# Running programs

A program is run in an environment with the prelude in front of it, as one form together with the
prelude: so it sees the definitions of the prelude, and each of its expressions sees those made
before it. A text that cannot be read is not run at all.
-/

set_option autoImplicit false

namespace Lisplet

variable {Host : Type}

/-- The limits on a program: on the depth of its expressions and on the depth of evaluation. -/
structure Limits where
  reading : Nat
  evaluation : Nat
  deriving DecidableEq, Repr

/-- The limits unless a caller sets others. -/
def Limits.default : Limits := ⟨defaultReadLimit, defaultEvaluationLimit⟩

/-- Reads a program and runs it, with the prelude in front, in an environment. The environment that
it ends with is dropped. -/
def runProgram (handler : Handler Host) (limits : Limits) (environment : Environment Host)
    (source : String) : Run Host (Value Host) :=
  match parseProgram limits.reading source with
  | .error error => .fail error
  | .ok program =>
      (evaluateProgram ⟨handler, limits.evaluation⟩ environment (Prelude.program ++ program)).map
        Prod.fst

/-- Everything that a program printed to a log, and how it ended. -/
structure Captured where
  output : List (Value Empty)
  result : Except Error (Value Empty)

/-- Runs a program in the global environment with `print` sent to a log. -/
def capture (limits : Limits) (source : String) : Captured :=
  let run := runProgram noHost limits (globalEnvironment .log) source
  ⟨Printed.logged run.printed, run.outcome⟩

end Lisplet
