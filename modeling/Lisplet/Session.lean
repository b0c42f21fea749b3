import Lisplet.Program

/-!
# Sessions

A session evaluates one program after the other in an environment that it keeps. What a program
defines is kept when the program succeeds; when it fails, the environment stays as it was. What it
printed to the log stays in either case.

Environments are values, so a session can keep some of them under names and come back to them.
-/

set_option autoImplicit false

namespace Lisplet

variable {Host : Type}

/-- Evaluates expressions one after the other, each with all levels of its own. -/
def evaluateEach (setting : Setting Host) (environment : Environment Host)
    (expressions : List Expr) : Run Host (List (Value Host) × Environment Host) :=
  Evaluation.evaluateAll (evaluate setting) environment expressions

/-- Reads a program and evaluates its expressions one after the other. -/
def evaluateSource (setting : Setting Host) (environment : Environment Host) (source : String) :
    Run Host (List (Value Host) × Environment Host) :=
  match parseProgram defaultReadLimit source with
  | .error error => .fail error
  | .ok expressions => evaluateEach setting environment expressions

/-- Reads a program and evaluates it as one form. -/
def evaluateSourceAsForm (setting : Setting Host) (environment : Environment Host)
    (source : String) : Run Host (Value Host × Environment Host) :=
  match parseProgram defaultReadLimit source with
  | .error error => .fail error
  | .ok expressions => evaluateProgram setting environment expressions

/-- An environment, the values printed so far, and environments kept under names. -/
structure Session (Host : Type) where
  environment : Environment Host
  log : List (Value Host)
  kept : Table (Environment Host)

namespace Session

/-- A session that starts in the given environment. -/
def start (environment : Environment Host) : Session Host := ⟨environment, [], .empty⟩

/-- The session after a run that was started in its environment. -/
def execute {α : Type} (session : Session Host) (run : Run Host (α × Environment Host)) :
    Except Error α × Session Host :=
  let log := session.log ++ Printed.logged run.printed
  match run.outcome with
  | .ok (result, environment) => (.ok result, { session with environment, log })
  | .error error => (.error error, { session with log })

/-- The session after a run that leaves the environment as it is. -/
def observe {α : Type} (session : Session Host) (run : Run Host α) :
    Except Error α × Session Host :=
  session.execute (run.map (·, session.environment))

/-- The session with a value bound. -/
def bind (session : Session Host) (name : String) (value : Value Host) : Session Host :=
  { session with environment := session.environment.bind name value }

/-- The session with a macro bound. -/
def bindMacro (session : Session Host) (name : String) (definition : Macro) : Session Host :=
  { session with environment := session.environment.bindMacro name definition }

/-- The session with its environment kept under a name. -/
def save (session : Session Host) (slot : String) : Session Host :=
  { session with kept := session.kept.insert slot session.environment }

/-- The session with the environment that is kept under a name. -/
def restore? (session : Session Host) (slot : String) : Option (Session Host) :=
  (session.kept.find? slot).map fun environment => { session with environment }

/-- The session with its log emptied. -/
def clearLog (session : Session Host) : Session Host := { session with log := [] }

end Session
end Lisplet
