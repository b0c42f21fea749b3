import Lisplet.Session

/-!
# The interactive loop

The loop reads lines and answers each. Blanks around a line are dropped, and a line of blanks is
passed over. A line is a command, which starts with a colon, or a program: its expressions are
evaluated one after the other, and then the values that are not null are shown, or else the error. A
line that fails leaves the environment as it was.

The loop is a function from lines to text. `Repl.transcript` is everything that it writes, until a
line ends it or there are no lines left.
-/

set_option autoImplicit false

namespace Lisplet.Repl

/-- The lines that are written first. -/
def banner : List String :=
  ["threadlisp",
    "Enter expressions like: (+ 1 2) or (defn sq (x) (* x x))",
    "Type :help for more commands, or Ctrl+C to exit.",
    ""]

/-- The lines that explain the commands and the language. -/
def help : List String :=
  ["threadlisp REPL:",
    "  :help      - Show this help message",
    "  :env       - Show current environment bindings",
    "  :quit      - Exit the interpreter",
    "  :exit      - Exit the interpreter",
    "  Ctrl+C     - Exit the interpreter",
    "",
    "Special forms:",
    "  (def name value)               bind a name for the rest of the session",
    "  (fn (params ...) body)         a function; free names resolve at the call site",
    "  (if test then [else])",
    "  (macro name (::p ...) body)    textual macro",
    "",
    "Builtins: + - * / ^ < not = arrayOf append reduce print",
    "Prelude:  defn or and > >= <= != map filter",
    "",
    "Examples:",
    "  (+ 1 2 3)",
    "  ([10 20 30] 1)",
    "  (defn sq (x) (* x x))",
    "  (map sq [1 2 3])",
    "  ((print 1) (print 2))",
    ""]

/-- The line that is written last. -/
def farewell : String := "Goodbye!"

/-- Lines as text, each with its line feed. -/
def text (lines : List String) : String := String.join (lines.map (· ++ "\n"))

/-! ## The list of bindings -/

/-- The width of a column, and the number of columns in a row. -/
def columnWidth : Nat := 15

/-- The number of names in a row. -/
def columns : Nat := 4

/-- A name with a margin, filled up to the width of a column. -/
def column (name : String) : String :=
  "  " ++ name ++ String.ofList (List.replicate (columnWidth - name.length) ' ')

/-- Names in rows. -/
def rows (bound : Nat) (names : List String) : List String :=
  match bound, names with
  | _, [] => []
  | 0, _ => []
  | rest + 1, names =>
      String.join ((names.take columns).map column) :: rows rest (names.drop columns)

/-- Whether a value is a builtin. -/
def isBuiltin : Value Empty → Bool
  | .builtin _ _ => true
  | _ => false

/-- A heading with a number of entries. -/
def heading (title : String) (count : Nat) : String := title ++ " (" ++ toString count ++ "):"

/-- The lines for the builtins of an environment. -/
def builtinLines (names : List String) : List String :=
  if names.isEmpty then []
  else heading "Built-in functions" names.length :: rows names.length names ++ [""]

/-- The lines for the other values of an environment. -/
def valueLines (bindings : List (String × Value Empty)) : List String :=
  if bindings.isEmpty then []
  else
    heading "Values" bindings.length ::
      bindings.map (fun (name, value) => "  " ++ name ++ " = " ++ value.display) ++ [""]

/-- The line for a macro. -/
def macroLine (name : String) (definition : Macro) : String :=
  "  (" ++ name ++ " " ++ String.intercalate " " definition.parameters ++ ") => " ++
    definition.template.display

/-- The lines for the macros of an environment. -/
def macroLines (macros : List (String × Macro)) : List String :=
  if macros.isEmpty then []
  else
    heading "Macros" macros.length ::
      macros.map fun (name, definition) => macroLine name definition

/-- The lines that list an environment. -/
def listing (environment : Environment Empty) : List String :=
  let bindings := environment.bindings
  let builtins := bindings.filter fun (_, value) => isBuiltin value
  let others := bindings.filter fun (_, value) => !isBuiltin value
  ("Environment bindings (" ++ toString bindings.length ++ " total):") :: "" ::
    (builtinLines (builtins.map Prod.fst) ++ valueLines others ++
      macroLines environment.macros.entries)

/-! ## Answering lines -/

/-- What evaluation in the loop goes by. -/
def setting : Setting Empty := ⟨noHost, defaultEvaluationLimit⟩

/-- The lines that show values; null is not shown. -/
def shown : List (Value Empty) → List String
  | [] => []
  | .null :: rest => shown rest
  | first :: rest => first.display :: shown rest

/-- What a program line writes, and the environment after it. -/
def evaluateLine (environment : Environment Empty) (line : String) :
    String × Environment Empty :=
  let run := evaluateSource setting environment line
  let printed := Printed.consoleText run.printed
  match run.outcome with
  | .ok (values, next) => (printed ++ text (shown values), next)
  | .error error => (printed ++ text ["Error: " ++ error.message], environment)

/-- What a line writes, and the environment after it unless the line ends the loop. -/
def respond (environment : Environment Empty) (line : String) :
    String × Option (Environment Empty) :=
  let line := String.ofList (Text.trim line.toList)
  if line = "" then ("", some environment)
  else if line = ":help" then (text help, some environment)
  else if line = ":env" then (text (listing environment), some environment)
  else if line = ":quit" ∨ line = ":exit" then (text [farewell], none)
  else
    let (written, next) := evaluateLine environment line
    (written, some next)

/-- What the loop writes for lines, from an environment on. -/
def responses (environment : Environment Empty) : List String → String
  | [] => text [farewell]
  | line :: lines =>
      match respond environment line with
      | (written, none) => written
      | (written, some next) => written ++ responses next lines

/-- The environment in which the loop starts. -/
def startEnvironment : Environment Empty :=
  match (withPrelude setting (globalEnvironment .console)).outcome with
  | .ok environment => environment
  | .error _ => globalEnvironment .console

/-- Everything that the loop writes for the given lines. -/
def transcript (lines : List String) : String :=
  text banner ++ responses startEnvironment lines

end Lisplet.Repl
