import Lisplet.Arity
import Lisplet.Expr.Printer
import Lisplet.Source.Snippet

/-!
# Errors

Reading a text fails with a `ParseError`, evaluation with any of the other errors. An error is kept
as its cause; `Error.message` words it.

A type error may carry the form whose evaluation raised it. `Error.inForm` adds that form, and keeps
the one that is there already: so the innermost form wins (`Error.inForm_inForm`).
-/

set_option autoImplicit false

namespace Lisplet

/-- What kind of mistake a text holds. -/
inductive ParseErrorKind where
  /-- A closing bracket without a partner, or of the wrong kind. -/
  | invalidSyntax
  /-- The text ends inside a group. -/
  | incomplete
  /-- More groups are open than the limit on nesting allows. -/
  | tooDeeplyNested
  /-- An integer that does not fit in 64 bits. -/
  | implementationLimit
  deriving DecidableEq, Repr

/-- The name of a kind of mistake. -/
def ParseErrorKind.display : ParseErrorKind → String
  | .invalidSyntax => "invalid syntax"
  | .incomplete => "incomplete input"
  | .tooDeeplyNested => "too deeply nested"
  | .implementationLimit => "implementation limit"

/-- A mistake in a text. -/
structure ParseError where
  kind : ParseErrorKind
  /-- What is wrong, in words. -/
  text : String
  /-- The text around the place of the mistake. -/
  context : Option String
  /-- The character at that place. -/
  found : Option String
  deriving DecidableEq, Repr

namespace ParseError

/-- A mistake at a place of a text. -/
def atPlace (kind : ParseErrorKind) (text : String) (place : Source.Place) : ParseError :=
  ⟨kind, text, some place.snippet, place.found?⟩

/-- The lines that follow the wording of a mistake: the character found and the text around it. -/
def details (error : ParseError) : String :=
  (match error.found with
    | some found => "\nFound: " ++ found
    | none => "") ++
  (match error.context with
    | some context => "\nContext: " ++ context
    | none => "")

end ParseError

/-- The special forms that bind names. -/
inductive Binder where
  | macroForm
  | defForm
  | fnForm
  deriving DecidableEq, Repr

/-- The keyword of a form that binds names. -/
def Binder.keyword : Binder → String
  | .macroForm => "macro"
  | .defForm => "def"
  | .fnForm => "fn"

/-- Why a value or an expression does not fit where it stands. A value is given as its description,
an expression as its source text. -/
inductive TypeFault where
  /-- An argument that has to be a number is none. -/
  | notNumber (found : String)
  /-- An argument that has to be a vector is none. -/
  | notVector (found : String)
  /-- A value that is neither a function nor a builtin is called. -/
  | notCallable (found : String)
  /-- The first argument of a fold is neither a function nor a builtin. -/
  | notReducer (found : String)
  /-- The name that a form binds is no symbol. -/
  | nameNotSymbol (binder : Binder) (found : String)
  /-- A parameter of a form is no symbol. -/
  | parameterNotSymbol (binder : Binder) (found : String)
  /-- The parameters of a form are no list. -/
  | parametersNotList (binder : Binder) (found : String)
  /-- A fault that a host operation states in its own words. -/
  | stated (text : String)
  deriving DecidableEq, Repr

/-- The wording of a fault. -/
def TypeFault.text : TypeFault → String
  | .notNumber found => "expected number, got " ++ found
  | .notVector found => "expected vector, got " ++ found
  | .notCallable found => "cannot call " ++ found
  | .notReducer found => "reduce expects a function, got " ++ found
  | .nameNotSymbol binder found => binder.keyword ++ " name must be a symbol, got " ++ found
  | .parameterNotSymbol binder found =>
      binder.keyword ++ " parameter must be a symbol, got " ++ found
  | .parametersNotList binder found =>
      binder.keyword ++ " parameters must be a list, got " ++ found
  | .stated text => text

/-- Why a text could not be read or a program could not be run to its end. -/
inductive Error where
  /-- The text is no program. -/
  | parse (error : ParseError)
  /-- A value or an expression does not fit where it stands; with the source text of the innermost
  form that was being evaluated, once it is known. -/
  | type (fault : TypeFault) (form : Option String)
  /-- A call with a number of arguments that the callee does not take. -/
  | arity (callee : String) (expected : Arity) (got : Nat)
  /-- Evaluation went deeper than the limit. -/
  | depthExceeded (limit : Nat)
  /-- A vector or list would be nested deeper than the limit. -/
  | nestingTooDeep (limit : Nat)
  deriving DecidableEq, Repr

namespace Error

/-- A type error of which the form is not known yet. -/
def ofFault (fault : TypeFault) : Error := .type fault none

/-- The whole wording of an error, its details included. -/
def message : Error → String
  | .parse error => "ParseError: " ++ error.text ++ error.details
  | .type fault form =>
      "TypeError: " ++ fault.text ++
        (match form with
          | some form => "\n  Context: while evaluating " ++ form
          | none => "")
  | .arity callee expected got =>
      "ArityError: " ++ callee ++ " expected " ++ expected.display ++ " arguments, got " ++
        toString got
  | .depthExceeded limit =>
      "EvaluationError: evaluation depth limit exceeded (max: " ++ toString limit ++ ")"
  | .nestingTooDeep limit =>
      "EvaluationError: value nesting limit exceeded (max: " ++ toString limit ++ ")"

/-- An error raised while a form was evaluated: a type error without a form gets this one. -/
def inForm (form : Expr) : Error → Error
  | .type fault none => .type fault (some form.display)
  | other => other

/-- The form that is added first stays. -/
theorem inForm_inForm (inner outer : Expr) (error : Error) :
    (error.inForm inner).inForm outer = error.inForm inner := by
  match error with
  | .type _ none => rfl
  | .type _ (some _) => rfl
  | .parse _ => rfl
  | .arity _ _ _ => rfl
  | .depthExceeded _ => rfl
  | .nestingTooDeep _ => rfl

end Error

/-- Fails unless an operation takes the given number of arguments. -/
def Arity.validate (arity : Arity) (callee : String) (count : Nat) : Except Error Unit :=
  if arity.accepts count then .ok () else .error (.arity callee arity count)

end Lisplet
