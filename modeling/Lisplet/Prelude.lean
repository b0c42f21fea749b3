import Lisplet.Evaluation
import Lisplet.Source.Program

/-!
# The prelude

The part of the language that is written in the language itself: `defn`, `or` and `and` are macros,
the comparisons other than `<` and `=` and the functions `map` and `filter` are functions. A program
is run with the prelude in front of it.

The macros `or` and `and` evaluate their second argument only when they need it. `or` has its first
argument twice in its template, so what that prints is printed twice when it is truthy.
-/

set_option autoImplicit false

namespace Lisplet

variable {Host : Type}

/-- The source text of the prelude. -/
def Prelude.source : String := "
(macro defn (::name ::args ::body) (def ::name (fn ::args ::body)))
(macro or (::x ::y) (if ::x ::x ::y))
(macro and (::x ::y) (not (or (not ::x) (not ::y))))

(defn > (a b) (and (not (= a b)) (not (< a b))))
(defn >= (a b) (not (< a b)))
(defn <= (a b) (not (> a b)))
(defn != (a b) (not (= a b)))

(defn map (f arr) (reduce (fn (acc x) (append (f x) acc)) [] arr))
(defn filter (pred arr) (reduce (fn (acc x) (if (pred x) (append x acc) acc)) [] arr))
"

/-- The expressions of the prelude. -/
def Prelude.program : List Expr := (Source.readText defaultReadLimit Prelude.source.toList).1

/-- The environment with the prelude in it. -/
def withPrelude (setting : Setting Host) (environment : Environment Host) :
    Run Host (Environment Host) :=
  (evaluateProgram setting environment Prelude.program).map Prod.snd

end Lisplet
