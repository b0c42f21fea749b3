import Lisplet.Environment.Basic
import Mathlib.Data.List.Sort

/-!
# Environments by what they bind

A table is determined by the entries that it gives (`Table.eq_of_find?`), as its entries stand in
the order of their names: so an environment is determined by the value and the macro of each name
(`Environment.eq_of_lookups`). It does not matter in which order, or how often, it came to bind
them.
-/

set_option autoImplicit false

namespace Lisplet

namespace Table

variable {α : Type}

/-- What is found in ascending entries is one of them. -/
theorem findIn?_eq_some_iff {entries : List (String × α)} {name : String} {value : α}
    (ascending : entries.Pairwise fun left right => left.1 < right.1) :
    findIn? name entries = some value ↔ (name, value) ∈ entries := by
  induction entries with
  | nil => exact ⟨nofun, nofun⟩
  | cons head rest ih =>
      obtain ⟨first, old⟩ := head
      obtain ⟨after, ascending⟩ := List.pairwise_cons.mp ascending
      rw [findIn?, List.mem_cons]
      by_cases same : name = first
      · subst same
        have notLater : (name, value) ∉ rest := fun later =>
          String.lt_irrefl name (after (name, value) later)
        simp [notLater, eq_comm]
      · simp [same, ih ascending]

theorem find?_eq_some_iff (table : Table α) {name : String} {value : α} :
    table.find? name = some value ↔ (name, value) ∈ table.entries :=
  findIn?_eq_some_iff table.ascending

/-- **Tables that give the same entries are the same.** -/
theorem eq_of_find? {left right : Table α} (same : ∀ name, left.find? name = right.find? name) :
    left = right := by
  have antisymm : Std.Antisymm fun first second : String × α => first.1 < second.1 :=
    ⟨fun _ _ less more => absurd (String.lt_trans less more) (String.lt_irrefl _)⟩
  have irrefl : Std.Irrefl fun first second : String × α => first.1 < second.1 :=
    ⟨fun entry => String.lt_irrefl entry.1⟩
  refine ext (left.ascending.eq_of_mem_iff right.ascending fun entry => ?_)
  obtain ⟨name, value⟩ := entry
  rw [← find?_eq_some_iff, ← find?_eq_some_iff, same]

theorem find?_insert (table : Table α) (name other : String) (value : α) :
    (table.insert name value).find? other =
      if other = name then some value else table.find? other := by
  split
  · rename_i same
    rw [same, find?_insert_self]
  · rename_i different
    exact find?_insert_other table value different

/-- Of two entries for a name, the later one counts. -/
theorem insert_insert (table : Table α) (name : String) (first second : α) :
    (table.insert name first).insert name second = table.insert name second := by
  refine eq_of_find? fun other => ?_
  simp only [find?_insert]
  split <;> rfl

/-- An entry that the table has already changes nothing. -/
theorem insert_of_find? {table : Table α} {name : String} {value : α}
    (found : table.find? name = some value) : table.insert name value = table := by
  refine eq_of_find? fun other => ?_
  rw [find?_insert]
  split
  · rename_i same
    rw [same, found]
  · rfl

end Table

namespace Environment

variable {Host : Type}

theorem value?_bind (environment : Environment Host) (name other : String) (value : Value Host) :
    (environment.bind name value).value? other =
      if other = name then some value else environment.value? other :=
  Table.find?_insert environment.values name other value

theorem macroNamed?_bindMacro (environment : Environment Host) (name other : String)
    (definition : Macro) :
    (environment.bindMacro name definition).macroNamed? other =
      if other = name then some definition else environment.macroNamed? other :=
  Table.find?_insert environment.macros name other definition

/-- **Environments that bind each name alike are the same.** -/
theorem eq_of_lookups {left right : Environment Host}
    (values : ∀ name, left.value? name = right.value? name)
    (macros : ∀ name, left.macroNamed? name = right.macroNamed? name) : left = right := by
  obtain ⟨leftValues, leftMacros⟩ := left
  obtain ⟨rightValues, rightMacros⟩ := right
  rw [mk.injEq]
  exact ⟨Table.eq_of_find? values, Table.eq_of_find? macros⟩

theorem bind_bind (environment : Environment Host) (name : String) (first second : Value Host) :
    (environment.bind name first).bind name second = environment.bind name second :=
  congrArg (mk · environment.macros) (Table.insert_insert environment.values name first second)

theorem bind_of_value? {environment : Environment Host} {name : String} {value : Value Host}
    (bound : environment.value? name = some value) : environment.bind name value = environment :=
  congrArg (mk · environment.macros) (Table.insert_of_find? bound)

theorem bindMacro_of_macroNamed? {environment : Environment Host} {name : String}
    {definition : Macro} (bound : environment.macroNamed? name = some definition) :
    environment.bindMacro name definition = environment :=
  congrArg (mk environment.values) (Table.insert_of_find? bound)

end Environment
end Lisplet
