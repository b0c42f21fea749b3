import Lisplet.Proofs.Bindings
import Mathlib

/-!
# Environments by their history

An environment comes about by changes: a name is bound to a value or to a macro, or a builtin is
registered. What the changes enter falls into two sequences, one of values and one of macros, and
each of the two tables of an environment is made of its own sequence (`Environment.after_eq`). In a
table the last entry for a name counts (`Table.find?_ofEntries_eq_some_iff`).

Nothing hangs on how a table is kept. Any map will do that finds what was put into it last, in
whatever order it lists its entries: sorted by name, they are the entries of the table
(`Table.mergeSort_eq_entries`). So an environment kept in such maps and the one kept in tables
cannot be told apart, whatever their common history (`environment_refinesMaps`).
-/

set_option autoImplicit false

namespace Lisplet

/-! ## Tables made of entries -/

namespace Table

variable {α : Type}

/-- The table with an entry added or replaced, if one is given. -/
def enter (table : Table α) : Option (String × α) → Table α
  | none => table
  | some (name, value) => table.insert name value

/-- The table made of entries, one after the other. -/
def ofEntries (entries : List (String × α)) : Table α :=
  entries.foldl (fun table entry => table.insert entry.1 entry.2) empty

/-- The last entry for a name gives it a value. -/
def LastFor (name : String) (value : α) (entries : List (String × α)) : Prop :=
  ∃ earlier later, entries = earlier ++ (name, value) :: later ∧ ∀ entry ∈ later, entry.1 ≠ name

theorem not_lastFor_nil (name : String) (value : α) : ¬ LastFor name value [] := by
  rintro ⟨earlier, later, same, _⟩
  exact List.append_ne_nil_of_right_ne_nil earlier (List.cons_ne_nil _ later) same.symm

theorem lastFor_cons_iff {name : String} {value : α} {first : String × α}
    {rest : List (String × α)} :
    LastFor name value (first :: rest) ↔
      LastFor name value rest ∨ (first = (name, value) ∧ ∀ entry ∈ rest, entry.1 ≠ name) := by
  constructor
  · rintro ⟨earlier, later, same, after⟩
    rcases List.cons_eq_append_iff.mp same with ⟨_, split⟩ | ⟨earlier, _, split⟩
    · obtain ⟨rfl, rfl⟩ := List.cons.inj split
      exact .inr ⟨rfl, after⟩
    · exact .inl ⟨earlier, later, split, after⟩
  · rintro (⟨earlier, later, rfl, after⟩ | ⟨rfl, after⟩)
    · exact ⟨first :: earlier, later, rfl, after⟩
    · exact ⟨[], rest, rfl, after⟩

theorem exists_lastFor_iff {name : String} {entries : List (String × α)} :
    (∃ value, LastFor name value entries) ↔ ∃ entry ∈ entries, entry.1 = name := by
  induction entries with
  | nil => simp [not_lastFor_nil]
  | cons first rest ih =>
      simp only [lastFor_cons_iff, exists_or, ih, List.exists_mem_cons_iff]
      constructor
      · rintro (later | ⟨value, rfl, _⟩)
        · exact .inr later
        · exact .inl rfl
      · rintro (rfl | later)
        · by_cases later : ∃ entry ∈ rest, entry.1 = first.1
          · exact .inl later
          · exact .inr ⟨first.2, rfl, fun entry member same => later ⟨entry, member, same⟩⟩
        · exact .inl later

theorem find?_foldl_insert_eq_some_iff {entries : List (String × α)} {table : Table α}
    {name : String} {value : α} :
    (entries.foldl (fun table entry => table.insert entry.1 entry.2) table).find? name =
      some value ↔
      LastFor name value entries ∨
        (table.find? name = some value ∧ ∀ entry ∈ entries, entry.1 ≠ name) := by
  induction entries generalizing table with
  | nil => simp [not_lastFor_nil]
  | cons first rest ih =>
      obtain ⟨other, last⟩ := first
      rw [List.foldl_cons, ih, lastFor_cons_iff, find?_insert, List.forall_mem_cons]
      by_cases same : name = other
      · subst same
        simp [eq_comm]
      · simp [same, Ne.symm same]

/-- What is found in a table made of entries is the last one for the name. -/
theorem find?_ofEntries_eq_some_iff {entries : List (String × α)} {name : String} {value : α} :
    (ofEntries entries).find? name = some value ↔ LastFor name value entries := by
  rw [ofEntries, find?_foldl_insert_eq_some_iff]
  simp

/-- Nothing is found for a name without an entry, and for no other name. -/
theorem find?_ofEntries_eq_none_iff {entries : List (String × α)} {name : String} :
    (ofEntries entries).find? name = none ↔ ∀ entry ∈ entries, entry.1 ≠ name := by
  rw [← not_iff_not, ← ne_eq, Option.ne_none_iff_exists']
  simp only [find?_ofEntries_eq_some_iff, exists_lastFor_iff]
  simp

theorem insert_comm (table : Table α) {first second : String} (left right : α)
    (different : first ≠ second) :
    (table.insert first left).insert second right =
      (table.insert second right).insert first left := by
  refine eq_of_find? fun name => ?_
  simp only [find?_insert]
  grind

/-- Entries for different names can change places. -/
theorem enter_comm (table : Table α) {first second : Option (String × α)}
    (different : ∀ left ∈ first, ∀ right ∈ second, left.1 ≠ right.1) :
    (table.enter first).enter second = (table.enter second).enter first := by
  match first, second with
  | none, _ => rfl
  | some _, none => rfl
  | some (left, value), some (right, other) =>
      exact insert_comm table value other (different _ rfl _ rfl)

/-! ## Tables and listings in any order -/

/-- A listing has each entry that is found under a name, once, in whatever order. -/
structure Enumerates (listing : List (String × α)) (find? : String → Option α) : Prop where
  once : (listing.map Prod.fst).Nodup
  mem_iff : ∀ name value, (name, value) ∈ listing ↔ find? name = some value

/-- Sorting a list without repeated keys gives the ascending list of its members. -/
theorem mergeSort_eq_of_ascending {β : Type} (key : β → String) {listing ascending : List β}
    (once : (listing.map key).Nodup)
    (sorted : ascending.Pairwise fun left right => key left < key right)
    (same : ∀ entry, entry ∈ listing ↔ entry ∈ ascending) :
    listing.mergeSort (fun left right => key left ≤ key right) = ascending := by
  have distinct : ascending.Nodup := by
    refine List.Pairwise.imp ?_ sorted
    rintro first _ less rfl
    exact String.lt_irrefl _ less
  have reordered : listing.Perm ascending :=
    (List.perm_ext_iff_of_nodup (List.Nodup.of_map key once) distinct).mpr same
  have trans : ∀ first second third : β, decide (key first ≤ key second) →
      decide (key second ≤ key third) → decide (key first ≤ key third) := by
    intro first second third
    simpa only [decide_eq_true_eq] using String.le_trans
  have total : ∀ first second : β,
      decide (key first ≤ key second) || decide (key second ≤ key first) := by
    intro first second
    simpa only [Bool.or_eq_true, decide_eq_true_eq] using String.le_total (key first) (key second)
  refine ((List.mergeSort_perm listing _).trans reordered).eq_of_pairwise
    (fun first second member other before behind => ?_)
      (List.pairwise_mergeSort trans total listing)
    (sorted.imp fun less => decide_eq_true (String.not_lt.mp (String.lt_asymm less)))
  exact List.inj_on_of_nodup_map once (List.mem_mergeSort.mp member) ((same second).mpr other)
    (String.le_antisymm (of_decide_eq_true before) (of_decide_eq_true behind))

/-- **Sorted by name, any listing of a table is its entries.** -/
theorem mergeSort_eq_entries {table : Table α} {listing : List (String × α)}
    (enumerates : Enumerates listing table.find?) :
    listing.mergeSort (fun left right => left.1 ≤ right.1) = table.entries :=
  mergeSort_eq_of_ascending Prod.fst enumerates.once table.ascending fun (name, value) =>
    (enumerates.mem_iff name value).trans table.find?_eq_some_iff

theorem names_ascending (table : Table α) : table.names.Pairwise (· < ·) :=
  List.pairwise_map.mpr table.ascending

theorem mem_names_iff (table : Table α) {name : String} :
    name ∈ table.names ↔ ∃ value, table.find? name = some value := by
  simp [names, find?_eq_some_iff]

/-- The names alone, sorted, are the names of the table. -/
theorem mergeSort_eq_names {table : Table α} {listing : List (String × α)}
    (enumerates : Enumerates listing table.find?) :
    (listing.map Prod.fst).mergeSort (fun left right => left ≤ right) = table.names := by
  refine mergeSort_eq_of_ascending id ?_ table.names_ascending fun name => ?_
  · rw [List.map_id]
    exact enumerates.once
  · simp [mem_names_iff, ← enumerates.mem_iff]

end Table

/-! ## Changes -/

/-- Where an entry stands: in one of the two tables, under a name. -/
inductive Slot where
  | value (name : String)
  | template (name : String)
  deriving DecidableEq, Repr

/-- A change to an environment. -/
inductive Change (Host : Type) where
  /-- A name is bound to a value. -/
  | bind (name : String) (value : Value Host)
  /-- A name is bound to a macro. -/
  | bindMacro (name : String) (definition : Macro)
  /-- A builtin is bound to its name. -/
  | register (name : String) (operation : Operation Host)

namespace Change

variable {Host : Type}

/-- The environment after a change. -/
def apply (environment : Environment Host) : Change Host → Environment Host
  | .bind name value => environment.bind name value
  | .bindMacro name definition => environment.bindMacro name definition
  | .register name operation => environment.bindBuiltin name operation

/-- Where a change makes its entry. -/
def slot : Change Host → Slot
  | .bind name _ => .value name
  | .bindMacro name _ => .template name
  | .register name _ => .value name

/-- The entry that a change makes among the values. -/
def value? : Change Host → Option (String × Value Host)
  | .bind name value => some (name, value)
  | .bindMacro _ _ => none
  | .register name operation => some (name, .builtin name operation)

/-- The entry that a change makes among the macros. -/
def template? : Change Host → Option (String × Macro)
  | .bind _ _ => none
  | .bindMacro name definition => some (name, definition)
  | .register _ _ => none

/-- A change enters what it enters in each of the two tables, and nothing else. -/
theorem apply_eq (environment : Environment Host) (change : Change Host) :
    change.apply environment =
      ⟨environment.values.enter change.value?, environment.macros.enter change.template?⟩ := by
  cases change <;> rfl

theorem slot_of_mem_value? {change : Change Host} {entry : String × Value Host}
    (member : entry ∈ change.value?) : change.slot = .value entry.1 := by
  cases change <;> cases member <;> rfl

theorem slot_of_mem_template? {change : Change Host} {entry : String × Macro}
    (member : entry ∈ change.template?) : change.slot = .template entry.1 := by
  cases change <;> cases member
  rfl

/-- Changes to different names or to different tables can change places. -/
theorem apply_comm (environment : Environment Host) {first second : Change Host}
    (apart : first.slot ≠ second.slot) :
    second.apply (first.apply environment) = first.apply (second.apply environment) := by
  have values := environment.values.enter_comm fun left here right there same =>
    apart (by rw [slot_of_mem_value? here, slot_of_mem_value? there, same])
  have macros := environment.macros.enter_comm fun left here right there same =>
    apart (by rw [slot_of_mem_template? here, slot_of_mem_template? there, same])
  simp only [apply_eq, values, macros]

end Change

namespace Environment

variable {Host : Type}

/-- The environment after changes, made one after the other to the empty one. -/
def after (changes : List (Change Host)) : Environment Host :=
  changes.foldl (fun environment change => change.apply environment) empty

theorem foldl_apply_eq (changes : List (Change Host)) (environment : Environment Host) :
    changes.foldl (fun environment change => change.apply environment) environment =
      ⟨(changes.filterMap Change.value?).foldl (fun table entry => table.insert entry.1 entry.2)
          environment.values,
        (changes.filterMap Change.template?).foldl (fun table entry => table.insert entry.1 entry.2)
          environment.macros⟩ := by
  induction changes generalizing environment with
  | nil => rfl
  | cons change changes ih =>
      rw [List.foldl_cons, ih, Change.apply_eq]
      cases change <;> rfl

/-- **Each table of an environment is made of what its changes enter there.** -/
theorem after_eq (changes : List (Change Host)) :
    after changes =
      ⟨.ofEntries (changes.filterMap Change.value?),
        .ofEntries (changes.filterMap Change.template?)⟩ :=
  foldl_apply_eq changes empty

/-- Neighbours in a history that are apart can change places. -/
theorem after_swap (changes later : List (Change Host)) {first second : Change Host}
    (apart : first.slot ≠ second.slot) :
    after (changes ++ first :: second :: later) = after (changes ++ second :: first :: later) := by
  simp only [after, List.foldl_append, List.foldl_cons]
  rw [Change.apply_comm _ apart]

/-- An environment gives the last value and the last macro of each name, and lists them by name. -/
structure Recalls (environment : Environment Host) (bound : List (String × Value Host))
    (defined : List (String × Macro)) : Prop where
  value?_iff : ∀ name value, environment.value? name = some value ↔ Table.LastFor name value bound
  unbound_iff : ∀ name, environment.value? name = none ↔ ∀ entry ∈ bound, entry.1 ≠ name
  lookup_bound : ∀ name value, Table.LastFor name value bound → environment.lookup name = value
  lookup_unbound : ∀ name,
    (∀ entry ∈ bound, entry.1 ≠ name) → environment.lookup name = .symbol name
  macroNamed?_iff : ∀ name definition,
    environment.macroNamed? name = some definition ↔ Table.LastFor name definition defined
  undefined_iff : ∀ name,
    environment.macroNamed? name = none ↔ ∀ entry ∈ defined, entry.1 ≠ name
  bindings_ascending : environment.bindings.Pairwise fun left right => left.1 < right.1
  mem_bindings_iff : ∀ name value,
    (name, value) ∈ environment.bindings ↔ Table.LastFor name value bound
  macroNames_ascending : environment.macroNames.Pairwise (· < ·)
  mem_macroNames_iff : ∀ name, name ∈ environment.macroNames ↔ ∃ entry ∈ defined, entry.1 = name

theorem recalls_after (changes : List (Change Host)) :
    (after changes).Recalls (changes.filterMap Change.value?)
    (changes.filterMap Change.template?) := by
  rw [after_eq]
  generalize changes.filterMap Change.value? = bound
  generalize changes.filterMap Change.template? = defined
  have found : ∀ name value, Table.LastFor name value bound →
      (Table.ofEntries bound).find? name = some value := fun name value last =>
    Table.find?_ofEntries_eq_some_iff.mpr last
  exact {
    value?_iff := fun name value => Table.find?_ofEntries_eq_some_iff
    unbound_iff := fun name => Table.find?_ofEntries_eq_none_iff
    lookup_bound := fun name value last => by rw [lookup, value?, found name value last]; rfl
    lookup_unbound := fun name none => by
      rw [lookup, value?, Table.find?_ofEntries_eq_none_iff.mpr none]; rfl
    macroNamed?_iff := fun name definition => Table.find?_ofEntries_eq_some_iff
    undefined_iff := fun name => Table.find?_ofEntries_eq_none_iff
    bindings_ascending := (Table.ofEntries bound).ascending
    mem_bindings_iff := fun name value =>
      (Table.find?_eq_some_iff _).symm.trans Table.find?_ofEntries_eq_some_iff
    macroNames_ascending := (Table.ofEntries defined).names_ascending
    mem_macroNames_iff := fun name => by
      rw [macroNames, Table.mem_names_iff, ← Table.exists_lastFor_iff]
      simp only [Table.find?_ofEntries_eq_some_iff] }

end Environment

/-! ## Environments kept in other maps -/

/-- A kind of maps from names, by its operations. `Lists map listing` says that the entries of a map
may be listed in the order of `listing`. -/
structure MapKind (α : Type) where
  Carrier : Type
  empty : Carrier
  update : Carrier → String → α → Carrier
  get? : Carrier → String → Option α
  Lists : Carrier → List (String × α) → Prop

/-- What is known of a kind of maps: nothing about the order of a listing. -/
structure MapKind.Lawful {α : Type} (kind : MapKind α) : Prop where
  get?_empty : ∀ name, kind.get? kind.empty name = none
  get?_update : ∀ map name value other, kind.get? (kind.update map name value) other =
    if other = name then some value else kind.get? map other
  enumerates : ∀ map listing, kind.Lists map listing → Table.Enumerates listing (kind.get? map)

/-- The values and the macros that names are bound to, kept in maps of two kinds. -/
structure Keeping {Host : Type} (valueMaps : MapKind (Value Host)) (macroMaps : MapKind Macro) where
  values : valueMaps.Carrier
  macros : macroMaps.Carrier

namespace Keeping

variable {Host : Type} {valueMaps : MapKind (Value Host)} {macroMaps : MapKind Macro}

/-- What is kept after a change. -/
def change (keeping : Keeping valueMaps macroMaps) : Change Host → Keeping valueMaps macroMaps
  | .bind name value => { keeping with values := valueMaps.update keeping.values name value }
  | .bindMacro name definition =>
      { keeping with macros := macroMaps.update keeping.macros name definition }
  | .register name operation =>
      { keeping with values := valueMaps.update keeping.values name (.builtin name operation) }

/-- What is kept after changes, made one after the other to empty maps. -/
def after (valueMaps : MapKind (Value Host)) (macroMaps : MapKind Macro)
    (changes : List (Change Host)) :
    Keeping valueMaps macroMaps :=
  changes.foldl change ⟨valueMaps.empty, macroMaps.empty⟩

/-- What is kept cannot be told from an environment: each name gives the same, and the listings,
sorted, are the same. -/
structure Presents (keeping : Keeping valueMaps macroMaps)
    (environment : Environment Host) : Prop where
  value? : ∀ name, valueMaps.get? keeping.values name = environment.value? name
  lookup : ∀ name,
    (valueMaps.get? keeping.values name).getD (.symbol name) = environment.lookup name
  macroNamed? : ∀ name, macroMaps.get? keeping.macros name = environment.macroNamed? name
  bindings : ∀ listing, valueMaps.Lists keeping.values listing →
    listing.mergeSort (fun left right => left.1 ≤ right.1) = environment.bindings
  macroNames : ∀ listing, macroMaps.Lists keeping.macros listing →
    (listing.map Prod.fst).mergeSort (fun left right => left ≤ right) = environment.macroNames

/-- The same is found in the maps that are kept as in an environment. -/
def Finds (keeping : Keeping valueMaps macroMaps) (environment : Environment Host) : Prop :=
  valueMaps.get? keeping.values = environment.value? ∧
    macroMaps.get? keeping.macros = environment.macroNamed?

section Lawful

variable (lawfulValues : valueMaps.Lawful) (lawfulMacros : macroMaps.Lawful)
include lawfulValues lawfulMacros

/-- A change keeps it so. -/
theorem Finds.change {keeping : Keeping valueMaps macroMaps} {environment : Environment Host}
    (finds : keeping.Finds environment) (change : Change Host) :
    (keeping.change change).Finds (change.apply environment) := by
  obtain ⟨values, macros⟩ := finds
  cases change with
  | bind name value =>
      refine ⟨funext fun other => ?_, macros⟩
      rw [Keeping.change, lawfulValues.get?_update, values]
      exact (environment.value?_bind name other value).symm
  | bindMacro name definition =>
      refine ⟨values, funext fun other => ?_⟩
      rw [Keeping.change, lawfulMacros.get?_update, macros]
      exact (environment.macroNamed?_bindMacro name other definition).symm
  | register name operation =>
      refine ⟨funext fun other => ?_, macros⟩
      rw [Keeping.change, lawfulValues.get?_update, values]
      exact (environment.value?_bind name other _).symm

/-- So it is after any changes. -/
theorem finds_after (changes : List (Change Host)) :
    (after valueMaps macroMaps changes).Finds (.after changes) := by
  induction changes using List.reverseRecOn with
  | nil => exact ⟨funext lawfulValues.get?_empty, funext lawfulMacros.get?_empty⟩
  | append_singleton changes change ih =>
      rw [after, Environment.after, List.foldl_concat, List.foldl_concat]
      exact ih.change lawfulValues lawfulMacros change

theorem Finds.presents {keeping : Keeping valueMaps macroMaps} {environment : Environment Host}
    (finds : keeping.Finds environment) : keeping.Presents environment where
  value? := congrFun finds.1
  lookup := fun name => by rw [finds.1]; rfl
  macroNamed? := congrFun finds.2
  bindings := fun listing listed => by
    have enumerates := lawfulValues.enumerates _ _ listed
    rw [finds.1] at enumerates
    exact Table.mergeSort_eq_entries enumerates
  macroNames := fun listing listed => by
    have enumerates := lawfulMacros.enumerates _ _ listed
    rw [finds.2] at enumerates
    exact Table.mergeSort_eq_names enumerates

end Lawful

end Keeping

/-- **An environment is a pair of finite maps, one of values and one of macros.** Each name has what
was entered for it last, the listings are in order and complete, what is entered in one table leaves
the other alone, and changes in different places can be made in either order. Kept in other maps, it
could not be told from this one. -/
theorem environment_refinesMaps {Host : Type} {valueMaps : MapKind (Value Host)}
    {macroMaps : MapKind Macro} (lawfulValues : valueMaps.Lawful) (lawfulMacros : macroMaps.Lawful)
    (changes : List (Change Host)) :
    (Environment.after changes).Recalls (changes.filterMap Change.value?)
        (changes.filterMap Change.template?) ∧
      (Keeping.after valueMaps macroMaps changes).Presents (.after changes) ∧
      (∀ others : List (Change Host),
        (others.filterMap Change.value? = changes.filterMap Change.value? →
          (Environment.after others).values = (Environment.after changes).values) ∧
        (others.filterMap Change.template? = changes.filterMap Change.template? →
          (Environment.after others).macros = (Environment.after changes).macros)) ∧
      ∀ (first second : Change Host) (later : List (Change Host)), first.slot ≠ second.slot →
        Environment.after (changes ++ first :: second :: later) =
          Environment.after (changes ++ second :: first :: later) := by
  have finds := Keeping.finds_after lawfulValues lawfulMacros changes
  refine ⟨Environment.recalls_after changes, finds.presents lawfulValues lawfulMacros,
    fun others => ⟨?_, ?_⟩,
    fun first second later apart => Environment.after_swap changes later apart⟩
  · intro same
    rw [Environment.after_eq, Environment.after_eq, same]
  · intro same
    rw [Environment.after_eq, Environment.after_eq, same]

/-- Hash maps, whose entries may be listed in any order at all. -/
def hashMaps (α : Type) : MapKind α where
  Carrier := Std.HashMap String α
  empty := ∅
  update := fun map name value => map.insert name value
  get? := fun map name => map[name]?
  Lists := fun map listing => listing.Perm map.toList

theorem nodup_toList {α : Type} (map : Std.HashMap String α) : (map.toList.map Prod.fst).Nodup := by
  rw [Std.HashMap.map_fst_toList_eq_keys]
  exact Std.HashMap.nodup_keys

theorem hashMaps_lawful (α : Type) : (hashMaps α).Lawful where
  get?_empty := fun name => Std.HashMap.getElem?_empty
  get?_update := fun (map : Std.HashMap String α) name value other => by
    change (map.insert name value)[other]? = if other = name then some value else map[other]?
    simp only [Std.HashMap.getElem?_insert, beq_iff_eq, eq_comm (a := name)]
  enumerates := fun (map : Std.HashMap String α) listing reordered => {
    once := (reordered.map Prod.fst).nodup_iff.mpr (nodup_toList map)
    mem_iff := fun name value =>
      reordered.mem_iff.trans Std.HashMap.mem_toList_iff_getElem?_eq_some }

/-- In hash maps, a name that is bound twice is listed once, and the macro of that name counts
apart. -/
theorem environment_refinesMaps_rebinding :
    let changes : List (Change Empty) := [.bind "x" .null, .bindMacro "x" ⟨[], .form []⟩,
      .register "log" (.print .log), .bind "x" (.bool true)]
    let keeping := Keeping.after (hashMaps (Value Empty)) (hashMaps Macro) changes
    (hashMaps (Value Empty)).Lawful ∧ (hashMaps Macro).Lawful ∧
      (hashMaps (Value Empty)).get? keeping.values "x" = some (.bool true) ∧
      (∀ listing, (hashMaps (Value Empty)).Lists keeping.values listing →
        listing.mergeSort (fun left right => left.1 ≤ right.1) =
          [("log", .builtin "log" (.print .log)), ("x", .bool true)]) ∧
      ∀ listing, (hashMaps Macro).Lists keeping.macros listing →
        (listing.map Prod.fst).mergeSort (fun left right => left ≤ right) = ["x"] := by
  intro changes keeping
  have lawfulValues := hashMaps_lawful (Value Empty)
  have lawfulMacros := hashMaps_lawful Macro
  obtain ⟨_, presents, _⟩ := environment_refinesMaps lawfulValues lawfulMacros changes
  exact ⟨lawfulValues, lawfulMacros, presents.value? "x", presents.bindings, presents.macroNames⟩

end Lisplet
