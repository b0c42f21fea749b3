/-!
# Tables by name

A table gives some names an entry each. Its entries stand in strictly ascending order of their
names, so a table has one representation only, and listing it lists the names in order.

`find?_insert_self` and `find?_insert_other` say what an insertion changes.
-/

set_option autoImplicit false

namespace Lisplet

/-- Entries by name, in strictly ascending order of the names. -/
structure Table (α : Type) where
  entries : List (String × α)
  ascending : entries.Pairwise fun left right => left.1 < right.1

namespace Table

variable {α : Type}

/-- Two tables with the same entries are the same. -/
theorem ext {left right : Table α} (same : left.entries = right.entries) : left = right := by
  cases left
  cases right
  cases same
  rfl

/-- The table without entries. -/
def empty : Table α := ⟨[], .nil⟩

/-- The entry of a name in a list of entries. -/
def findIn? (name : String) : List (String × α) → Option α
  | [] => none
  | (first, value) :: rest => if name = first then some value else findIn? name rest

/-- A list of entries with the entry of a name added or replaced. -/
def insertEntry (name : String) (value : α) : List (String × α) → List (String × α)
  | [] => [(name, value)]
  | (first, old) :: rest =>
      if name < first then (name, value) :: (first, old) :: rest
      else if name = first then (name, value) :: rest
      else (first, old) :: insertEntry name value rest

theorem mem_insertEntry {name : String} {value : α} {entry : String × α}
    {entries : List (String × α)} (member : entry ∈ insertEntry name value entries) :
    entry = (name, value) ∨ entry ∈ entries := by
  induction entries with
  | nil => exact .inl (List.mem_singleton.mp member)
  | cons head rest ih =>
      obtain ⟨first, old⟩ := head
      unfold insertEntry at member
      split at member
      · exact (List.mem_cons.mp member)
      · split at member
        · exact (List.mem_cons.mp member).imp id (List.mem_cons_of_mem _)
        · rcases List.mem_cons.mp member with same | later
          · exact .inr (same ▸ List.mem_cons_self)
          · exact (ih later).imp id (List.mem_cons_of_mem _)

/-- Insertion keeps the order. -/
theorem insertEntry_ascending (name : String) (value : α) {entries : List (String × α)}
    (ascending : entries.Pairwise fun left right => left.1 < right.1) :
    (insertEntry name value entries).Pairwise fun left right => left.1 < right.1 := by
  induction entries with
  | nil => exact List.pairwise_singleton _ _
  | cons head rest ih =>
      obtain ⟨first, old⟩ := head
      have after := (List.pairwise_cons.mp ascending).1
      have within := (List.pairwise_cons.mp ascending).2
      unfold insertEntry
      split
      · rename_i before
        refine List.pairwise_cons.mpr ⟨fun entry member => ?_, ascending⟩
        rcases List.mem_cons.mp member with same | later
        · exact same ▸ before
        · exact String.lt_trans before (after entry later)
      · split
        · rename_i same
          exact List.pairwise_cons.mpr ⟨fun entry member => same ▸ after entry member, within⟩
        · rename_i notBefore different
          refine List.pairwise_cons.mpr ⟨fun entry member => ?_, ih within⟩
          rcases mem_insertEntry member with same | later
          · have : first < name := by grind
            exact same ▸ this
          · exact after entry later

theorem findIn?_insertEntry_self (name : String) (value : α) (entries : List (String × α)) :
    findIn? name (insertEntry name value entries) = some value := by
  induction entries with
  | nil => simp [insertEntry, findIn?]
  | cons head rest ih =>
      obtain ⟨first, old⟩ := head
      unfold insertEntry
      split
      · simp [findIn?]
      · split
        · simp [findIn?]
        · rename_i different
          simp [findIn?, different, ih]

theorem findIn?_insertEntry_other {name other : String} (value : α)
    (entries : List (String × α)) (different : other ≠ name) :
    findIn? other (insertEntry name value entries) = findIn? other entries := by
  induction entries with
  | nil => simp [insertEntry, findIn?, different]
  | cons head rest ih =>
      obtain ⟨first, old⟩ := head
      unfold insertEntry
      split
      · simp [findIn?, different]
      · split
        · rename_i same
          subst same
          simp [findIn?, different]
        · simp [findIn?, ih]

/-- The entry of a name, if it has one. -/
def find? (table : Table α) (name : String) : Option α := findIn? name table.entries

/-- The table with the entry of a name added or replaced. -/
def insert (table : Table α) (name : String) (value : α) : Table α :=
  ⟨insertEntry name value table.entries, insertEntry_ascending name value table.ascending⟩

/-- The names that have an entry, in ascending order. -/
def names (table : Table α) : List String := table.entries.map Prod.fst

@[simp] theorem find?_empty (name : String) : (empty : Table α).find? name = none := rfl

@[simp] theorem find?_insert_self (table : Table α) (name : String) (value : α) :
    (table.insert name value).find? name = some value :=
  findIn?_insertEntry_self name value table.entries

theorem find?_insert_other (table : Table α) {name other : String} (value : α)
    (different : other ≠ name) : (table.insert name value).find? other = table.find? other :=
  findIn?_insertEntry_other value table.entries different

end Table
end Lisplet
