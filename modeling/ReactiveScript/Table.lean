/-! # Tables of named things

A finite map from names, kept in the order in which the names first came. -/

namespace ReactiveScript

/-- A finite map from names; a name stands in it at most once. -/
structure Table (α : Type) where
  /-- The names with what they stand for, in the order in which they came. -/
  entries : List (String × α)
deriving Repr, Inhabited

namespace Table

variable {α : Type}

/-- The table without names. -/
def empty : Table α := ⟨[]⟩

/-- What a name stands for among some entries. -/
def findEntry (name : String) : List (String × α) → Option α
  | [] => none
  | (other, value) :: rest => if name = other then some value else findEntry name rest

/-- What a name stands for. -/
def find? (table : Table α) (name : String) : Option α := findEntry name table.entries

/-- Whether a name is in the table. -/
def contains (table : Table α) (name : String) : Bool := (table.find? name).isSome

/-- The entries after a name is set: in place if it was there, else at the end. -/
def insertEntry (name : String) (value : α) : List (String × α) → List (String × α)
  | [] => [(name, value)]
  | (other, old) :: rest =>
    if name = other then (name, value) :: rest else (other, old) :: insertEntry name value rest

/-- The table after a name is set. -/
def insert (table : Table α) (name : String) (value : α) : Table α :=
  ⟨insertEntry name value table.entries⟩

/-- The entries in ascending order of their names. -/
def sorted (table : Table α) : List (String × α) :=
  table.entries.mergeSort fun left right => left.1 ≤ right.1

/-- The names in ascending order. -/
def names (table : Table α) : List String := table.sorted.map (·.1)

@[simp] theorem find?_empty (name : String) : (empty : Table α).find? name = none := rfl

/-- A name stands for what it was last set to, and the other names are left alone. -/
theorem find?_insert (table : Table α) (name other : String) (value : α) :
    (table.insert name value).find? other =
      if other = name then some value else table.find? other := by
  obtain ⟨entries⟩ := table
  simp only [find?, insert]
  induction entries with
  | nil => simp [insertEntry, findEntry]
  | cons entry rest ih =>
    obtain ⟨key, old⟩ := entry
    unfold insertEntry
    by_cases here : name = key
    · subst here
      by_cases h : other = name <;> simp [findEntry, h]
    · rw [if_neg here]
      by_cases h : other = key
      · subst h
        simp [findEntry, Ne.symm here]
      · simpa [findEntry, h] using ih

end Table

end ReactiveScript
