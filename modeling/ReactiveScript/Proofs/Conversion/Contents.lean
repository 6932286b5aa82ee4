import ReactiveScript.Proofs.Datum.Sameness
import ReactiveScript.Value.Convert

/-! # Conversion of contents

What a conversion to a type does to the contents of a value, without a store: integers widen, what
has no value becomes the zero of the type, and containers are converted item by item, where of two
keys that become alike the first keeps its place. Conversion keeps what can be compared comparable
(`Steady.convert`), and it leaves contents alone that have the type already. -/

namespace ReactiveScript

namespace Datum

/-- The contents of the zero of a type. -/
def zeroOf : Ty → Option Datum
  | .int => some (.int 0)
  | .float => some (.float 0)
  | .complex => some (.complex 0 0)
  | .boolean => some (.boolean false)
  | .text => some (.text "")
  | .void => some .void
  | .any => some .untyped
  | .list _ => some (.list 0 .any [])
  | .dict _ _ => some (.dict 0 .any .any [])
  | .unknown _ => none

/-- The entries after a key is given a value: in place if a key is like it, else at the end. -/
def setEntry (key value : Datum) : List (Datum × Datum) → List (Datum × Datum)
  | [] => [(key, value)]
  | (other, old) :: rest =>
    if other.like key then (other, value) :: rest else (other, old) :: setEntry key value rest

/-- Converts the entries of a dictionary one after the other. -/
def convertEntries (convertKey convertValue : Datum → Option Datum) :
    List (Datum × Datum) → List (Datum × Datum) → Option (List (Datum × Datum))
  | done, [] => some done
  | done, (key, value) :: rest => do
    let newKey ← convertKey key
    let newValue ← convertValue value
    convertEntries convertKey convertValue (setEntry newKey newValue done) rest

/-- Converts contents to a type where no container is converted to its own kind. -/
def convertPlain : Ty → Datum → Option Datum
  | .any, tree => some tree
  | .unknown _, _ => none
  | .void, _ => some .void
  | target, .void => zeroOf target
  | target, .untyped => zeroOf target
  | .int, .int n => some (.int n)
  | .float, .float x => some (.float x)
  | .complex, .complex re im => some (.complex re im)
  | .boolean, .boolean b => some (.boolean b)
  | .text, .text s => some (.text s)
  | .float, .int n => some (.float (Number.ofWord n))
  | .complex, .int n => some (.complex (Number.ofWord n) 0)
  | .complex, .float x => some (.complex x 0)
  | _, _ => none

/-- Converts contents to a type. -/
def convert : Ty → Datum → Option Datum
  | .list element, .list _ _ items => (items.mapM (convert element)).map (.list 0 .any)
  | .dict key value, .dict _ _ _ entries =>
    (convertEntries (convert key) (convert value) [] entries).map (.dict 0 .any .any)
  | type, tree => convertPlain type tree

/-! ## Nothing that is no number appears -/

/-- A tree that compares as its contents do: no container, or nothing in it is no number. -/
def Steady (tree : Datum) : Prop :=
  tree.container? = none ∨ ∀ part ∈ tree.parts, part.isNaN = false

/-- The parts of items without handles and tags are parts of items without them. -/
theorem partsOfItems_bare {items : List Datum}
    (each : ∀ item ∈ items, item.bare.parts = item.parts.map bare) :
    partsOfItems (items.map bare) = (partsOfItems items).map bare := by
  induction items with
  | nil => rfl
  | cons item items ih =>
    obtain ⟨first, rest⟩ := List.forall_mem_cons.mp each
    simp [partsOfItems, first, ih rest]

/-- The parts of entries without handles and tags are parts of entries without them. -/
theorem partsOfEntries_bare {entries : List (Datum × Datum)}
    (keys : ∀ entry ∈ entries, entry.1.bare.parts = entry.1.parts.map bare)
    (values : ∀ entry ∈ entries, entry.2.bare.parts = entry.2.parts.map bare) :
    partsOfEntries (entries.map fun entry => (entry.1.bare, entry.2.bare)) =
      (partsOfEntries entries).map bare := by
  induction entries with
  | nil => rfl
  | cons entry entries ih =>
    obtain ⟨key, keys⟩ := List.forall_mem_cons.mp keys
    obtain ⟨value, values⟩ := List.forall_mem_cons.mp values
    simp [partsOfEntries, key, value, ih keys values]

/-- The parts of a tree without handles and tags are its parts without them. -/
theorem parts_bare (tree : Datum) : tree.bare.parts = tree.parts.map bare := by
  induction tree with
  | list handle element items ih => simp [bare, parts, partsOfItems_bare ih]
  | dict handle key value entries keys values =>
    simp [bare, parts, partsOfEntries_bare keys values]
  | _ => rfl

/-- Handles and tags do not count for what is no number. -/
theorem numbers_bare_iff {tree : Datum} : (∀ part ∈ tree.bare.parts, part.isNaN = false) ↔
    ∀ part ∈ tree.parts, part.isNaN = false := by
  have number (tree : Datum) : tree.bare.isNaN = tree.isNaN := by cases tree <;> rfl
  simp only [parts_bare, List.forall_mem_map, number]

/-- Handles and tags do not count for what is steady. -/
theorem steady_bare_iff {tree : Datum} : tree.bare.Steady ↔ tree.Steady := by
  have container : tree.bare.container? = none ↔ tree.container? = none := by
    cases tree <;> simp [bare, container?]
  rw [Steady, Steady, numbers_bare_iff, container]

variable {type : Ty} {tree result : Datum}

/-- The zero of a type is a number, if it is meant to be one. -/
theorem numbers_of_zeroOf (h : zeroOf type = some result) :
    ∀ part ∈ result.parts, part.isNaN = false := by
  cases type <;> cases h <;> decide

/-- Setting an entry brings nothing into the entries but the key and the value. -/
theorem forall_mem_setEntry {key value : Datum} {entries : List (Datum × Datum)}
    {holdsKey holdsValue : Datum → Prop} (forKey : holdsKey key) (forValue : holdsValue value)
    (h : ∀ entry ∈ entries, holdsKey entry.1 ∧ holdsValue entry.2) :
    ∀ entry ∈ setEntry key value entries, holdsKey entry.1 ∧ holdsValue entry.2 := by
  induction entries with
  | nil => simpa [setEntry] using ⟨forKey, forValue⟩
  | cons entry entries ih =>
    obtain ⟨first, rest⟩ := List.forall_mem_cons.mp h
    rw [setEntry]
    split
    · exact List.forall_mem_cons.mpr ⟨⟨first.1, forValue⟩, rest⟩
    · exact List.forall_mem_cons.mpr ⟨first, ih rest⟩

/-- Converting entries brings nothing into the entries but converted keys and values. -/
theorem forall_mem_convertEntries {convertKey convertValue : Datum → Option Datum}
    {holdsKey holdsValue : Datum → Prop} {done entries results : List (Datum × Datum)}
    (forKey : ∀ entry ∈ entries, ∀ key, convertKey entry.1 = some key → holdsKey key)
    (forValue : ∀ entry ∈ entries, ∀ value, convertValue entry.2 = some value → holdsValue value)
    (sofar : ∀ entry ∈ done, holdsKey entry.1 ∧ holdsValue entry.2)
    (h : convertEntries convertKey convertValue done entries = some results) :
    ∀ entry ∈ results, holdsKey entry.1 ∧ holdsValue entry.2 := by
  induction entries generalizing done with
  | nil =>
    cases h
    exact sofar
  | cons entry entries ih =>
    obtain ⟨key, keys⟩ := List.forall_mem_cons.mp forKey
    obtain ⟨value, values⟩ := List.forall_mem_cons.mp forValue
    obtain ⟨newKey, found, h⟩ := Option.bind_eq_some_iff.mp h
    obtain ⟨newValue, found', h⟩ := Option.bind_eq_some_iff.mp h
    exact ih keys values (forall_mem_setEntry (key newKey found) (value newValue found') sofar) h

/-- A list is converted when each item is. -/
theorem mapM_eq_some_iff {f : Datum → Option Datum} {items results : List Datum} :
    items.mapM f = some results ↔
      List.Forall₂ (fun item result => f item = some result) items results := by
  induction items generalizing results with
  | nil => simp [eq_comm]
  | cons item items ih =>
    cases results with
    | nil => simp [Option.bind_eq_some_iff]
    | cons result results => simp [Option.bind_eq_some_iff, ← ih]

/-- What a list is converted to comes from its items. -/
theorem exists_of_mem_mapM {f : Datum → Option Datum} {items results : List Datum}
    (h : items.mapM f = some results) (mem : result ∈ results) :
    ∃ item ∈ items, f item = some result := by
  have beside : List.Forall₂ (fun result item => f item = some result) results items :=
    (mapM_eq_some_iff.mp h).flip
  exact exists_of_forall₂ beside result mem

/-- What is no container has no part but itself. -/
theorem numbers_of_plain (plain : tree.container? = none) (number : tree.isNaN = false) :
    ∀ part ∈ tree.parts, part.isNaN = false := by
  intro part mem
  cases tree with
  | list | dict | cycle => cases plain
  | _ =>
    cases List.mem_singleton.mp mem
    exact number

/-- A conversion without containers brings nothing in that is no number. -/
theorem numbers_of_convertPlain (numbers : ∀ part ∈ tree.parts, part.isNaN = false)
    (h : convertPlain type tree = some result) : ∀ part ∈ result.parts, part.isNaN = false := by
  have zero : (0 : Float).isNaN = false := by decide
  have self := numbers tree (mem_parts_self tree)
  cases type <;> cases tree <;> simp only [convertPlain] at h <;>
    first
    | exact numbers_of_zeroOf h
    | cases h
  all_goals
    first
    | exact numbers
    | refine numbers_of_plain rfl ?_
  case float.int n => exact Number.isNaN_ofWord n
  case complex.int n => exact Bool.or_eq_false_iff.mpr ⟨Number.isNaN_ofWord n, zero⟩
  case complex.float => exact Bool.or_eq_false_iff.mpr ⟨self, zero⟩
  all_goals rfl

/-- **Conversion brings nothing in that is no number.** -/
theorem numbers_of_convert (numbers : ∀ part ∈ tree.parts, part.isNaN = false)
    (h : convert type tree = some result) : ∀ part ∈ result.parts, part.isNaN = false := by
  induction type generalizing tree result with
  | list element ih =>
    cases tree with
    | list handle tag items =>
      obtain ⟨results, converted, rfl⟩ := Option.map_eq_some_iff.mp h
      obtain ⟨-, numbers⟩ := forall_parts_list.mp numbers
      refine forall_parts_list.mpr ⟨rfl, fun result mem => ?_⟩
      obtain ⟨item, mem, found⟩ := exists_of_mem_mapM converted mem
      exact ih (numbers item mem) found
    | _ => exact numbers_of_convertPlain numbers h
  | dict key value keys values =>
    cases tree with
    | dict handle tag tag' entries =>
      obtain ⟨results, converted, rfl⟩ := Option.map_eq_some_iff.mp h
      obtain ⟨-, numbers, numbers'⟩ := forall_parts_dict.mp numbers
      have each := forall_mem_convertEntries
        (fun entry mem key found => keys (numbers entry mem) found)
        (fun entry mem value found => values (numbers' entry mem) found) (by simp) converted
      exact forall_parts_dict.mpr
        ⟨rfl, fun entry mem => (each entry mem).1, fun entry mem => (each entry mem).2⟩
    | _ => exact numbers_of_convertPlain numbers h
  | _ => exact numbers_of_convertPlain numbers h

/-- **Conversion keeps contents steady.** -/
theorem Steady.convert (steady : tree.Steady) (h : convert type tree = some result) :
    result.Steady := by
  rcases steady with plain | numbers
  · -- What is no container becomes the zero of the type, or no container.
    cases tree <;> cases plain <;> cases type <;> simp only [Datum.convert, convertPlain] at h <;>
      first
      | exact .inr (numbers_of_zeroOf h)
      | cases h
    all_goals exact .inl rfl
  · exact .inr (numbers_of_convert numbers h)

/-! ## What has the type already -/

section Fixed

variable {key value : Datum} {entries done : List (Datum × Datum)}

/-- A key that is like none of the keys comes last. -/
theorem setEntry_of_new (new : ∀ entry ∈ entries, entry.1.like key = false) :
    setEntry key value entries = entries ++ [(key, value)] := by
  induction entries with
  | nil => rfl
  | cons entry entries ih =>
    obtain ⟨first, rest⟩ := List.forall_mem_cons.mp new
    simp [setEntry, first, ih rest]

/-- Entries with different keys that are not changed by a conversion are taken over as they are. -/
theorem convertEntries_fixed {convertKey convertValue : Datum → Option Datum}
    (keys : ∀ entry ∈ entries, convertKey entry.1 = some entry.1)
    (values : ∀ entry ∈ entries, convertValue entry.2 = some entry.2)
    (differ : (done ++ entries).Pairwise fun entry other => entry.1.like other.1 = false) :
    convertEntries convertKey convertValue done entries = some (done ++ entries) := by
  induction entries generalizing done with
  | nil => rw [List.append_nil, convertEntries]
  | cons entry entries ih =>
    obtain ⟨key, keys⟩ := List.forall_mem_cons.mp keys
    obtain ⟨value, values⟩ := List.forall_mem_cons.mp values
    have new : ∀ other ∈ done, other.1.like entry.1 = false := fun other mem =>
      (List.pairwise_append.mp differ).2.2 other mem entry List.mem_cons_self
    rw [List.append_cons] at differ ⊢
    rw [convertEntries, key, Option.bind_eq_bind, Option.bind_some, value, Option.bind_some,
      setEntry_of_new new]
    exact ih keys values differ

end Fixed

end Datum

end ReactiveScript
