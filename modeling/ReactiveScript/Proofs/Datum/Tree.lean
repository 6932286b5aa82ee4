import Mathlib.Data.List.Forall2
import ReactiveScript.Value.Datum

/-! # The contents of a tree

Whether two values are the same is a question about their trees, `Datum.same`, where no container
stands inside itself. The tree of a value tells more than its contents: every container carries its
handle and its tags. `Datum.bare` drops both, and `Datum.like` compares two trees by their contents
alone, where `Datum.same` also takes every container to be the same as itself. What holds all the
way down a tree is stated over its `Datum.parts`. -/

namespace ReactiveScript

namespace Datum

/-- **Induction over trees**, where the items, keys and values of a container come before it. -/
@[elab_as_elim, induction_eliminator]
theorem induction {motive : Datum → Prop} (int : ∀ n, motive (.int n))
    (float : ∀ x, motive (.float x)) (complex : ∀ re im, motive (.complex re im))
    (boolean : ∀ b, motive (.boolean b)) (text : ∀ s, motive (.text s)) (void : motive .void)
    (untyped : motive .untyped)
    (list : ∀ handle element items, (∀ item ∈ items, motive item) →
      motive (.list handle element items))
    (dict : ∀ handle key value entries, (∀ entry ∈ entries, motive entry.1) →
      (∀ entry ∈ entries, motive entry.2) → motive (.dict handle key value entries))
    (cycle : ∀ container, motive (.cycle container)) : ∀ tree, motive tree
  | .int n => int n
  | .float x => float x
  | .complex re im => complex re im
  | .boolean b => boolean b
  | .text s => text s
  | .void => void
  | .untyped => untyped
  | .list handle element items => list handle element items fun item _ =>
    induction int float complex boolean text void untyped list dict cycle item
  | .dict handle key value entries => dict handle key value entries
    (fun entry _ => induction int float complex boolean text void untyped list dict cycle entry.1)
    (fun entry _ => induction int float complex boolean text void untyped list dict cycle entry.2)
  | .cycle container => cycle container
termination_by tree => sizeOf tree
decreasing_by
  · have := List.sizeOf_lt_of_mem ‹item ∈ items›
    simp only [Datum.list.sizeOf_spec]
    omega
  all_goals
    have := List.sizeOf_lt_of_mem ‹entry ∈ entries›
    have : sizeOf entry = 1 + sizeOf entry.1 + sizeOf entry.2 := rfl
    simp only [Datum.dict.sizeOf_spec]
    omega

end Datum

/-- The container as a value. -/
def Container.value : Container → Value
  | .list handle => .list handle
  | .dict handle => .dict handle

namespace Datum

/-- The value that a tree was read from. -/
def value : Datum → Value
  | .int n => .int n
  | .float x => .float x
  | .complex re im => .complex re im
  | .boolean b => .boolean b
  | .text s => .text s
  | .void => .void
  | .untyped => .untyped
  | .list handle _ _ => .list handle
  | .dict handle _ _ _ => .dict handle
  | .cycle container => container.value

/-- The tree of a container was read from the container. -/
theorem value_of_container? {tree : Datum} {container : Container}
    (h : tree.container? = some container) : tree.value = container.value := by
  cases tree <;> cases h <;> rfl

/-- What was read from a container is its tree, or was cut off at it. -/
theorem container?_of_value {tree : Datum} {container : Container}
    (h : tree.value = container.value) : tree.container? = some container := by
  cases tree with
  | cycle other => cases other <;> cases container <;> cases h <;> rfl
  | _ => cases container <;> cases h <;> rfl

/-! ## Sameness -/

/-- The complex number that a tree is. -/
def asComplex? : Datum → Option (Float × Float)
  | .int n => some (Number.ofWord n, 0)
  | .float x => some (x, 0)
  | .complex re im => some (re, im)
  | _ => none

/-- Whether two trees are the same complex number. -/
def sameComplex (left right : Datum) : Bool :=
  match left.asComplex?, right.asComplex? with
  | some (a, b), some (c, d) => a == c && b == d
  | _, _ => false

mutual

/-- Whether two trees are the same value: numbers by size across their kinds, lists item by item,
dictionaries by their entries in any order, and a container always as itself. -/
def same : Datum → Datum → Bool
  | .int m, .int n => m == n
  | .int m, .float y => Number.ofWord m == y
  | .float x, .int n => x == Number.ofWord n
  | .float x, .float y => x == y
  | .complex re im, other => sameComplex (.complex re im) other
  | .int m, .complex re im => sameComplex (.int m) (.complex re im)
  | .float x, .complex re im => sameComplex (.float x) (.complex re im)
  | .boolean a, .boolean b => a == b
  | .text s, .text t => s == t
  | .void, .void => true
  | .untyped, .untyped => true
  | .list one _ items, .list other _ others => one == other || sameItems items others
  | .dict one _ _ entries, .dict other _ _ others =>
    one == other || (entries.length == others.length && covered entries others)
  | .cycle container, other => other.container? == some container
  | other, .cycle container => other.container? == some container
  | _, _ => false

/-- Whether two lists of trees are the same item by item. -/
def sameItems : List Datum → List Datum → Bool
  | [], [] => true
  | item :: items, other :: others => same item other && sameItems items others
  | _, _ => false

/-- Whether every entry is the same as some entry of another dictionary. -/
def covered : List (Datum × Datum) → List (Datum × Datum) → Bool
  | [], _ => true
  | (key, value) :: entries, others =>
    others.any (fun other => same key other.1 && same value other.2) && covered entries others

end

/-! ## Parts -/

mutual

/-- A tree and all trees inside it. -/
def parts : Datum → List Datum
  | .list handle element items => .list handle element items :: partsOfItems items
  | .dict handle key value entries => .dict handle key value entries :: partsOfEntries entries
  | other => [other]

/-- The parts of the items of a list. -/
def partsOfItems : List Datum → List Datum
  | [] => []
  | item :: items => parts item ++ partsOfItems items

/-- The parts of the keys and values of a dictionary. -/
def partsOfEntries : List (Datum × Datum) → List Datum
  | [] => []
  | (key, value) :: entries => parts key ++ parts value ++ partsOfEntries entries

end

variable {tree part : Datum} {items : List Datum} {entries : List (Datum × Datum)}
variable {handle : Handle} {element key value : Ty} {holds : Datum → Prop}

/-- A part of some items is a part of one of them. -/
theorem mem_partsOfItems : part ∈ partsOfItems items ↔ ∃ item ∈ items, part ∈ item.parts := by
  induction items with
  | nil => simp [partsOfItems]
  | cons item items ih => simp [partsOfItems, ih]

/-- A part of some entries is a part of one of their keys or values. -/
theorem mem_partsOfEntries : part ∈ partsOfEntries entries ↔
    ∃ entry ∈ entries, part ∈ entry.1.parts ∨ part ∈ entry.2.parts := by
  induction entries with
  | nil => simp [partsOfEntries]
  | cons entry entries ih =>
    obtain ⟨key, value⟩ := entry
    simp [partsOfEntries, ih, or_assoc]

/-- The parts of a list are the list and the parts of its items. -/
theorem parts_list : (list handle element items).parts =
    .list handle element items :: partsOfItems items :=
  rfl

/-- The parts of a dictionary are the dictionary and the parts of its keys and values. -/
theorem parts_dict : (dict handle key value entries).parts =
    .dict handle key value entries :: partsOfEntries entries :=
  rfl

/-- The parts of an item are parts of the list. -/
theorem mem_parts_list {item : Datum} (mem : item ∈ items) (inside : part ∈ item.parts) :
    part ∈ (list handle element items).parts := by
  rw [parts_list]
  exact List.mem_cons_of_mem _ (mem_partsOfItems.mpr ⟨item, mem, inside⟩)

/-- The parts of a key or a value are parts of the dictionary. -/
theorem mem_parts_dict {entry : Datum × Datum} (mem : entry ∈ entries)
    (inside : part ∈ entry.1.parts ∨ part ∈ entry.2.parts) :
    part ∈ (dict handle key value entries).parts := by
  rw [parts_dict]
  exact List.mem_cons_of_mem _ (mem_partsOfEntries.mpr ⟨entry, mem, inside⟩)

/-- What holds of all parts of a list holds of the list and of all parts of its items. -/
theorem forall_parts_list : (∀ part ∈ (list handle element items).parts, holds part) ↔
    holds (.list handle element items) ∧ ∀ item ∈ items, ∀ part ∈ item.parts, holds part := by
  simp only [parts_list, List.forall_mem_cons, mem_partsOfItems]
  exact and_congr_right fun _ =>
    ⟨fun h item mem part inside => h part ⟨item, mem, inside⟩,
      fun h part ⟨item, mem, inside⟩ => h item mem part inside⟩

/-- What holds of all parts of a dictionary holds of the dictionary and of all parts of its keys and
values. -/
theorem forall_parts_dict : (∀ part ∈ (dict handle key value entries).parts, holds part) ↔
    holds (.dict handle key value entries) ∧
      (∀ entry ∈ entries, ∀ part ∈ entry.1.parts, holds part) ∧
      ∀ entry ∈ entries, ∀ part ∈ entry.2.parts, holds part := by
  simp only [parts_dict, List.forall_mem_cons, mem_partsOfEntries]
  refine and_congr_right fun _ => ⟨fun h => ⟨?_, ?_⟩, ?_⟩
  · exact fun entry mem part inside => h part ⟨entry, mem, .inl inside⟩
  · exact fun entry mem part inside => h part ⟨entry, mem, .inr inside⟩
  · rintro ⟨keys, values⟩ part ⟨entry, mem, inside | inside⟩
    · exact keys entry mem part inside
    · exact values entry mem part inside

/-- A tree is a part of itself. -/
theorem mem_parts_self (tree : Datum) : tree ∈ tree.parts := by
  cases tree <;> exact List.mem_cons_self

/-- A part of a part is a part. -/
theorem mem_parts_trans {inner : Datum} (mem : part ∈ tree.parts) (inside : inner ∈ part.parts) :
    inner ∈ tree.parts := by
  induction tree with
  | list handle element items ih =>
    rw [parts_list] at mem
    rcases List.mem_cons.mp mem with rfl | mem
    · exact inside
    · obtain ⟨item, mem, found⟩ := mem_partsOfItems.mp mem
      exact mem_parts_list mem (ih item mem found)
  | dict handle key value entries keys values =>
    rw [parts_dict] at mem
    rcases List.mem_cons.mp mem with rfl | mem
    · exact inside
    · obtain ⟨entry, mem, found⟩ := mem_partsOfEntries.mp mem
      exact mem_parts_dict mem (found.imp (keys entry mem) (values entry mem))
  | _ =>
    cases List.mem_singleton.mp mem
    exact inside

/-- The keys of a dictionary. -/
def keys : Datum → List Datum
  | .dict _ _ _ entries => entries.map Prod.fst
  | _ => []

/-- A key is a part. -/
theorem mem_parts_of_mem_keys {key : Datum} (mem : key ∈ tree.keys) : key ∈ tree.parts := by
  cases tree with
  | dict handle keyType valueType entries =>
    obtain ⟨entry, found, rfl⟩ := List.mem_map.mp mem
    exact mem_parts_dict found (.inl (mem_parts_self _))
  | _ => cases mem

/-! ## Contents -/

mutual

/-- A tree without handles and tags. -/
def bare : Datum → Datum
  | .list _ _ items => .list 0 .any (bareItems items)
  | .dict _ _ _ entries => .dict 0 .any .any (bareEntries entries)
  | other => other

/-- The items of a list without handles and tags. -/
def bareItems : List Datum → List Datum
  | [] => []
  | item :: items => bare item :: bareItems items

/-- The entries of a dictionary without handles and tags. -/
def bareEntries : List (Datum × Datum) → List (Datum × Datum)
  | [] => []
  | (key, value) :: entries => (bare key, bare value) :: bareEntries entries

end

@[simp] theorem bareItems_eq (items : List Datum) : bareItems items = items.map bare := by
  induction items with
  | nil => rfl
  | cons item items ih => exact congrArg (item.bare :: ·) ih

@[simp] theorem bareEntries_eq (entries : List (Datum × Datum)) :
    bareEntries entries = entries.map fun entry => (entry.1.bare, entry.2.bare) := by
  induction entries with
  | nil => rfl
  | cons entry entries ih => exact congrArg ((entry.1.bare, entry.2.bare) :: ·) ih

mutual

/-- Whether two trees have the same contents: numbers by size across their kinds, lists item by item
and dictionaries by their entries in any order. What was cut off has no contents. -/
def like : Datum → Datum → Bool
  | .list _ _ items, .list _ _ others => likeItems items others
  | .dict _ _ _ entries, .dict _ _ _ others =>
    entries.length == others.length && likeCovered entries others
  | .cycle _, _ | _, .cycle _ => false
  | left, right => same left right

/-- Whether two lists of trees have the same contents item by item. -/
def likeItems : List Datum → List Datum → Bool
  | [], [] => true
  | item :: items, other :: others => like item other && likeItems items others
  | _, _ => false

/-- Whether every entry has the same contents as some entry of another dictionary. -/
def likeCovered : List (Datum × Datum) → List (Datum × Datum) → Bool
  | [], _ => true
  | (key, value) :: entries, others =>
    others.any (fun other => like key other.1 && like value other.2) && likeCovered entries others

end

/-- An entry that has the same contents as another one. -/
def LikeEntry (entry other : Datum × Datum) : Prop :=
  entry.1.like other.1 = true ∧ entry.2.like other.2 = true

/-- Lists have the same contents when their items do, one by one. -/
theorem likeItems_iff {items others : List Datum} : likeItems items others = true ↔
    List.Forall₂ (fun item other => item.like other = true) items others := by
  induction items generalizing others with
  | nil => cases others <;> simp [likeItems]
  | cons item items ih => cases others <;> simp [likeItems, ih]

/-- Entries are covered when each one has the same contents as another one. -/
theorem likeCovered_iff {entries others : List (Datum × Datum)} :
    likeCovered entries others = true ↔
      ∀ entry ∈ entries, ∃ other ∈ others, LikeEntry entry other := by
  induction entries with
  | nil => simp [likeCovered]
  | cons entry entries ih =>
    obtain ⟨key, value⟩ := entry
    simp [likeCovered, ih, LikeEntry]

section Containers

variable {right : Datum} {handle : Handle} {element key value : Ty}
variable {items : List Datum} {entries : List (Datum × Datum)}

/-- A list is like a list with items like its own. -/
theorem like_list_iff : (list handle element items).like right = true ↔
    ∃ other tag others, right = .list other tag others ∧
      List.Forall₂ (fun item other => item.like other = true) items others := by
  cases right <;> simp [like, same, likeItems_iff]

/-- A dictionary is like a dictionary of the same length that covers its entries. -/
theorem like_dict_iff : (dict handle key value entries).like right = true ↔
    ∃ other tag tag' others, right = .dict other tag tag' others ∧
      entries.length = others.length ∧
      ∀ entry ∈ entries, ∃ other ∈ others, LikeEntry entry other := by
  cases right <;> simp [like, same, likeCovered_iff]

end Containers

/-- Handles and tags do not count for the contents of items if they do not for each item. -/
theorem likeItems_bare {items : List Datum} (others : List Datum)
    (each : ∀ item ∈ items, ∀ other : Datum, item.bare.like other.bare = item.like other) :
    likeItems (items.map bare) (others.map bare) = likeItems items others := by
  induction items generalizing others with
  | nil => cases others <;> rfl
  | cons item items ih =>
    obtain ⟨first, rest⟩ := List.forall_mem_cons.mp each
    cases others with
    | nil => rfl
    | cons other others => simp [likeItems, first, ih others rest]

/-- Handles and tags do not count for the contents of entries if they do not for each key and each
value. -/
theorem likeCovered_bare {entries : List (Datum × Datum)} (others : List (Datum × Datum))
    (keys : ∀ entry ∈ entries, ∀ other : Datum, entry.1.bare.like other.bare = entry.1.like other)
    (values : ∀ entry ∈ entries, ∀ other : Datum,
      entry.2.bare.like other.bare = entry.2.like other) :
    likeCovered (entries.map fun entry => (entry.1.bare, entry.2.bare))
      (others.map fun entry => (entry.1.bare, entry.2.bare)) = likeCovered entries others := by
  induction entries with
  | nil => rfl
  | cons entry entries ih =>
    obtain ⟨key, keys⟩ := List.forall_mem_cons.mp keys
    obtain ⟨value, values⟩ := List.forall_mem_cons.mp values
    simp [likeCovered, Function.comp_def, key, value, ih keys values]

/-- **Handles and tags do not count for the contents.** -/
theorem like_bare (left right : Datum) : left.bare.like right.bare = left.like right := by
  induction left generalizing right with
  | list handle element items ih =>
    cases right with
    | list other tag others =>
      change likeItems (bareItems items) (bareItems others) = likeItems items others
      rw [bareItems_eq, bareItems_eq, likeItems_bare others ih]
    | _ => rfl
  | dict handle key value entries keys values =>
    cases right with
    | dict other tag tag' others =>
      change ((bareEntries entries).length == (bareEntries others).length &&
        likeCovered (bareEntries entries) (bareEntries others)) = _
      rw [bareEntries_eq, bareEntries_eq, List.length_map, List.length_map,
        likeCovered_bare others keys values]
      rfl
    | _ => rfl
  | _ => cases right <;> rfl

end Datum

end ReactiveScript
