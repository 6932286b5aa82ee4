import ReactiveScript.Proofs.Nesting.Containment

/-! # Reading and comparing what has no container inside itself

A reader that opens every container it meets comes to an end on what has no container inside itself,
and what it reads is the tree of the value (`Store.read_eq`). A container inside itself is read
within no budget (`Store.readWithin_eq_none`). Two values are opened side by side, so that comparing
them comes to an end where one of them is read to its end (`Store.isSome_same`); where both are, it
tells whether their trees are the same (`Store.same_eq`). -/

namespace ReactiveScript

section Partial

variable {α β : Type} {values : List α}

/-- Where every part gives a known result, so does the whole. -/
theorem mapM_eq_some {f : α → Option β} {g : α → β}
    (each : ∀ value ∈ values, f value = some (g value)) :
    values.mapM f = some (values.map g) := by
  induction values with
  | nil => rfl
  | cons value values ih =>
    obtain ⟨first, rest⟩ := List.forall_mem_cons.mp each
    simp [List.mapM_cons, first, ih rest]

/-- Where every part gives something, so does the whole. -/
theorem isSome_mapM {f : α → Option β} (each : ∀ value ∈ values, (f value).isSome = true) :
    (values.mapM f).isSome = true := by
  induction values with
  | nil => rfl
  | cons value values ih =>
    obtain ⟨first, rest⟩ := List.forall_mem_cons.mp each
    obtain ⟨result, found⟩ := Option.isSome_iff_exists.mp first
    obtain ⟨results, found'⟩ := Option.isSome_iff_exists.mp (ih rest)
    simp [List.mapM_cons, found, found']

/-- Where every question that may be asked is answered, so is whether all answers are yes. -/
theorem allM_eq_some {p : α → Option Bool} {q : α → Bool}
    (each : ∀ value ∈ values, p value = some (q value)) : values.allM p = some (values.all q) := by
  induction values with
  | nil => rfl
  | cons value values ih =>
    obtain ⟨first, rest⟩ := List.forall_mem_cons.mp each
    cases answer : q value <;> simp [List.allM, first, answer, ih rest]

/-- Where every question that may be asked is answered, so is whether some answer is yes. -/
theorem anyM_eq_some {p : α → Option Bool} {q : α → Bool}
    (each : ∀ value ∈ values, p value = some (q value)) : values.anyM p = some (values.any q) := by
  induction values with
  | nil => rfl
  | cons value values ih =>
    obtain ⟨first, rest⟩ := List.forall_mem_cons.mp each
    cases answer : q value <;> simp [List.anyM, first, answer, ih rest]

theorem eq_some_getD {answer : Option Bool} (found : answer.isSome = true) :
    answer = some (answer.getD false) := by
  obtain ⟨yes, rfl⟩ := Option.isSome_iff_exists.mp found
  rfl

theorem isSome_allM {p : α → Option Bool} (each : ∀ value ∈ values, (p value).isSome = true) :
    (values.allM p).isSome = true := by
  rw [allM_eq_some fun value mem => eq_some_getD (each value mem)]
  rfl

theorem isSome_anyM {p : α → Option Bool} (each : ∀ value ∈ values, (p value).isSome = true) :
    (values.anyM p).isSome = true := by
  rw [anyM_eq_some fun value mem => eq_some_getD (each value mem)]
  rfl

/-- All answers are yes where whether they are is answered with yes. -/
theorem allM_eq_some_true_iff {p : α → Option Bool} :
    values.allM p = some true ↔ ∀ value ∈ values, p value = some true := by
  induction values with
  | nil => simp
  | cons value values ih =>
    rw [List.forall_mem_cons, ← ih]
    cases first : p value with
    | none => simp [List.allM, first]
    | some answer => cases answer <;> simp [List.allM, first]

/-- Some answer is yes where whether one is is answered with yes. -/
theorem exists_of_anyM {p : α → Option Bool} (found : values.anyM p = some true) :
    ∃ value ∈ values, p value = some true := by
  induction values with
  | nil => cases found
  | cons value values ih =>
    obtain ⟨answer, first, found⟩ := Option.bind_eq_some_iff.mp found
    cases answer with
    | true => exact ⟨value, List.mem_cons_self, first⟩
    | false =>
      obtain ⟨other, mem, yes⟩ := ih found
      exact ⟨other, List.mem_cons_of_mem _ mem, yes⟩

end Partial

namespace Store

variable {store : Store} {shut : Option Container} {value left right : Value} {budget : Nat}

/-! ## Reading -/

theorem isSome_readEntry {read : Value → Option Datum} {entry : Value × Value}
    (opened : (readEntry read entry).isSome = true) :
    (read entry.1).isSome = true ∧ (read entry.2).isSome = true := by
  unfold readEntry at opened
  cases key : read entry.1 with
  | none => simp [key] at opened
  | some _ =>
    cases value : read entry.2 with
    | none => simp [key, value] at opened
    | some _ => exact ⟨rfl, rfl⟩

/-- Where a list is cut off nowhere, so are its items, and they are less deep. -/
theorem view_item {handle : Handle} (acyclic : (store.view (.list handle)).isCyclic = false)
    {item : Value} (mem : item ∈ (store.list handle).items) :
    (store.view item).isCyclic = false ∧
      (store.view item).nesting < (store.view (.list handle)).nesting := by
  have tree := view_list acyclic
  rw [tree] at acyclic
  rw [tree, Datum.nesting]
  have mem' := List.mem_map_of_mem (f := store.view) mem
  exact ⟨Datum.anyCyclic_iff.mp acyclic _ mem',
    Nat.lt_succ_of_le (Datum.nestingOfItems_le_iff.mp (Nat.le_refl _) _ mem')⟩

/-- Where a dictionary is cut off nowhere, so are its keys and values, and they are less deep. -/
theorem view_entry {handle : Handle} (acyclic : (store.view (.dict handle)).isCyclic = false)
    {entry : Value × Value} (mem : entry ∈ (store.dict handle).entries) :
    ((store.view entry.1).isCyclic = false ∧
      (store.view entry.1).nesting < (store.view (.dict handle)).nesting) ∧
    (store.view entry.2).isCyclic = false ∧
      (store.view entry.2).nesting < (store.view (.dict handle)).nesting := by
  have tree := view_dict acyclic
  rw [tree] at acyclic
  rw [tree, Datum.nesting]
  have mem' := List.mem_map_of_mem
    (f := fun entry : Value × Value => (store.view entry.1, store.view entry.2)) mem
  obtain ⟨key, value⟩ := Datum.anyCyclicEntry_iff.mp acyclic _ mem'
  obtain ⟨lessKey, lessValue⟩ := Datum.nestingOfEntries_le_iff.mp (Nat.le_refl _) _ mem'
  exact ⟨⟨key, Nat.lt_succ_of_le lessKey⟩, value, Nat.lt_succ_of_le lessValue⟩

/-- **Induction on what has no container inside itself**: on the items of a list and on the keys and
values of a dictionary, which are less deep. -/
theorem acyclic_induction {motive : ∀ value, (store.view value).isCyclic = false → Prop}
    (plain : ∀ value acyclic, value.isPlain = true → motive value acyclic)
    (list : ∀ handle acyclic,
      (∀ item (mem : item ∈ (store.list handle).items), motive item (view_item acyclic mem).1) →
        motive (.list handle) acyclic)
    (dict : ∀ handle acyclic,
      (∀ entry (mem : entry ∈ (store.dict handle).entries),
        motive entry.1 (view_entry acyclic mem).1.1 ∧
          motive entry.2 (view_entry acyclic mem).2.1) →
        motive (.dict handle) acyclic)
    (value : Value) (acyclic : (store.view value).isCyclic = false) : motive value acyclic := by
  -- How deep the tree is gets less from a container to what it contains.
  obtain ⟨depth, deep⟩ : ∃ depth, (store.view value).nesting < depth := ⟨_, Nat.lt_succ_self _⟩
  induction depth generalizing value with
  | zero => cases deep
  | succ depth ih =>
    cases value with
    | list handle =>
      refine list handle acyclic fun item mem => ih item (view_item acyclic mem).1 ?_
      exact Nat.lt_of_lt_of_le (view_item acyclic mem).2 (Nat.le_of_lt_succ deep)
    | dict handle =>
      refine dict handle acyclic fun entry mem => ?_
      obtain ⟨⟨key, lessKey⟩, value, lessValue⟩ := view_entry acyclic mem
      exact ⟨ih _ key (by omega), ih _ value (by omega)⟩
    | _ => exact plain _ acyclic rfl

/-- **Reading comes to an end on what has no container inside itself**, and gives its tree. -/
theorem readWithin_eq (acyclic : (store.view value).isCyclic = false)
    (deep : (store.view value).nesting ≤ budget) :
    store.readWithin budget value = some (store.view value) := by
  induction budget generalizing value with
  | zero =>
    cases value with
    | list handle => simp [view_list acyclic, Datum.nesting] at deep
    | dict handle => simp [view_dict acyclic, Datum.nesting] at deep
    | _ => rfl
  | succ budget ih =>
    cases value with
    | list handle =>
      have each : ∀ item ∈ (store.list handle).items,
          store.readWithin budget item = some (store.view item) := by
        intro item mem
        obtain ⟨acyclic', less⟩ := view_item acyclic mem
        exact ih acyclic' (by omega)
      rw [readWithin_list, mapM_eq_some each, view_list acyclic]
      rfl
    | dict handle =>
      have each : ∀ entry ∈ (store.dict handle).entries,
          readEntry (store.readWithin budget) entry
            = some (store.view entry.1, store.view entry.2) := by
        intro entry mem
        obtain ⟨⟨key, lessKey⟩, value, lessValue⟩ := view_entry acyclic mem
        simp [readEntry, ih key (by omega), ih value (by omega)]
      rw [readWithin_dict, mapM_eq_some each, view_dict acyclic]
      rfl
    | _ => rfl

/-- Whoever reads a list reads its items with less left. -/
theorem isSome_readWithin_item {handle : Handle}
    (read : (store.readWithin (budget + 1) (.list handle)).isSome = true) {item : Value}
    (mem : item ∈ (store.list handle).items) : (store.readWithin budget item).isSome = true :=
  isSome_of_mapM (Option.isSome_of_isSome_bind read) item mem

/-- Whoever reads a dictionary reads its keys and values with less left. -/
theorem isSome_readWithin_entry {handle : Handle}
    (read : (store.readWithin (budget + 1) (.dict handle)).isSome = true) {entry : Value × Value}
    (mem : entry ∈ (store.dict handle).entries) :
    (store.readWithin budget entry.1).isSome = true ∧
      (store.readWithin budget entry.2).isSome = true :=
  isSome_readEntry (isSome_of_mapM (Option.isSome_of_isSome_bind read) entry mem)

/-- Whoever opens a container opens the containers inside it with less left. -/
theorem isSome_readWithin_of_contains {outer inner : Container}
    (read : (store.readWithin budget outer.value).isSome = true)
    (contains : store.Contains outer inner) :
    ∃ less < budget, (store.readWithin less inner.value).isSome = true := by
  cases budget with
  | zero => cases outer <;> cases read
  | succ budget =>
    refine ⟨budget, Nat.lt_succ_self _, ?_⟩
    cases outer with
    | list handle => exact isSome_readWithin_item read contains
    | dict handle =>
      obtain ⟨entry, mem, here | here⟩ := contains
      · rw [← here]
        exact (isSome_readWithin_entry read mem).1
      · rw [← here]
        exact (isSome_readWithin_entry read mem).2

/-- Any number of containers inside each other. -/
theorem isSome_readWithin_of_within {outer inner : Container}
    (read : (store.readWithin budget outer.value).isSome = true)
    (within : store.Within outer inner) :
    ∃ less < budget, (store.readWithin less inner.value).isSome = true := by
  induction within with
  | single contains => exact isSome_readWithin_of_contains read contains
  | tail _ contains ih =>
    obtain ⟨less, smaller, read'⟩ := ih
    obtain ⟨least, smallest, read''⟩ := isSome_readWithin_of_contains read' contains
    exact ⟨least, Nat.lt_trans smallest smaller, read''⟩

/-- **A container inside itself is read within no budget.** The budget left when it is met again
would be smaller, and again, and so on. -/
theorem readWithin_eq_none {container : Container} (within : store.Within container container)
    (budget : Nat) : store.readWithin budget container.value = none := by
  induction budget using Nat.strongRecOn with
  | ind budget ih =>
    cases read : store.readWithin budget container.value with
    | none => rfl
    | some tree =>
      have opened : (store.readWithin budget container.value).isSome = true := by rw [read]; rfl
      obtain ⟨less, smaller, again⟩ := isSome_readWithin_of_within opened within
      rw [ih less smaller] at again
      cases again

/-- **What has no container inside itself is read to its end**, and gives its tree. -/
theorem read_eq (acyclic : (store.view value).isCyclic = false) :
    store.read value = some (store.view value) :=
  read_eq_some_iff.mpr ⟨_, readWithin_eq acyclic (Nat.le_refl _)⟩

/-- The text of what has no container inside itself is that of its tree. -/
theorem render_eq (acyclic : (store.view value).isCyclic = false) :
    store.render value = some (store.view value).render := by
  rw [render, read_eq acyclic, Option.map_some]

/-- A container inside itself is never read to its end. -/
theorem read_eq_none {container : Container} (within : store.Within container container) :
    store.read container.value = none :=
  readWithin_eq_none within _

/-- A list is read to its end if its items are. -/
theorem isSome_read_list {handle : Handle} : (store.read (.list handle)).isSome = true ↔
    ∀ item ∈ (store.list handle).items, (store.read item).isSome = true := by
  rw [read_list]
  refine ⟨fun read => isSome_of_mapM (Option.isSome_of_isSome_bind read), fun each => ?_⟩
  obtain ⟨items, found⟩ := Option.isSome_iff_exists.mp (isSome_mapM each)
  rw [found]
  rfl

/-- A dictionary is read to its end if its keys and values are. -/
theorem isSome_read_dict {handle : Handle} : (store.read (.dict handle)).isSome = true ↔
    ∀ entry ∈ (store.dict handle).entries,
      (store.read entry.1).isSome = true ∧ (store.read entry.2).isSome = true := by
  rw [read_dict]
  refine ⟨fun read entry mem =>
    isSome_readEntry (isSome_of_mapM (Option.isSome_of_isSome_bind read) entry mem), fun each => ?_⟩
  have opened : ∀ entry ∈ (store.dict handle).entries,
      (readEntry store.read entry).isSome = true := by
    intro entry mem
    obtain ⟨key, value⟩ := each entry mem
    obtain ⟨_, foundKey⟩ := Option.isSome_iff_exists.mp key
    obtain ⟨_, foundValue⟩ := Option.isSome_iff_exists.mp value
    simp [readEntry, foundKey, foundValue]
  obtain ⟨entries, found⟩ := Option.isSome_iff_exists.mp (isSome_mapM opened)
  rw [found]
  rfl

/-! ## Comparing -/

/-- Two values that cannot be opened side by side are compared without opening any. -/
theorem sameBeside_of_apart (apart : ∀ one other, ¬ (left = .list one ∧ right = .list other))
    (apart' : ∀ one other, ¬ (left = .dict one ∧ right = .dict other)) :
    store.sameBeside shut left right = some ((store.view left).same (store.view right)) := by
  cases left <;> cases right <;>
    first
    | exact absurd ⟨rfl, rfl⟩ (apart _ _)
    | exact absurd ⟨rfl, rfl⟩ (apart' _ _)
    | rfl

/-- Items are the same one by one. -/
theorem sameItems_map (items others : List Value) :
    Datum.sameItems (items.map store.view) (others.map store.view)
      = (items.length == others.length
        && (items.zip others).all fun pair => (store.view pair.1).same (store.view pair.2)) := by
  induction items generalizing others with
  | nil => cases others <;> rfl
  | cons item items ih =>
    cases others with
    | nil => rfl
    | cons other others =>
      simp only [List.map_cons, Datum.sameItems, ih, List.length_cons, List.zip_cons_cons,
        List.all_cons]
      grind

/-- Each entry is found among the others. -/
theorem covered_map (entries others : List (Value × Value)) :
    Datum.covered (entries.map fun entry => (store.view entry.1, store.view entry.2))
        (others.map fun entry => (store.view entry.1, store.view entry.2))
      = entries.all fun entry => others.any fun other =>
          (store.view entry.1).same (store.view other.1)
            && (store.view entry.2).same (store.view other.2) := by
  induction entries with
  | nil => rfl
  | cons entry entries ih =>
    simp only [List.map_cons, Datum.covered, ih, List.any_map, List.all_cons]
    rfl

/-- Nothing that stands in a value is the container that is shut. -/
def Clear (store : Store) (shut : Option Container) (value : Value) : Prop :=
  ∀ part ∈ (store.view value).parts, ∀ container, shut = some container →
    part.value ≠ container.value

/-- Where nothing is shut, every value is clear. -/
theorem clear_none (store : Store) (value : Value) : store.Clear none value :=
  fun _ _ _ shut => nomatch shut

/-- A container that is clear is not the one that is shut. -/
theorem Clear.ne {container : Container} (clear : store.Clear shut container.value) :
    shut ≠ some container := by
  intro same
  refine clear _ (Datum.mem_parts_self _) container same ?_
  rw [value_view]

/-- The items of a list that is clear are clear. -/
theorem Clear.item {handle : Handle} (clear : store.Clear shut (.list handle))
    (acyclic : (store.view (.list handle)).isCyclic = false) {item : Value}
    (mem : item ∈ (store.list handle).items) : store.Clear shut item := by
  intro part inside
  refine clear part ?_
  rw [view_list acyclic]
  exact Datum.mem_parts_list (List.mem_map_of_mem mem) inside

/-- The keys and values of a dictionary that is clear are clear. -/
theorem Clear.entry {handle : Handle} (clear : store.Clear shut (.dict handle))
    (acyclic : (store.view (.dict handle)).isCyclic = false) {entry : Value × Value}
    (mem : entry ∈ (store.dict handle).entries) :
    store.Clear shut entry.1 ∧ store.Clear shut entry.2 := by
  have mem' := List.mem_map_of_mem
    (f := fun entry : Value × Value => (store.view entry.1, store.view entry.2)) mem
  refine ⟨fun part inside => clear part ?_, fun part inside => clear part ?_⟩
  · rw [view_dict acyclic]
    exact Datum.mem_parts_dict mem' (.inl inside)
  · rw [view_dict acyclic]
    exact Datum.mem_parts_dict mem' (.inr inside)

/-- **Comparing two values that have no container inside themselves**, nor the one that is shut,
tells whether their trees are the same. -/
theorem sameBeside_eq (acyclic : (store.view left).isCyclic = false)
    (acyclic' : (store.view right).isCyclic = false) (clear : store.Clear shut left)
    (clear' : store.Clear shut right) :
    store.sameBeside shut left right = some ((store.view left).same (store.view right)) := by
  -- By induction on the left side; the right side is taken apart as the left one is.
  induction left, acyclic using acyclic_induction generalizing right with
  | plain left acyclic plain =>
    refine sameBeside_of_apart ?_ ?_ <;> rintro one other ⟨rfl, -⟩ <;> cases plain
  | list one acyclic ih =>
    cases right with
    | list other =>
      have answer : (store.view (.list one)).same (store.view (.list other))
          = (one == other || Datum.sameItems ((store.list one).items.map store.view)
            ((store.list other).items.map store.view)) := by
        rw [view_list acyclic, view_list acyclic', Datum.same]
      have each : ∀ pair ∈ (store.list one).items.zip (store.list other).items,
          store.sameBeside shut pair.1 pair.2
            = some ((store.view pair.1).same (store.view pair.2)) := by
        intro pair mem
        obtain ⟨left, right⟩ := List.of_mem_zip mem
        exact ih _ left (view_item acyclic' right).1 (clear.item acyclic left)
          (clear'.item acyclic' right)
      have open' : ¬ (shut = some (.list one) ∨ shut = some (.list other)) :=
        not_or.mpr ⟨Clear.ne clear, Clear.ne clear'⟩
      -- The same list, lists of different lengths, or items side by side.
      rw [sameBeside_list, answer, sameItems_map, allM_eq_some each, if_neg open']
      split
      · simp [*]
      · split <;> simp [*]
    | _ => exact sameBeside_of_apart (by simp) (by simp)
  | dict one acyclic ih =>
    cases right with
    | dict other =>
      have answer : (store.view (.dict one)).same (store.view (.dict other))
          = (one == other || ((store.dict one).entries.length == (store.dict other).entries.length
            && (store.dict one).entries.all fun entry =>
              (store.dict other).entries.any fun candidate =>
                (store.view entry.1).same (store.view candidate.1)
                  && (store.view entry.2).same (store.view candidate.2))) := by
        rw [view_dict acyclic, view_dict acyclic', Datum.same, covered_map,
          List.length_map, List.length_map]
      have each : ∀ entry ∈ (store.dict one).entries, ∀ candidate ∈ (store.dict other).entries,
          sameEntry (store.sameBeside shut) entry candidate
          = some ((store.view entry.1).same (store.view candidate.1)
              && (store.view entry.2).same (store.view candidate.2)) := by
        intro entry mem candidate mem'
        obtain ⟨ihKey, ihValue⟩ := ih entry mem
        obtain ⟨⟨key, -⟩, value, -⟩ := view_entry acyclic' mem'
        obtain ⟨clearKey, clearValue⟩ := clear.entry acyclic mem
        obtain ⟨clearKey', clearValue'⟩ := clear'.entry acyclic' mem'
        rw [sameEntry, ihKey key clearKey clearKey', ihValue value clearValue clearValue']
        cases (store.view entry.1).same (store.view candidate.1) <;> rfl
      have open' : ¬ (shut = some (.dict one) ∨ shut = some (.dict other)) :=
        not_or.mpr ⟨Clear.ne clear, Clear.ne clear'⟩
      rw [sameBeside_dict, answer, if_neg open',
        allM_eq_some fun entry mem => anyM_eq_some (each entry mem)]
      split
      · simp [*]
      · split <;> simp [*]
    | _ => exact sameBeside_of_apart (by simp) (by simp)

/-- **Comparing two values that have no container inside themselves** tells whether their trees are
the same. -/
theorem same_eq (acyclic : (store.view left).isCyclic = false)
    (acyclic' : (store.view right).isCyclic = false) :
    store.same left right = some ((store.view left).same (store.view right)) :=
  sameBeside_eq acyclic acyclic' (store.clear_none left) (store.clear_none right)

/-- **Comparing comes to an end where one of the two values is read to its end**, whatever the other
one is: both are opened side by side. -/
theorem isSome_sameWithin
    (either : (store.readWithin budget left).isSome = true ∨
      (store.readWithin budget right).isSome = true) :
    (store.sameWithin none budget left right).isSome = true := by
  induction budget generalizing left right with
  | zero =>
    cases left <;> cases right <;>
      first
      | rfl
      | (obtain read | read := either <;> cases read)
  | succ budget ih =>
    cases left with
    | list one =>
      cases right with
      | list other =>
        rw [sameWithin_list, if_neg (by simp : ¬ (none = some (Container.list one) ∨ _))]
        split
        · rfl
        · split
          · -- The side that is read to its end has items that are, with one less left.
            refine isSome_allM fun pair mem => ih ?_
            obtain ⟨left, right⟩ := List.of_mem_zip mem
            exact either.imp (isSome_readWithin_item · left) (isSome_readWithin_item · right)
          · rfl
      | _ => rfl
    | dict one =>
      cases right with
      | dict other =>
        rw [sameWithin_dict, if_neg (by simp : ¬ (none = some (Container.dict one) ∨ _))]
        split
        · rfl
        · split
          · refine isSome_allM fun entry mem => isSome_anyM fun candidate mem' => ?_
            have keys := ih (either.imp (isSome_readWithin_entry · mem |>.1)
              (isSome_readWithin_entry · mem' |>.1))
            have values := ih (either.imp (isSome_readWithin_entry · mem |>.2)
              (isSome_readWithin_entry · mem' |>.2))
            -- The values are looked at only where the keys are the same.
            obtain ⟨answer, found⟩ := Option.isSome_iff_exists.mp keys
            cases answer with
            | true => simpa [sameEntry, found] using values
            | false => simp [sameEntry, found]
          · rfl
      | _ => rfl
    | _ => cases right <;> rfl

/-- **Two values are compared to the end where one of them is read to its end.** -/
theorem isSome_same (either : (store.read left).isSome = true ∨ (store.read right).isSome = true) :
    (store.same left right).isSome = true := by
  have enough : ∃ budget, (store.sameWithin none budget left right).isSome = true :=
    ⟨_, isSome_sameWithin either⟩
  obtain ⟨budget, told⟩ := enough
  obtain ⟨answer, told⟩ := Option.isSome_iff_exists.mp told
  exact Option.isSome_of_mem (sameBeside_eq_some_iff.mpr ⟨budget, told⟩)

end Store

end ReactiveScript
