import ReactiveScript.Machine.Evaluate
import ReactiveScript.Proofs.Container.Sorting
import ReactiveScript.Proofs.Datum.View
import ReactiveScript.Proofs.Evaluation.Effect
import Mathlib.Data.List.GetD

/-! # Texts and lists as sequences

A text is a sequence of its characters and a list one of its items (`Store.sequence?`), and both are
read alike (`ReadsItems`): an index names a place from the front or from the end and is refused
elsewhere, a slice is the part between two bounds that are moved into the sequence, and a loop goes
through everything in order. Nothing outside a sequence is read, whatever the bounds are: a slice is
what a partial function gives that is defined for places of the sequence only (`between?`). -/

namespace ReactiveScript

/-! ## Places of a sequence -/

section Places

variable {α β : Type} {items : List α} {length : Nat} {index bound : Int64}

/-- The place that an index names in a sequence of some length, which may have no such place:
negative ones count from the end. -/
def placeOf (length : Nat) (index : Int64) : Int :=
  if index.toInt < 0 then index.toInt + length else index.toInt

/-- The place that a bound names, moved to the nearer end if the sequence has no such place. -/
def clampedPlace (length : Nat) (bound : Int64) : Nat :=
  (max 0 (min (placeOf length bound) length)).toNat

/-- The bounds of a slice are moved into the sequence. -/
theorem slicePlace_eq (length : Nat) (bound : Int64) :
    slicePlace length bound = clampedPlace length bound := by
  simp only [slicePlace, clampedPlace, placeOf]
  split <;> omega

theorem clampedPlace_le (length : Nat) (bound : Int64) : clampedPlace length bound ≤ length := by
  unfold clampedPlace
  omega

/-- The bound zero names the front of every sequence. -/
theorem clampedPlace_zero (length : Nat) : clampedPlace length 0 = 0 := by
  unfold clampedPlace placeOf
  simp only [Int64.toInt_zero]
  omega

/-- The length names the end of a sequence. -/
theorem clampedPlace_length (whole : bound.toInt = length) :
    clampedPlace length bound = length := by
  unfold clampedPlace placeOf
  split <;> omega

/-- An index finds the place that it names, if the sequence has it. -/
theorem resolveIndex?_eq_some_iff {place : Nat} :
    resolveIndex? index length = some place ↔ placeOf length index = place ∧ place < length := by
  have resolved : resolveIndex? index length =
      if 0 ≤ placeOf length index ∧ placeOf length index < length
      then some (placeOf length index).toNat else none := rfl
  rw [resolved]
  constructor
  · intro found
    split at found
    · cases found
      omega
    · cases found
  · rintro ⟨named, inside⟩
    rw [named, if_pos (by omega), Int.toNat_natCast]

/-- An index names a place that the sequence has if it lies between its ends. -/
theorem exists_placeOf (low : -length ≤ index.toInt) (high : index.toInt < length) :
    ∃ place : Nat, placeOf length index = place ∧ place < length := by
  refine ⟨(placeOf length index).toNat, ?_⟩
  unfold placeOf
  split <;> omega

/-- No other index is resolved. -/
theorem resolveIndex?_eq_none (outside : index.toInt < -length ∨ length ≤ index.toInt) :
    resolveIndex? index length = none := by
  refine Option.eq_none_iff_forall_ne_some.mpr fun place found => ?_
  obtain ⟨named, inside⟩ := resolveIndex?_eq_some_iff.mp found
  unfold placeOf at named
  split at named <;> omega

/-- Only places that the sequence has are found. -/
theorem lt_of_indexIn_eq_ok {container : String} {position : Value} {place : Nat}
    (found : indexIn container position length = .ok place) : place < length := by
  unfold indexIn at found
  split at found
  · cases found
  · split at found
    · rename_i resolved
      cases found
      exact (resolveIndex?_eq_some_iff.mp resolved).2
    · cases found

end Places

/-! ## Parts of a sequence -/

section Parts

variable {α β : Type} {whole part : List α} {first last : Int64}

/-- The items from one place up to another one, if the sequence has these places. -/
def between? (whole : List α) (first last : Nat) : Option (List α) :=
  if first ≤ last ∧ last ≤ whole.length then some ((whole.drop first).take (last - first))
  else none

/-- **The part of a sequence between two bounds**: the bounds are moved into the sequence, and the
part ends where it begins if the second one comes before the first. -/
structure IsSlice (whole part : List α) (first last : Int64) : Prop where
  /-- It is read between two places that the sequence has. -/
  inside : between? whole (clampedPlace whole.length first)
    (max (clampedPlace whole.length first) (clampedPlace whole.length last)) = some part
  /-- It is as long as the bounds are apart, and empty if they are the wrong way round. -/
  length : part.length = clampedPlace whole.length last - clampedPlace whole.length first
  /-- Its items are those from the first place on. -/
  items : ∀ k < part.length, part[k]? = whole[clampedPlace whole.length first + k]?

/-- **A slice is the part between its bounds.** -/
theorem isSlice_slice (whole : List α) (first last : Int64) :
    IsSlice whole (slice whole first last) first last := by
  have start := clampedPlace_le whole.length first
  have stop := clampedPlace_le whole.length last
  have part : slice whole first last =
      (whole.drop (clampedPlace whole.length first)).take
        (clampedPlace whole.length last - clampedPlace whole.length first) := by
    rw [slice, slicePlace_eq, slicePlace_eq, List.drop_take]
  have length : (slice whole first last).length =
      clampedPlace whole.length last - clampedPlace whole.length first := by
    rw [part, List.length_take, List.length_drop]
    omega
  refine ⟨?_, length, fun k inside => ?_⟩
  · have apart : max (clampedPlace whole.length first) (clampedPlace whole.length last) -
        clampedPlace whole.length first =
        clampedPlace whole.length last - clampedPlace whole.length first := by omega
    rw [between?, if_pos (by omega), part, apart]
  · rw [part, List.getElem?_take_of_lt (length ▸ inside), List.getElem?_drop]

/-- There is one part only between two bounds. -/
theorem IsSlice.eq_slice (h : IsSlice whole part first last) : part = slice whole first last :=
  Option.some.inj (h.inside.symm.trans (isSlice_slice whole first last).inside)

/-- Slicing does not look at the items. -/
theorem slice_map (make : α → β) (whole : List α) (first last : Int64) :
    slice (whole.map make) first last = (slice whole first last).map make := by
  simp only [slice, List.length_map, ← List.map_take, ← List.map_drop]

/-- **A front and the rest behind it are the whole sequence**, wherever it is parted. -/
theorem slice_append (whole : List α) (bound : Int64) {length : Int64}
    (counted : length.toInt = whole.length) :
    slice whole 0 bound ++ slice whole bound length = whole := by
  simp only [slice, slicePlace_eq, clampedPlace_zero, clampedPlace_length counted,
    List.drop_zero, List.take_length, List.take_append_drop]

end Parts

/-! ## Sequences of values -/

namespace Store

/-- What a list or text is a sequence of. -/
def sequence? (store : Store) : Value → Option (List Value)
  | .list handle => some (store.list handle).items
  | .text s => some (Value.characters s)
  | _ => none

/-- In a store that extends, a sequence is as it was. -/
theorem Extends.sequence?_eq {before after : Store} (grown : before.Extends after) {value : Value}
    (held : before.Holds value) : after.sequence? value = before.sequence? value := by
  cases value with
  | list handle => rw [sequence?, sequence?, grown.list handle held]
  | _ => rfl

end Store

/-- The characters of a text that is put together. -/
theorem Value.characters_ofList (chars : List Char) :
    Value.characters (String.ofList chars) =
      chars.map fun c => Value.text (String.singleton c) := by
  rw [Value.characters, String.toList_ofList]

/-- **A value that reads as a sequence of some items.** -/
structure ReadsItems (machine : Machine) (value : Value) (items : List Value) : Prop where
  /-- It is as long. -/
  length : lengthOf machine.store value = .ok items.length
  /-- An index beyond either end is refused. -/
  outside : ∀ index : Int64, index.toInt < -items.length ∨ items.length ≤ index.toInt →
    ∃ fault, fault.kind = .indexError ∧
      (Alloc.index value (.int index)).run machine.store = .error (.fault fault)
  /-- Any other index gives the item at the place that it names. -/
  inside : ∀ index : Int64, -items.length ≤ index.toInt → index.toInt < items.length →
    ∃ place item, placeOf items.length index = (place : Nat) ∧ items[place]? = some item ∧
      (Alloc.index value (.int index)).run machine.store = .ok (item, machine.store)
  /-- A slice is a sequence of the same kind, of the items between its bounds. -/
  slices : ∀ (name : String) (first last : Int64), ∃ part after partItems,
    Eval.collection .slice ⟨name, [value, .int first, .int last]⟩ machine = .ok part after ∧
    machine.store.Extends after.store ∧ after.store.Holds part ∧
    part.kindName = value.kindName ∧
    after.store.sequence? part = some partItems ∧ IsSlice items partItems first last
  /-- A loop goes through the items in order. -/
  visits : Eval.itemsOf value machine = .ok items machine

section Reading

variable {machine : Machine}

/-- What an index of a list gives. -/
theorem run_index_list (store : Store) (handle : Handle) (position : Value) :
    (Alloc.index (.list handle) position).run store =
      ((indexIn "list" position (store.list handle).items.length).mapError .fault).map
        fun place => ((store.list handle).items.getD place .void, store) := by
  change ((liftM (indexIn "list" position (store.list handle).items.length) : Alloc _).run store
    >>= _) = _
  cases indexIn "list" position (store.list handle).items.length <;> rfl

/-- What an index of a text gives. -/
theorem run_index_text (store : Store) (s : String) (position : Value) :
    (Alloc.index (.text s) position).run store =
      ((indexIn "string" position (Value.characters s).length).mapError .fault).map fun place =>
        ((Value.characters s).getD place .void, store) := by
  rw [Value.characters, List.length_map]
  change ((liftM (indexIn "string" position s.toList.length) : Alloc _).run store >>= _) = _
  cases h : indexIn "string" position s.toList.length with
  | error fault => rfl
  | ok place =>
    have inside : place < s.toList.length := lt_of_indexIn_eq_ok h
    have one : (s.toList.drop place).take 1 = [s.toList[place]] := by
      rw [List.drop_eq_getElem_cons inside, List.take_succ_cons, List.take_zero]
    have item : (Value.characters s).getD place .void =
        .text (String.singleton s.toList[place]) := by
      rw [Value.characters, List.getD_eq_getElem _ _ (by simpa using inside), List.getElem_map]
    change _ = Except.ok ((Value.characters s).getD place .void, store)
    rw [item]
    change Except.ok (Value.text (String.ofList ((s.toList.drop place).take 1)), store) = _
    rw [one, String.singleton_eq_ofList]

/-- Slicing a list makes a new list with the same tag. -/
theorem run_slice_list (name : String) (handle : Handle) (first last : Int64) :
    Eval.collection .slice ⟨name, [.list handle, .int first, .int last]⟩ machine =
      Eval.alloc (Alloc.newList (machine.store.list handle).element
        (slice (machine.store.list handle).items first last)) machine := rfl

/-- Slicing a text leaves the machine alone. -/
theorem run_slice_text (name : String) (s : String) (first last : Int64) :
    Eval.collection .slice ⟨name, [.text s, .int first, .int last]⟩ machine =
      .ok (.text (String.ofList (slice s.toList first last))) machine := rfl

/-- What is indexed through its length and items reads so on both sides of its ends. -/
theorem index_of_run {store : Store} {value : Value} {items : List Value} {container : String}
    (run : ∀ position, (Alloc.index value position).run store =
      ((indexIn container position items.length).mapError .fault).map
        fun place => (items.getD place .void, store))
    (index : Int64) :
    (index.toInt < -items.length ∨ items.length ≤ index.toInt →
      ∃ fault, fault.kind = .indexError ∧
        (Alloc.index value (.int index)).run store = .error (.fault fault)) ∧
    (-items.length ≤ index.toInt → index.toInt < items.length →
      ∃ place item, placeOf items.length index = (place : Nat) ∧ items[place]? = some item ∧
        (Alloc.index value (.int index)).run store = .ok (item, store)) := by
  constructor
  · intro outside
    refine ⟨(Cause.indexRange container index.toInt items.length).fault, rfl, ?_⟩
    simp only [run, indexIn, Value.asInt?, resolveIndex?_eq_none outside, Except.mapError,
      Except.map]
  · intro low high
    obtain ⟨place, named, inside⟩ := exists_placeOf low high
    have found : resolveIndex? index items.length = some place :=
      resolveIndex?_eq_some_iff.mpr ⟨named, inside⟩
    refine ⟨place, items[place], named, List.getElem?_eq_getElem inside, ?_⟩
    simp only [run, indexIn, Value.asInt?, found, Except.mapError, Except.map,
      List.getD_eq_getElem _ _ inside]

/-- A list reads as its items. -/
theorem readsItems_list (machine : Machine) (handle : Handle) :
    ReadsItems machine (.list handle) (machine.store.list handle).items where
  length := rfl
  outside index := (index_of_run (run_index_list machine.store handle) index).1
  inside index := (index_of_run (run_index_list machine.store handle) index).2
  slices name first last := by
    refine ⟨_, _, _, run_slice_list name handle first last, .pushList _ _, ?_, rfl, ?_,
      isSlice_slice _ first last⟩
    · exact Nat.lt_of_lt_of_eq (Nat.lt_succ_self _) (Array.size_push _).symm
    · rw [Store.sequence?, Store.list_push, if_pos rfl]
  visits := rfl

/-- A text reads as its characters. -/
theorem readsItems_text (machine : Machine) (s : String) :
    ReadsItems machine (.text s) (Value.characters s) where
  length := by
    rw [Value.characters, List.length_map]
    rfl
  outside index := (index_of_run (run_index_text machine.store s) index).1
  inside index := (index_of_run (run_index_text machine.store s) index).2
  slices name first last := by
    refine ⟨_, _, _, run_slice_text name s first last, .refl _, trivial, rfl, rfl, ?_⟩
    rw [Value.characters_ofList, ← slice_map]
    exact isSlice_slice _ first last
  visits := rfl

end Reading

/-! ## Texts as lists of their characters -/

/-- The list of the slice of a text has the items of the slice of a list. -/
def SlicesAlike (machine : Machine) (s : String) (handle : Handle) : Prop :=
  ∀ (name : String) (first last : Int64), ∃ part listed copied after after',
    Eval.collection .slice ⟨name, [.text s, .int first, .int last]⟩ machine =
      .ok (.text part) machine ∧
    Eval.alloc (Value.cast (.list .any) (.text part)) machine = .ok (.list listed) after ∧
    Eval.collection .slice ⟨name, [.list handle, .int first, .int last]⟩ machine =
      .ok (.list copied) after' ∧
    (after.store.list listed).items = (after'.store.list copied).items

/-- A loop over what evaluates to one value does what it does over what evaluates to another one. -/
def LoopsAlike (machine : Machine) (left right : Value) : Prop :=
  ∀ run rounds span type name body source source' outer,
    Eval.expr run rounds source (Eval.movedTo outer span) = .ok left machine →
    Eval.expr run rounds source' (Eval.movedTo outer span) = .ok right machine →
    Eval.stmt run rounds (.forEach span type name source body) outer =
      Eval.stmt run rounds (.forEach span type name source' body) outer

section Casting

variable {machine : Machine} {s : String} {handle : Handle}

/-- A text is cast to the list of its characters, which any type takes as they are. -/
theorem alloc_cast_text (machine : Machine) (s : String) :
    Eval.alloc (Value.cast (.list .any) (.text s)) machine =
      Eval.alloc (Alloc.newList .any (Value.characters s)) machine := by
  have unchanged : (Value.characters s).mapM (fun value => (pure value : Alloc Value)) =
      pure (Value.characters s) := by
    simpa using List.mapM_pure (m := Alloc) (l := Value.characters s) (f := id)
  have same : Value.cast (.list .any) (.text s) = Alloc.newList .any (Value.characters s) := by
    simp only [Value.cast]
    rw [unchanged, pure_bind]
  rw [same]

/-- A list of the characters of a text is sliced as the text is. -/
theorem slicesAlike_of_items (items : (machine.store.list handle).items = Value.characters s) :
    SlicesAlike machine s handle := by
  intro name first last
  refine ⟨_, _, _, _, _, run_slice_text name s first last, (alloc_cast_text machine _).trans rfl,
    run_slice_list name handle first last, ?_⟩
  rw [Store.list_push, if_pos rfl, Store.list_push, if_pos rfl, items, Value.characters_ofList,
    Value.characters, slice_map]

/-- What a loop goes through does not depend on what it is read from. -/
theorem ReadsItems.run_loop {value : Value} {items : List Value}
    (reads : ReadsItems machine value items) {source : Eval Value} {before : Machine}
    (ran : source before = .ok value machine)
    (follow : List Value → Eval Flow) :
    (do follow (← Eval.itemsOf (← source))) before = follow items machine := by
  simp only [bind, EStateM.bind, ran, reads.visits]

/-- Loops over what reads as the same items are alike. -/
theorem ReadsItems.loopsAlike {left right : Value} {items : List Value}
    (reads : ReadsItems machine left items) (reads' : ReadsItems machine right items) :
    LoopsAlike machine left right := by
  intro run rounds span type name body source source' outer ran ran'
  rw [Eval.stmt, Eval.stmt]
  cases running : outer.running with
  | false => rw [Eval.located_of_stopped running, Eval.located_of_stopped running]
  | true =>
    rw [Eval.located_of_running running, Eval.located_of_running running, Eval.blaming,
      Eval.blaming, reads.run_loop ran, reads'.run_loop ran']

end Casting

/-- **Texts and lists are indexed, sliced and gone through alike.** The list that a text is cast to
reads as the characters of the text, as the text itself does: at an index both give the character at
the place that it names or are refused, the slices have the same items, and loops over them do the
same. Every list or text that the machine has reads as the sequence of its items, within bounds, and
a front of it and the rest behind are the whole sequence. -/
theorem text_reads_as_list (machine : Machine) :
    (∀ s : String, ∃ handle after,
      Eval.alloc (Value.cast (.list .any) (.text s)) machine = .ok (.list handle) after ∧
      ReadsItems after (.text s) (Value.characters s) ∧
      ReadsItems after (.list handle) (Value.characters s) ∧
      SlicesAlike after s handle ∧ LoopsAlike after (.text s) (.list handle)) ∧
    ∀ value items, machine.store.Holds value → machine.store.sequence? value = some items →
      ReadsItems machine value items ∧
      ∀ (name : String) (bound length : Int64), length.toInt = items.length →
        ∃ front middle rest after frontItems restItems,
          Eval.collection .slice ⟨name, [value, .int 0, .int bound]⟩ machine = .ok front middle ∧
          Eval.collection .slice ⟨name, [value, .int bound, .int length]⟩ middle =
            .ok rest after ∧
          after.store.sequence? front = some frontItems ∧
          after.store.sequence? rest = some restItems ∧ frontItems ++ restItems = items := by
  constructor
  · intro s
    refine ⟨_, _, (alloc_cast_text machine s).trans rfl, ?_⟩
    generalize made : ({ machine with store := { machine.store with
      lists := machine.store.lists.push ⟨.any, Value.characters s, []⟩ } } : Machine) = after
    have items : (after.store.list machine.store.lists.size).items = Value.characters s := by
      rw [← made, Store.list_push, if_pos rfl]
    have text : ReadsItems after (.text s) (Value.characters s) := readsItems_text after s
    have list : ReadsItems after (.list machine.store.lists.size) (Value.characters s) :=
      items ▸ readsItems_list after machine.store.lists.size
    exact ⟨text, list, slicesAlike_of_items items, text.loopsAlike list⟩
  · intro value items held sequence
    have reads {machine : Machine} (sequence : machine.store.sequence? value = some items) :
        ReadsItems machine value items := by
      cases value with
      | list handle => exact Option.some.inj sequence ▸ readsItems_list machine handle
      | text s => exact Option.some.inj sequence ▸ readsItems_text machine s
      | _ => cases sequence
    refine ⟨reads sequence, fun name bound length counted => ?_⟩
    obtain ⟨front, middle, frontItems, ran, grown, held', -, front_eq, sliced⟩ :=
      (reads sequence).slices name 0 bound
    -- The sequence is as it was when the rest is taken, and so is the front after that.
    have sequence' := (grown.sequence?_eq held).trans sequence
    obtain ⟨rest, after, restItems, ran', grown', -, -, rest_eq, sliced'⟩ :=
      (reads sequence').slices name bound length
    refine ⟨front, middle, rest, after, frontItems, restItems, ran, ran',
      (grown'.sequence?_eq held').trans front_eq, rest_eq, ?_⟩
    rw [sliced.eq_slice, sliced'.eq_slice, slice_append items bound counted]

/-- The index -1 gives the last character of a text in the text and in the list of its characters,
and a list that is parted before its last item is put together again. -/
theorem short_sequences_read :
    (∃ handle after,
      Eval.alloc (Value.cast (.list .any) (.text "né")) (listing .int []) =
        .ok (.list handle) after ∧
      (Alloc.index (.text "né") (.int (-1))).run after.store = .ok (.text "é", after.store) ∧
      (Alloc.index (.list handle) (.int (-1))).run after.store = .ok (.text "é", after.store)) ∧
    ∃ front middle rest after frontItems restItems,
      Eval.collection .slice ⟨"slice", [.list 0, .int 0, .int (-1)]⟩
        (listing .int [.int 3, .int 1, .int 2]) = .ok front middle ∧
      Eval.collection .slice ⟨"slice", [.list 0, .int (-1), .int 3]⟩ middle = .ok rest after ∧
      after.store.sequence? front = some frontItems ∧
      after.store.sequence? rest = some restItems ∧
      frontItems ++ restItems = [.int 3, .int 1, .int 2] := by
  constructor
  · obtain ⟨alike, -⟩ := text_reads_as_list (listing .int [])
    obtain ⟨handle, after, cast, text, list, -⟩ := alike "né"
    have only {place : Nat} {item : Value} (named : placeOf 2 (-1) = place)
        (found : (Value.characters "né")[place]? = some item) : item = .text "é" := by
      obtain rfl : place = 1 := by
        rw [show placeOf 2 (-1) = 1 from rfl] at named
        omega
      exact (Option.some.inj found).symm
    obtain ⟨place, item, named, found, ran⟩ := text.inside (-1) (by decide) (by decide)
    obtain ⟨place', item', named', found', ran'⟩ := list.inside (-1) (by decide) (by decide)
    obtain rfl := only named found
    obtain rfl := only named' found'
    exact ⟨handle, after, cast, ran, ran'⟩
  · obtain ⟨-, reads⟩ := text_reads_as_list (listing .int [.int 3, .int 1, .int 2])
    obtain ⟨-, parted⟩ := reads (.list 0) [.int 3, .int 1, .int 2] Nat.zero_lt_one rfl
    exact parted "slice" (-1) 3 rfl

end ReactiveScript
