import ReactiveScript.Library.Collection
import ReactiveScript.Proofs.Evaluation.Program
import ReactiveScript.Proofs.Nesting.Reading
import ReactiveScript.Proofs.Number.Widening

/-! # Sorting

Texts are sorted by their characters. Integers are sorted as the floating-point numbers that they
are widened to, so two of them may stay in the wrong order, but only if they are widened to one
number (`ordered_ints`); integers of at most 53 bits are sorted as such. Whatever else a list holds
is refused, and the list stays as it was. A list is sorted in place or as a copy, with the same
outcome (`sort_sorts`). -/

namespace ReactiveScript

open Number

/-! ## Ranks -/

/-- A rank is the place with its sign, one lower for what is negative. -/
theorem numberRank_eq (x : Float) :
    numberRank x = if isNegative x && !x.isNaN then -(place x : Int) - 1 else place x := rfl

/-- The rank of a widened word follows its place with its sign. -/
theorem numberRank_ofWord (word : Int64) :
    numberRank (ofWord word) =
      if key (ofWord word) < 0 then key (ofWord word) - 1 else key (ofWord word) := by
  have number := isNaN_ofWord word
  have sign := isNegative_ofWord word
  have pos := @place_ofWord_pos word
  rw [numberRank_eq, key, signed, number, sign]
  simp only [Bool.not_false, Bool.and_true, decide_eq_true_eq]
  split <;> split <;> omega

/-- Widened words are ranked as they are ordered. -/
theorem numberRank_le_iff {first second : Int64} :
    numberRank (ofWord first) ≤ numberRank (ofWord second) ↔
      key (ofWord first) ≤ key (ofWord second) := by
  rw [numberRank_ofWord, numberRank_ofWord]
  split <;> split <;> omega

/-- Comparing integers is exact. -/
theorem lessEqual_ints (store : Store) (m n : Int64) :
    Value.compareValues store .lessEqual (.int m) (.int n) = .ok (decide (m.toInt ≤ n.toInt)) := by
  have same : (compare m.toInt n.toInt).isLE = decide (m.toInt ≤ n.toInt) := by
    rw [Bool.eq_iff_iff, Int.isLE_compare, decide_eq_true_iff]
  exact congrArg Except.ok same

/-! ## Sorting values -/

/-- What values are made of is sorted as the values with their ranks are. -/
theorem map_snd_mergeSort {α ρ : Type} [LE ρ] [DecidableLE ρ] (rank : α → ρ) (make : α → Value)
    (contents : List α) :
    ((contents.map fun content => (rank content, make content)).mergeSort
        fun left right => left.1 ≤ right.1).map Prod.snd =
      (contents.mergeSort fun left right => rank left ≤ rank right).map make := by
  rw [← List.map_mergeSort (f := fun content => (rank content, make content))
    (r := fun left right => rank left ≤ rank right) fun _ _ _ _ => rfl, List.map_map]
  rfl

/-- The words in the order of the numbers that they are widened to. -/
def sortedWords (words : List Int64) : List Int64 :=
  words.mergeSort fun left right => numberRank (ofWord left) ≤ numberRank (ofWord right)

/-- Integers are sorted by the ranks of the numbers that they are widened to. -/
theorem sortValues_ints (words : List Int64) :
    sortValues (words.map .int) = .ok ((sortedWords words).map .int) := by
  have ranked : numberRanks? (words.map .int) =
      some ((words.map .int).map fun item => (numberRank (item.asFloat?.getD 0), item)) := by
    refine mapM_eq_some fun item mem => ?_
    obtain ⟨word, -, rfl⟩ := List.mem_map.mp mem
    rfl
  rw [sortValues, ranked, List.map_map]
  exact congrArg Except.ok (map_snd_mergeSort (numberRank ∘ ofWord) .int words)

/-- Texts are sorted by their characters. -/
theorem sortValues_texts (texts : List String) :
    sortValues (texts.map .text) =
      .ok ((texts.mergeSort fun left right => left ≤ right).map .text) := by
  cases texts with
  | nil => simp [sortValues, numberRanks?]
  | cons first rest =>
    have ranked : textRanks? ((first :: rest).map .text) =
        some (((first :: rest).map .text).map fun item => (item.asText?.getD "", item)) := by
      refine mapM_eq_some fun item mem => ?_
      obtain ⟨text, -, rfl⟩ := List.mem_map.mp mem
      rfl
    have numbers : numberRanks? ((first :: rest).map .text) = none := rfl
    rw [sortValues, numbers, ranked, List.map_map]
    exact congrArg Except.ok (map_snd_mergeSort id .text (first :: rest))

/-- **What cannot be sorted**: a text beside a number, or what is neither. -/
def Unsortable (items : List Value) : Prop :=
  (∃ left ∈ items, ∃ right ∈ items, left.asText?.isSome = true ∧ right.asFloat?.isSome = true) ∨
    ∃ item ∈ items, item.asText? = none ∧ item.asFloat? = none

/-- A part without a result leaves the whole without one. -/
theorem mapM_eq_none {α β : Type} {f : α → Option β} {values : List α} {value : α}
    (mem : value ∈ values) (nothing : f value = none) : values.mapM f = none := by
  by_contra whole
  have some := isSome_of_mapM (Option.isSome_iff_ne_none.mpr whole) value mem
  rw [nothing] at some
  cases some

/-- What cannot be sorted is refused. -/
theorem sortValues_of_unsortable {items : List Value} (h : Unsortable items) :
    sortValues items = .error Cause.unsortable.fault := by
  -- Some item is no number, and some item is no text.
  have numbers : ∃ item ∈ items, item.asFloat? = none := by
    rcases h with ⟨left, mem, -, -, text, -⟩ | ⟨item, mem, -, other⟩
    · refine ⟨left, mem, ?_⟩
      cases left <;> first | rfl | cases text
    · exact ⟨item, mem, other⟩
  have texts : ∃ item ∈ items, item.asText? = none := by
    rcases h with ⟨-, -, right, mem, -, number⟩ | ⟨item, mem, other, -⟩
    · refine ⟨right, mem, ?_⟩
      cases right <;> first | rfl | cases number
    · exact ⟨item, mem, other⟩
  obtain ⟨item, mem, none⟩ := numbers
  have numbers : numberRanks? items = Option.none := mapM_eq_none mem (by rw [none]; rfl)
  obtain ⟨item, mem, none⟩ := texts
  have texts : textRanks? items = Option.none := mapM_eq_none mem (by rw [none]; rfl)
  rw [sortValues, numbers, texts]

/-! ## The order of what is sorted -/

section Order

variable {α ρ : Type} [LinearOrder ρ] (rank : α → ρ)

/-- The test that sorting makes is transitive. -/
theorem ranked_trans (left middle right : α) (h : decide (rank left ≤ rank middle) = true)
    (h' : decide (rank middle ≤ rank right) = true) : decide (rank left ≤ rank right) = true :=
  decide_eq_true ((of_decide_eq_true h).trans (of_decide_eq_true h'))

/-- It is met one way or the other. -/
theorem ranked_total (left right : α) :
    (decide (rank left ≤ rank right) || decide (rank right ≤ rank left)) = true := by
  rw [Bool.or_eq_true, decide_eq_true_eq, decide_eq_true_eq]
  exact le_total _ _

/-- Sorting by ranks puts the ranks in order. -/
theorem pairwise_ranked (contents : List α) :
    (contents.mergeSort fun left right => rank left ≤ rank right).Pairwise
      fun left right => rank left ≤ rank right :=
  (contents.pairwise_mergeSort (ranked_trans rank) (ranked_total rank)).imp of_decide_eq_true

end Order

/-- The words are sorted by the places of the numbers, with their signs. -/
theorem pairwise_sortedWords (words : List Int64) :
    (sortedWords words).Pairwise fun left right => key (ofWord left) ≤ key (ofWord right) := by
  exact (pairwise_ranked (numberRank ∘ ofWord) words).imp numberRank_le_iff.mp

/-- **Sorted integers are in order, or widened to one number.** -/
theorem ordered_ints (store : Store) (words : List Int64) :
    (sortedWords words).Pairwise fun left right =>
      Value.compareValues store .lessEqual (.int left) (.int right) = .ok true ∨
        ofWord left = ofWord right := by
  refine (pairwise_sortedWords words).imp fun h => ?_
  rw [lessEqual_ints]
  exact (le_or_ofWord_eq h).imp_left fun order => by rw [decide_eq_true order]

/-! ## Sorting a list -/

/-- **How a list is sorted.** In place, it gets the sorted items and no other list changes. As a
copy, the sorted items are those of a new list and no list changes that was there before. -/
structure SortsTo (machine : Machine) (handle : Handle) (name : String) (sorted : List Value) :
    Prop where
  /-- The list itself is sorted. -/
  inPlace : ∃ after, Eval.alloc (Alloc.listSort handle) machine = .ok () after ∧
    (after.store.list handle).items = sorted ∧
    ∀ other ≠ handle, after.store.list other = machine.store.list other
  /-- A sorted copy is made. -/
  copied : ∃ fresh after,
    Eval.collection .sort ⟨name, [.list handle]⟩ machine = .ok (.list fresh) after ∧
    (after.store.list fresh).items = sorted ∧
    ∀ other < machine.store.lists.size, after.store.list other = machine.store.list other

/-- **How sorting is refused**: with a fault of a kind, in place and as a copy, and nothing
changes. -/
structure SortRefused (machine : Machine) (handle : Handle) (name : String) (kind : FaultKind) :
    Prop where
  /-- The list itself is not sorted. -/
  inPlace : ∃ fault, fault.kind = kind ∧
    Eval.alloc (Alloc.listSort handle) machine = .error (.fault fault) machine
  /-- No copy is made. -/
  copied : ∃ fault, fault.kind = kind ∧
    Eval.collection .sort ⟨name, [.list handle]⟩ machine = .error (.fault fault) machine

section Runs

variable {machine : Machine} {handle : Handle} (name : String)

/-- Sorting in place depends on the items only. -/
theorem run_listSort :
    (Alloc.listSort handle).run machine.store =
      ((sortValues (machine.store.list handle).items).mapError .fault).map fun sorted =>
        ((), machine.store.modifyList handle fun cell => { cell with items := sorted }) := by
  change ((liftM (sortValues (machine.store.list handle).items) : Alloc _).run machine.store >>= _)
    = _
  cases sortValues (machine.store.list handle).items <;> rfl

/-- Sorting a copy depends on the items only. -/
theorem run_sort :
    Eval.collection .sort ⟨name, [.list handle]⟩ machine =
      (Eval.ofExcept (sortValues (machine.store.list handle).items) >>= fun sorted =>
        Eval.alloc (Alloc.newList (machine.store.list handle).element sorted)) machine := rfl

/-- A list is sorted as its items are. -/
theorem sortsTo_of_sortValues {sorted : List Value} (held : handle < machine.store.lists.size)
    (h : sortValues (machine.store.list handle).items = .ok sorted) :
    SortsTo machine handle name sorted where
  inPlace := by
    refine ⟨_, by rw [Eval.alloc, run_listSort, h]; rfl, ?_, fun other different => ?_⟩
    · rw [Store.list_modifyList held, if_pos rfl]
    · rw [Store.list_modifyList held, if_neg different]
  copied := by
    refine ⟨_, _, by rw [run_sort, h]; rfl, ?_, fun other there => ?_⟩
    · rw [Store.list_push, if_pos rfl]
    · rw [Store.list_push, if_neg there.ne]

/-- A list is refused as its items are. -/
theorem sortRefused_of_sortValues {fault : Fault}
    (h : sortValues (machine.store.list handle).items = .error fault) :
    SortRefused machine handle name fault.kind where
  inPlace := ⟨fault, rfl, by rw [Eval.alloc, run_listSort, h]; rfl⟩
  copied := ⟨fault, rfl, by rw [run_sort, h]; rfl⟩

end Runs

/-- **Sorting sorts.** A list of integers or of texts is sorted, in place and as a copy: the items
are the same ones, and texts stand in the order of their characters. Of two integers the earlier one
is `<=` the later one, unless both are widened to one floating-point number; so it always is if they
have at most 53 bits. A list of texts and numbers, or with anything else, is refused as a type error
and nothing changes. -/
theorem sort_sorts {machine : Machine} {handle : Handle} (name : String)
    (held : handle < machine.store.lists.size) :
    (∀ words : List Int64, (machine.store.list handle).items = words.map .int →
      ∃ sorted : List Int64, SortsTo machine handle name (sorted.map .int) ∧ sorted.Perm words ∧
        (sorted.Pairwise fun left right =>
          Value.compareValues machine.store .lessEqual (.int left) (.int right) = .ok true ∨
            ofWord left = ofWord right) ∧
        ((∀ word ∈ words, word.toInt.natAbs ≤ 2 ^ 53) → sorted.Pairwise fun left right =>
          Value.compareValues machine.store .lessEqual (.int left) (.int right) = .ok true)) ∧
    (∀ texts : List String, (machine.store.list handle).items = texts.map .text →
      ∃ sorted : List String, SortsTo machine handle name (sorted.map .text) ∧
        sorted.Perm texts ∧ sorted.Pairwise (· ≤ ·)) ∧
    (Unsortable (machine.store.list handle).items →
      SortRefused machine handle name .typeError) := by
  refine ⟨fun words items => ?_, fun texts items => ?_, fun other => ?_⟩
  · have ordered := ordered_ints machine.store words
    refine ⟨sortedWords words, ?_, List.mergeSort_perm _ _, ordered, fun small => ?_⟩
    · exact sortsTo_of_sortValues name held (by rw [items, sortValues_ints])
    · -- Two of them are widened to one number only if they are one.
      refine ordered.imp_of_mem fun mem mem' h => h.elim id fun same => ?_
      have first := small _ (List.mem_mergeSort.mp mem)
      have second := small _ (List.mem_mergeSort.mp mem')
      rw [ofWord_inj first second same, lessEqual_ints, decide_eq_true le_rfl]
  · refine ⟨texts.mergeSort fun left right => left ≤ right, ?_, List.mergeSort_perm _ _,
      pairwise_ranked id texts⟩
    exact sortsTo_of_sortValues name held (by rw [items, sortValues_texts])
  · exact sortRefused_of_sortValues name (sortValues_of_unsortable other)

/-- A machine whose store is one list. -/
def listing (element : Ty) (items : List Value) : Machine :=
  { Machine.initial .standard .bare with store := ⟨#[⟨element, items, []⟩], #[]⟩ }

/-- Three integers and two texts are sorted, one of each kind is refused. -/
theorem short_lists_sorted :
    (∃ sorted : List Int64,
      SortsTo (listing .int [.int 3, .int (-7), .int 2]) 0 "sort" (sorted.map .int) ∧
      sorted.Perm [3, -7, 2] ∧ sorted.Pairwise fun left right =>
        Value.compareValues (listing .int [.int 3, .int (-7), .int 2]).store .lessEqual
          (.int left) (.int right) = .ok true) ∧
    (∃ sorted : List String,
      SortsTo (listing .text [.text "b", .text "a"]) 0 "sort" (sorted.map .text) ∧
      sorted.Perm ["b", "a"] ∧ sorted.Pairwise (· ≤ ·)) ∧
    SortRefused (listing .any [.int 3, .text "a"]) 0 "sort" .typeError := by
  refine ⟨?_, ?_, ?_⟩
  · obtain ⟨sorted, sorts, perm, -, ordered⟩ :=
      (@sort_sorts (listing .int [.int 3, .int (-7), .int 2]) 0 "sort"
        (by decide)).1 [3, -7, 2] rfl
    exact ⟨sorted, sorts, perm, ordered (by simp)⟩
  · exact (@sort_sorts (listing .text [.text "b", .text "a"]) 0 "sort"
      (by decide)).2.1 ["b", "a"] rfl
  · exact (@sort_sorts (listing .any [.int 3, .text "a"]) 0 "sort"
      (by decide)).2.2 (.inl ⟨.text "a", by simp [listing, Store.list], .int 3,
        by simp [listing, Store.list], rfl, rfl⟩)

/-- **Two integers that are widened to one number keep a wrong order.** -/
theorem neighbours_stay_unsorted :
    SortsTo (listing .int [.int 9007199254740993, .int 9007199254740992]) 0 "sort"
      [.int 9007199254740993, .int 9007199254740992] ∧
    Value.compareValues (listing .int [.int 9007199254740993, .int 9007199254740992]).store
      .lessEqual (.int 9007199254740993) (.int 9007199254740992) = .ok false := by
  refine ⟨sortsTo_of_sortValues "sort" (by decide) ?_, ?_⟩
  · have sorted : sortedWords [9007199254740993, 9007199254740992] =
        [9007199254740993, 9007199254740992] :=
      List.mergeSort_of_pairwise (by decide)
    change sortValues ([9007199254740993, 9007199254740992].map .int) =
      .ok ([9007199254740993, 9007199254740992].map .int)
    rw [sortValues_ints, sorted]
  · rw [lessEqual_ints, decide_eq_false (by decide)]

end ReactiveScript
