import ReactiveScript.Library.Math
import ReactiveScript.Proofs.Container.Sorting

/-! # Extremes

The least and the greatest of some integers are found in one pass over the floating-point numbers
that they are widened to, where an earlier integer stays unless a later one is better. What is
found is the first of the best (`FirstLeast.run`), and so is the first item after sorting
(`firstLeast_head`). The last item after sorting is the last of the best instead, so it may differ
from the greatest one, but both are widened to one number. -/

namespace ReactiveScript

open Number

/-! ## The first of the least -/

section FirstLeast

variable {measure : Int64 → Int} {word best : Int64} {seen words : List Int64}

/-- **The first of the least**: whatever stands before it is greater, and nothing after it is
less. -/
def FirstLeast (measure : Int64 → Int) (word : Int64) (words : List Int64) : Prop :=
  ∃ before after, words = before ++ word :: after ∧
    (∀ other ∈ before, measure word < measure other) ∧
    ∀ other ∈ after, measure word ≤ measure other

/-- It is one of the words. -/
theorem FirstLeast.mem (h : FirstLeast measure word words) : word ∈ words := by
  obtain ⟨before, after, rfl, -, -⟩ := h
  exact List.mem_append_cons_self

/-- None of the words is less. -/
theorem FirstLeast.le (h : FirstLeast measure word words) :
    ∀ other ∈ words, measure word ≤ measure other := by
  obtain ⟨before, after, rfl, greater, notLess⟩ := h
  intro other mem
  rcases List.mem_append.mp mem with earlier | later
  · exact (greater other earlier).le
  · rcases List.mem_cons.mp later with rfl | later
    · exact le_rfl
    · exact notLess other later

/-- There is only one. -/
theorem FirstLeast.unique {other : Int64} (first : FirstLeast measure word words)
    (second : FirstLeast measure other words) : word = other := by
  have least := first.le other second.mem
  have least' := second.le word first.mem
  obtain ⟨before, after, rfl, greater, -⟩ := first
  obtain ⟨before', after', same, greater', -⟩ := second
  -- The one that stands earlier is greater than the later one unless they stand at one place.
  rcases List.append_eq_append_iff.mp same with ⟨between, rfl, rest⟩ | ⟨between, rfl, rest⟩
  · cases between with
    | nil => exact (List.cons.inj rest).1
    | cons next _ =>
      obtain ⟨rfl, -⟩ := List.cons.inj rest
      exact absurd (greater' word (by simp)) least.not_gt
  · cases between with
    | nil => exact (List.cons.inj rest).1.symm
    | cons next _ =>
      obtain ⟨rfl, -⟩ := List.cons.inj rest
      exact absurd (greater other (by simp)) least'.not_gt

/-- One step of the pass keeps the first of the least. -/
theorem FirstLeast.step (h : FirstLeast measure best seen) (word : Int64) :
    FirstLeast measure (if measure word < measure best then word else best) (seen ++ [word]) := by
  split
  · rename_i less
    exact ⟨seen, [], rfl, fun other mem => less.trans_le (h.le other mem), by simp⟩
  · rename_i notLess
    obtain ⟨before, after, rfl, greater, later⟩ := h
    refine ⟨before, after ++ [word], by simp, greater, fun other mem => ?_⟩
    rcases List.mem_append.mp mem with mem | mem
    · exact later other mem
    · rw [List.mem_singleton.mp mem]
      exact le_of_not_gt notLess

/-- **The pass finds the first of the least.** -/
theorem FirstLeast.run (h : FirstLeast measure best seen) (words : List Int64) :
    FirstLeast measure (words.foldl (fun best word =>
      if measure word < measure best then word else best) best) (seen ++ words) := by
  induction words generalizing best seen with
  | nil => simpa using h
  | cons word words ih => simpa using ih (h.step word)

end FirstLeast

/-- **The first item after sorting is the first of the least.** -/
theorem firstLeast_head {word : Int64} {words : List Int64}
    (h : (sortedWords words).head? = some word) :
    FirstLeast (fun word => key (ofWord word)) word words := by
  induction words with
  | nil => simp [sortedWords] at h
  | cons first rest ih =>
    -- Sorting puts the first word into the sorted rest, behind those that are less.
    obtain ⟨less, others, whole, behind, lesser⟩ := List.mergeSort_cons
      (ranked_trans fun word => numberRank (ofWord word))
      (ranked_total fun word => numberRank (ofWord word)) first rest
    have ordered := pairwise_sortedWords (first :: rest)
    rw [sortedWords] at h ordered ih
    rw [whole] at h ordered
    rw [behind] at ih
    cases less with
    | nil =>
      cases h
      refine ⟨[], rest, rfl, by simp, fun other mem => ?_⟩
      refine List.rel_of_pairwise_cons ordered ?_
      have sorted : other ∈ sortedWords rest := List.mem_mergeSort.mpr mem
      rwa [sortedWords, behind] at sorted
    | cons least less =>
      cases h
      obtain ⟨before, after, rfl, greater, notLess⟩ := ih rfl
      refine ⟨first :: before, after, rfl, List.forall_mem_cons.mpr ⟨?_, greater⟩, notLess⟩
      have lesser := lesser word List.mem_cons_self
      simp only [Bool.not_eq_true', decide_eq_false_iff_not, numberRank_le_iff, not_le] at lesser
      exact lesser

/-- Nothing is greater than the last item after sorting. -/
theorem le_last {last : Int64} {words : List Int64}
    (h : (sortedWords words).getLast? = some last) :
    ∀ word ∈ words, key (ofWord word) ≤ key (ofWord last) := by
  obtain ⟨before, whole⟩ := List.getLast?_eq_some_iff.mp h
  have ordered := pairwise_sortedWords words
  rw [whole, List.pairwise_append] at ordered
  intro word mem
  have mem : word ∈ sortedWords words := List.mem_mergeSort.mpr mem
  rw [whole] at mem
  -- Whatever is not the last one stands before it.
  rcases List.mem_append.mp mem with earlier | same
  · exact ordered.2.2 word earlier last List.mem_cons_self
  · rw [List.mem_singleton.mp same]

/-! ## The pass -/

/-- The pass over integers compares the numbers that they are widened to. -/
theorem bestFrom_ints (name : String) {better : Float → Float → Bool} {measure : Int64 → Int}
    (compares : ∀ word best,
      better (ofWord word) (ofWord best) = decide (measure word < measure best))
    (best : Int64) (words : List Int64) :
    bestFrom name better (ofWord best, .int best) (words.map .int) =
      .ok (.int (words.foldl (fun best word =>
        if measure word < measure best then word else best) best)) := by
  induction words generalizing best with
  | nil => rfl
  | cons word words ih =>
    rw [List.map_cons, bestFrom, List.foldl_cons]
    simp only [Value.asFloat?, compares, decide_eq_true_eq]
    split
    · exact ih word
    · exact ih best

/-- **The best of some integers is the first of the least** in what is compared. -/
theorem exists_bestOf (better : Float → Float → Bool) {measure : Int64 → Int}
    (compares : ∀ word best,
      better (ofWord word) (ofWord best) = decide (measure word < measure best))
    {words : List Int64} (nonempty : words ≠ []) :
    ∃ best, FirstLeast measure best words ∧
      ∀ name, bestOf name better (words.map .int) = .ok (.int best) := by
  cases words with
  | nil => exact absurd rfl nonempty
  | cons word words =>
    have alone : FirstLeast measure word [word] := ⟨[], [], rfl, by simp, by simp⟩
    exact ⟨_, alone.run words, fun name => bestFrom_ints name compares word words⟩

/-! ## The functions -/

/-- How a sequence is given to a function: as its arguments, or as the items of the only one. -/
inductive Given (store : Store) (values : List Value) : List Value → Prop where
  | arguments : Given store values values
  | list {handle : Handle} (items : (store.list handle).items = values) :
    Given store values [.list handle]

/-- The extreme is taken of the sequence that is given. -/
theorem Given.candidates_eq {store : Store} {words : List Int64} {arguments : List Value}
    (given : Given store (words.map .int) arguments) :
    candidates store arguments = words.map .int := by
  cases given with
  | list items => exact items
  | arguments =>
    unfold candidates
    split
    · rename_i handle only
      cases words <;> cases only
    · rfl

section Runs

variable (machine : Machine) {words : List Int64}

/-- Widened words compare as their places with their signs. -/
theorem ofWord_lt_iff {left right : Int64} :
    ofWord left < ofWord right ↔ key (ofWord left) < key (ofWord right) :=
  lt_iff_key (isNaN_ofWord left) (isNaN_ofWord right)

/-- The best of some integers is found however they are given. -/
theorem exists_extreme (better : Float → Float → Bool) {measure : Int64 → Int}
    (compares : ∀ word best,
      better (ofWord word) (ofWord best) = decide (measure word < measure best))
    (nonempty : words ≠ []) :
    ∃ best, FirstLeast measure best words ∧
      ∀ name arguments, Given machine.store (words.map .int) arguments →
        Eval.ofExcept (bestOf name better (candidates machine.store arguments)) machine =
          .ok (.int best) machine := by
  obtain ⟨best, first, found⟩ := exists_bestOf better compares nonempty
  refine ⟨best, first, fun name arguments given => ?_⟩
  rw [given.candidates_eq, found]
  rfl

/-- **The least of some integers** is the first of those with the least place. -/
theorem exists_minimum (nonempty : words ≠ []) :
    ∃ least, FirstLeast (fun word => key (ofWord word)) least words ∧
      ∀ name arguments, Given machine.store (words.map .int) arguments →
        Eval.math .min ⟨name, arguments⟩ machine = .ok (.int least) machine :=
  exists_extreme machine (fun x best => x < best)
    (fun _ _ => decide_eq_decide.mpr ofWord_lt_iff) nonempty

/-- **The greatest of some integers** is the first of those with the greatest place. -/
theorem exists_maximum (nonempty : words ≠ []) :
    ∃ greatest, FirstLeast (fun word => -key (ofWord word)) greatest words ∧
      ∀ name arguments, Given machine.store (words.map .int) arguments →
        Eval.math .max ⟨name, arguments⟩ machine = .ok (.int greatest) machine :=
  exists_extreme machine (fun x best => best < x)
    (fun _ _ => decide_eq_decide.mpr (ofWord_lt_iff.trans neg_lt_neg_iff.symm)) nonempty

/-- **The ends of the sorted words** are the least one and one with the greatest place. -/
theorem exists_ends {least greatest : Int64}
    (first : FirstLeast (fun word => key (ofWord word)) least words)
    (last : FirstLeast (fun word => -key (ofWord word)) greatest words) :
    (sortedWords words).head? = some least ∧
      ∃ final ∈ words, (sortedWords words).getLast? = some final ∧
        ofWord final = ofWord greatest := by
  have some : sortedWords words ≠ [] := by
    intro none
    have mem : least ∈ sortedWords words := List.mem_mergeSort.mpr first.mem
    rw [none] at mem
    cases mem
  obtain ⟨head, atHead⟩ := Option.isSome_iff_exists.mp (List.isSome_head?.mpr some)
  obtain ⟨final, atEnd⟩ := Option.isSome_iff_exists.mp (List.getLast?_isSome.mpr some)
  have mem : final ∈ words := List.mem_mergeSort.mp (List.mem_of_getLast? atEnd)
  refine ⟨by rw [atHead, (firstLeast_head atHead).unique first], final, mem, atEnd, ?_⟩
  -- Neither of the two has a greater place than the other.
  exact ofWord_eq_of_key (le_antisymm (neg_le_neg_iff.mp (last.le final mem))
    (le_last atEnd greatest last.mem))

end Runs

/-- The other way round, comparing integers is exact. -/
theorem greaterEqual_ints (store : Store) (m n : Int64) :
    Value.compareValues store .greaterEqual (.int m) (.int n) =
      .ok (decide (n.toInt ≤ m.toInt)) := by
  have same : (compare m.toInt n.toInt).isGE = decide (n.toInt ≤ m.toInt) := by
    rw [Bool.eq_iff_iff, Int.isGE_compare, decide_eq_true_iff]
  exact congrArg Except.ok same

/-- **The least and the greatest of some integers**, by the operators `<=` and `>=`, but for those
that count as the same. -/
structure Extremes (store : Store) (same : Int64 → Int64 → Prop) (words : List Int64)
    (least greatest : Int64) : Prop where
  /-- The least one is `<=` every other. -/
  least_le : ∀ word ∈ words,
    Value.compareValues store .lessEqual (.int least) (.int word) = .ok true ∨ same least word
  /-- The greatest one is `>=` every other. -/
  greatest_ge : ∀ word ∈ words,
    Value.compareValues store .greaterEqual (.int greatest) (.int word) = .ok true ∨
      same greatest word

/-- Nothing is better among integers that are kept apart, as none is the same as another. -/
theorem Extremes.exact {store : Store} {words : List Int64} {least greatest : Int64}
    (h : Extremes store (fun left right => ofWord left = ofWord right) words least greatest)
    (small : ∀ word ∈ words, word.toInt.natAbs ≤ 2 ^ 53) (mem : least ∈ words)
    (mem' : greatest ∈ words) :
    Extremes store (fun _ _ => False) words least greatest where
  least_le word found := by
    refine .inl ((h.least_le word found).elim id fun same => ?_)
    rw [ofWord_inj (small _ mem) (small _ found) same, lessEqual_ints, decide_eq_true le_rfl]
  greatest_ge word found := by
    refine .inl ((h.greatest_ge word found).elim id fun same => ?_)
    rw [ofWord_inj (small _ mem') (small _ found) same, greaterEqual_ints, decide_eq_true le_rfl]

/-- **The extremes of integers agree with the operators and with sorting.** The least and the
greatest of some integers, given as arguments or as a list, are found among them. The least one is
`<=` every other and the greatest one `>=` every other, unless both are widened to one
floating-point number. Of the sorted list the least one is the first item, and the greatest one is
widened to the same number as the last item. For integers of at most 53 bits there are no
exceptions. -/
theorem extremes_agree (machine : Machine) {words : List Int64} (nonempty : words ≠ []) :
    ∃ least ∈ words, ∃ greatest ∈ words,
      (∀ name arguments, Given machine.store (words.map .int) arguments →
        Eval.math .min ⟨name, arguments⟩ machine = .ok (.int least) machine ∧
        Eval.math .max ⟨name, arguments⟩ machine = .ok (.int greatest) machine) ∧
      Extremes machine.store (fun left right => ofWord left = ofWord right) words least greatest ∧
      (∀ name, ∀ handle < machine.store.lists.size,
        (machine.store.list handle).items = words.map .int →
          ∃ (sorted : List Int64) (last : Int64), SortsTo machine handle name (sorted.map .int) ∧
            sorted.head? = some least ∧ sorted.getLast? = some last ∧
            ofWord last = ofWord greatest ∧
            ((∀ word ∈ words, word.toInt.natAbs ≤ 2 ^ 53) → last = greatest)) ∧
      ((∀ word ∈ words, word.toInt.natAbs ≤ 2 ^ 53) →
        Extremes machine.store (fun _ _ => False) words least greatest) := by
  obtain ⟨least, first, minimum⟩ := exists_minimum machine nonempty
  obtain ⟨greatest, last, maximum⟩ := exists_maximum machine nonempty
  have extremes : Extremes machine.store (fun left right => ofWord left = ofWord right) words
      least greatest := by
    refine ⟨fun word mem => ?_, fun word mem => ?_⟩
    · rw [lessEqual_ints]
      exact (le_or_ofWord_eq (first.le word mem)).imp_left fun order => by
        rw [decide_eq_true order]
    · rw [greaterEqual_ints]
      have order : key (ofWord word) ≤ key (ofWord greatest) := neg_le_neg_iff.mp (last.le word mem)
      exact (le_or_ofWord_eq order).imp (fun order => by rw [decide_eq_true order]) Eq.symm
  refine ⟨least, first.mem, greatest, last.mem,
    fun name arguments given => ⟨minimum name arguments given, maximum name arguments given⟩,
    extremes, fun name handle held items => ?_,
    fun small => extremes.exact small first.mem last.mem⟩
  obtain ⟨atHead, final, mem, atEnd, widened⟩ := exists_ends first last
  refine ⟨sortedWords words, final, ?_, atHead, atEnd, widened, fun small => ?_⟩
  · exact sortsTo_of_sortValues name held (by rw [items, sortValues_ints])
  · exact ofWord_inj (small _ mem) (small _ last.mem) widened

/-- The extremes of three integers, given as arguments and as a list. -/
theorem short_extremes_agree :
    ∃ least greatest : Int64,
      Eval.math .min ⟨"min", [.list 0]⟩ (listing .int [.int 3, .int (-7), .int 2]) =
        .ok (.int least) (listing .int [.int 3, .int (-7), .int 2]) ∧
      Eval.math .max ⟨"max", [.int 3, .int (-7), .int 2]⟩
          (listing .int [.int 3, .int (-7), .int 2]) =
        .ok (.int greatest) (listing .int [.int 3, .int (-7), .int 2]) ∧
      Extremes (listing .int [.int 3, .int (-7), .int 2]).store (fun _ _ => False) [3, -7, 2]
        least greatest := by
  obtain ⟨least, -, greatest, -, found, -, -, exact⟩ := @extremes_agree
    (listing .int [.int 3, .int (-7), .int 2]) [3, -7, 2] (List.cons_ne_nil _ _)
  exact ⟨least, greatest, (found "min" _ (.list rfl)).1, (found "max" _ .arguments).2,
    exact (by simp)⟩

/-- **Of two integers that are widened to one number the first one is taken**, whichever is less. -/
theorem neighbours_mistaken :
    (Eval.math .min ⟨"min", [.int 9007199254740993, .int 9007199254740992]⟩ (listing .int []) =
        .ok (.int 9007199254740993) (listing .int []) ∧
      Value.compareValues (listing .int []).store .lessEqual (.int 9007199254740993)
        (.int 9007199254740992) = .ok false) ∧
    (Eval.math .max ⟨"max", [.int 9007199254740992, .int 9007199254740993]⟩ (listing .int []) =
        .ok (.int 9007199254740992) (listing .int []) ∧
      Value.compareValues (listing .int []).store .greaterEqual (.int 9007199254740992)
        (.int 9007199254740993) = .ok false) := by
  obtain ⟨least, first, minimum⟩ := @exists_minimum (listing .int [])
    [9007199254740993, 9007199254740992] (List.cons_ne_nil _ _)
  obtain ⟨greatest, last, maximum⟩ := @exists_maximum (listing .int [])
    [9007199254740992, 9007199254740993] (List.cons_ne_nil _ _)
  have tied : key (ofWord 9007199254740993) ≤ key (ofWord 9007199254740992) :=
    numberRank_le_iff.mp (by decide)
  have taken := first.unique ⟨[], [9007199254740992], rfl, by simp, by simpa using tied⟩
  have taken' := last.unique ⟨[], [9007199254740993], rfl, by simp, by simpa using tied⟩
  rw [taken] at minimum
  rw [taken'] at maximum
  refine ⟨⟨minimum _ _ .arguments, ?_⟩, maximum _ _ .arguments, ?_⟩
  · rw [lessEqual_ints, decide_eq_false (by decide)]
  · rw [greaterEqual_ints, decide_eq_false (by decide)]

end ReactiveScript
