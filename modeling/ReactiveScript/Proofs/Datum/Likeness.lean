import ReactiveScript.Proofs.Datum.View
import ReactiveScript.Proofs.Number.Double

/-! # Comparing trees by their contents

Numbers of different kinds are compared after widening, which may round an integer. So likeness of
contents is reflexive where nothing is the value that is no number (`like_self`), but it is handed
on only through trees that hand on their numbers (`Chains`), and it does not depend on the order
only where the keys of a dictionary are handed on in that sense (`like_symm_of_chains`):
dictionaries are compared in one direction, and the other one follows by counting. Numbers are
handed on between trees whose integers stay apart when they are widened (`like_trans`,
`like_symm`). -/

namespace ReactiveScript

namespace Datum

/-! ## Numbers -/

/-- Whether a tree is a number with a part that is no number. -/
def isNaN : Datum → Bool
  | .float x => x.isNaN
  | .complex re im => re.isNaN || im.isNaN
  | _ => false

/-- The integers of a tree. -/
def ints (tree : Datum) : List Int64 :=
  tree.parts.filterMap fun
    | .int n => some n
    | _ => none

/-- An integer of a tree is a part of it. -/
theorem mem_ints {tree : Datum} {n : Int64} : n ∈ tree.ints ↔ .int n ∈ tree.parts := by
  simp only [ints, List.mem_filterMap]
  refine ⟨?_, fun mem => ⟨.int n, mem, rfl⟩⟩
  rintro ⟨part, mem, found⟩
  cases part <;> cases found
  exact mem

/-- **Integers that stay apart**: an integer of the first tree and a different one of the second do
not become equal when they are widened. -/
def Discerns (left right : Datum) : Prop :=
  ∀ m ∈ left.ints, ∀ n ∈ right.ints, (Number.ofWord m == Number.ofWord n) = true → m = n

-- Checked over the two lists; found by inference, it might go through all words.
instance (left right : Datum) : Decidable (left.Discerns right) :=
  decidable_of_iff (left.ints.all (fun m => right.ints.all fun n =>
      decide ((Number.ofWord m == Number.ofWord n) = true → m = n)) = true)
    (by simp only [Discerns, List.all_eq_true, decide_eq_true_eq])

/-- Parts of trees whose integers stay apart have integers that stay apart. -/
theorem Discerns.of_parts {left right left' right' : Datum} (h : left.Discerns right)
    (first : ∀ part ∈ left'.parts, part ∈ left.parts)
    (second : ∀ part ∈ right'.parts, part ∈ right.parts) : left'.Discerns right' :=
  fun m mem n mem' => h m (mem_ints.mpr (first _ (mem_ints.mp mem))) n
    (mem_ints.mpr (second _ (mem_ints.mp mem')))

/-- Zero equals itself. -/
theorem zero_beq : ((0 : Float) == 0) = true := by decide

variable {left middle right : Datum}

/-- Complex numbers do not depend on the order. -/
theorem sameComplex_symm (h : sameComplex left right = true) : sameComplex right left = true := by
  unfold sameComplex at h ⊢
  split at h
  · rename_i first second
    rw [first, second]
    simp only [Bool.and_eq_true] at h ⊢
    exact ⟨Number.beq_symm h.1, Number.beq_symm h.2⟩
  · cases h

/-- Sameness of complex numbers is handed on. -/
theorem sameComplex_trans (h : sameComplex left middle = true)
    (h' : sameComplex middle right = true) : sameComplex left right = true := by
  unfold sameComplex at h h' ⊢
  split at h
  · rename_i first second
    rw [second] at h'
    rw [first]
    split at h'
    · rename_i same third
      cases same
      rw [third]
      simp only [Bool.and_eq_true] at h h' ⊢
      exact ⟨Number.beq_trans h.1 h'.1, Number.beq_trans h.2 h'.2⟩
    · cases h'
  · cases h

/-- What is the same complex number as something is a number. -/
theorem isSome_of_sameComplex (h : sameComplex left right = true) :
    right.asComplex?.isSome = true := by
  unfold sameComplex at h
  split at h
  · rename_i second
    rw [second]
    rfl
  · cases h

/-- **A number is like the same complex number**, where two integers are the same only as
integers. -/
theorem like_number_iff (number : left.asComplex?.isSome = true) : left.like right = true ↔
    sameComplex left right = true ∧ ∀ m n, left = .int m → right = .int n → m = n := by
  have widened (n : Int64) := Number.beq_self (Number.isNaN_ofWord n)
  cases left with
  | int m =>
    cases right <;> simp [like, same, sameComplex, asComplex?, zero_beq]
    rintro rfl
    exact widened m
  | float x => cases right <;> simp [like, same, sameComplex, asComplex?, zero_beq]
  | complex re im => cases right <;> simp [like, same, sameComplex, asComplex?]
  | _ => cases number

/-- What is neither a number nor a container is like nothing but itself. -/
theorem eq_of_like (other : left.asComplex? = none) (plain : left.container? = none)
    (h : left.like right = true) : left = right := by
  cases left <;> cases right <;> simp_all [like, same, asComplex?, container?]

/-- Of things that stand side by side, each has another one beside it. -/
theorem exists_of_forall₂ {α β : Type} {beside : α → β → Prop} {things : List α} {others : List β}
    (h : List.Forall₂ beside things others) :
    ∀ thing ∈ things, ∃ other ∈ others, beside thing other := by
  induction h with
  | nil => simp
  | cons first _ ih =>
    refine List.forall_mem_cons.mpr ⟨⟨_, List.mem_cons_self, first⟩, fun thing mem => ?_⟩
    obtain ⟨other, found, match'⟩ := ih thing mem
    exact ⟨other, List.mem_cons_of_mem _ found, match'⟩

/-- What is like something is a number, if it is meant to be one. -/
theorem isNaN_of_like (h : left.like right = true) : left.isNaN = false := by
  cases left with
  | float x =>
    have equal : ∃ y, (x == y) = true := by
      cases right <;> simp [like, same, sameComplex, asComplex?] at h
      exacts [⟨_, h⟩, ⟨_, h⟩, ⟨_, h.1⟩]
    obtain ⟨y, equal⟩ := equal
    exact Number.isNaN_of_beq equal
  | complex re im =>
    have equal : ∃ y z, (re == y) = true ∧ (im == z) = true := by
      cases right <;> simp [like, same, sameComplex, asComplex?] at h
      all_goals exact ⟨_, _, h⟩
    obtain ⟨y, z, real, imaginary⟩ := equal
    exact Bool.or_eq_false_iff.mpr ⟨Number.isNaN_of_beq real, Number.isNaN_of_beq imaginary⟩
  | _ => rfl

/-- **What is like something holds nothing that is no number.** -/
theorem numbers_of_like (h : left.like right = true) :
    ∀ part ∈ left.parts, part.isNaN = false := by
  induction left generalizing right with
  | list handle element items ih =>
    obtain ⟨_, _, others, -, alike⟩ := like_list_iff.mp h
    refine forall_parts_list.mpr ⟨rfl, fun item mem => ?_⟩
    obtain ⟨other, -, alike⟩ := exists_of_forall₂ alike item mem
    exact ih item mem alike
  | dict handle key value entries keys values =>
    obtain ⟨_, _, _, others, -, -, covered⟩ := like_dict_iff.mp h
    refine forall_parts_dict.mpr ⟨rfl, fun entry mem => ?_, fun entry mem => ?_⟩
    · obtain ⟨other, -, alike, -⟩ := covered entry mem
      exact keys entry mem alike
    · obtain ⟨other, -, -, alike⟩ := covered entry mem
      exact values entry mem alike
  | _ =>
    intro part mem
    cases List.mem_singleton.mp mem
    exact isNaN_of_like h

/-! ## Reflexivity -/

/-- **A tree is like itself** if it is cut off nowhere and holds nothing that is no number. -/
theorem like_self {tree : Datum} (acyclic : tree.isCyclic = false)
    (numbers : ∀ part ∈ tree.parts, part.isNaN = false) : tree.like tree = true := by
  induction tree with
  | int n => exact beq_self_eq_true n
  | float x => exact Number.beq_self (numbers _ (mem_parts_self _))
  | complex re im =>
    obtain ⟨first, second⟩ := Bool.or_eq_false_iff.mp (numbers _ (mem_parts_self _))
    exact Bool.and_eq_true_iff.mpr ⟨Number.beq_self first, Number.beq_self second⟩
  | boolean b => exact beq_self_eq_true b
  | text s => exact beq_self_eq_true s
  | void => rfl
  | untyped => rfl
  | list handle element items ih =>
    obtain ⟨-, numbers⟩ := forall_parts_list.mp numbers
    refine like_list_iff.mpr ⟨_, _, _, rfl, List.forall₂_same.mpr fun item mem => ?_⟩
    exact ih item mem (anyCyclic_iff.mp acyclic item mem) (numbers item mem)
  | dict handle key value entries keys values =>
    obtain ⟨-, numbers, numbers'⟩ := forall_parts_dict.mp numbers
    refine like_dict_iff.mpr ⟨_, _, _, _, rfl, rfl, fun entry mem => ⟨entry, mem, ?_⟩⟩
    obtain ⟨acyclic, acyclic'⟩ := anyCyclicEntry_iff.mp acyclic entry mem
    exact ⟨keys entry mem acyclic (numbers entry mem),
      values entry mem acyclic' (numbers' entry mem)⟩
  | cycle container => cases acyclic

/-! ## Transitivity -/

/-- Likeness of items is handed on if it is for each of them. -/
theorem likeItems_trans {items between others : List Datum}
    (each : ∀ item ∈ items, ∀ middle ∈ between, ∀ other ∈ others, item.like middle = true →
      middle.like other = true → item.like other = true)
    (h : List.Forall₂ (fun item other => item.like other = true) items between)
    (h' : List.Forall₂ (fun item other => item.like other = true) between others) :
    List.Forall₂ (fun item other => item.like other = true) items others := by
  induction h generalizing others with
  | nil =>
    cases h'
    exact .nil
  | cons first rest ih =>
    cases h' with
    | cons first' rest' =>
      have head := each _ List.mem_cons_self _ List.mem_cons_self _ List.mem_cons_self first first'
      refine .cons head (ih ?_ rest')
      exact fun item mem middle mem' other mem'' => each item (List.mem_cons_of_mem _ mem) middle
        (List.mem_cons_of_mem _ mem') other (List.mem_cons_of_mem _ mem'')

/-- Likeness of numbers is handed on where integers stay apart. -/
theorem like_trans_number (number : left.asComplex?.isSome = true) (apart : left.Discerns right)
    (h : left.like middle = true) (h' : middle.like right = true) : left.like right = true := by
  obtain ⟨same, -⟩ := (like_number_iff number).mp h
  obtain ⟨same', -⟩ := (like_number_iff (isSome_of_sameComplex same)).mp h'
  have joined := sameComplex_trans same same'
  refine (like_number_iff number).mpr ⟨joined, ?_⟩
  rintro m n rfl rfl
  refine apart m (mem_ints.mpr (mem_parts_self _)) n (mem_ints.mpr (mem_parts_self _)) ?_
  exact (Bool.and_eq_true_iff.mp joined).1

/-- **Trees through which numbers are handed on**: a number of the first tree that is like one of
the second, which is like one of the third, is like that one. -/
def Chains (left middle right : Datum) : Prop :=
  ∀ first ∈ left.parts, first.asComplex?.isSome = true → ∀ second ∈ middle.parts,
    ∀ third ∈ right.parts, first.like second = true → second.like third = true →
      first.like third = true

namespace Chains

/-- Numbers are handed on through the parts of trees through which they are. -/
theorem of_parts {left' middle' right' : Datum} (h : left.Chains middle right)
    (first : ∀ part ∈ left'.parts, part ∈ left.parts)
    (second : ∀ part ∈ middle'.parts, part ∈ middle.parts)
    (third : ∀ part ∈ right'.parts, part ∈ right.parts) : left'.Chains middle' right' :=
  fun part mem number part' mem' part'' mem'' =>
    h part (first part mem) number part' (second part' mem') part'' (third part'' mem'')

/-- A number is handed on. -/
theorem number (chains : left.Chains middle right) (number : left.asComplex?.isSome = true)
    (h : left.like middle = true) (h' : middle.like right = true) : left.like right = true :=
  chains left (mem_parts_self _) number middle (mem_parts_self _) right (mem_parts_self _) h h'

/-- **Likeness is handed on** where numbers are. -/
theorem like_trans (chains : left.Chains middle right) (h : left.like middle = true)
    (h' : middle.like right = true) : left.like right = true := by
  induction left generalizing middle right with
  | int n => exact chains.number rfl h h'
  | float x => exact chains.number rfl h h'
  | complex re im => exact chains.number rfl h h'
  | list handle element items ih =>
    obtain ⟨_, _, between, rfl, alike⟩ := like_list_iff.mp h
    obtain ⟨_, _, others, rfl, alike'⟩ := like_list_iff.mp h'
    refine like_list_iff.mpr ⟨_, _, others, rfl, likeItems_trans ?_ alike alike'⟩
    intro item mem middle mem' other mem''
    exact ih item mem (chains.of_parts (fun _ => mem_parts_list mem)
      (fun _ => mem_parts_list mem') fun _ => mem_parts_list mem'')
  | dict handle key value entries keys values =>
    obtain ⟨_, _, _, between, rfl, length, covered⟩ := like_dict_iff.mp h
    obtain ⟨_, _, _, others, rfl, length', covered'⟩ := like_dict_iff.mp h'
    refine like_dict_iff.mpr ⟨_, _, _, others, rfl, length.trans length', fun entry mem => ?_⟩
    obtain ⟨middle, mem', alike⟩ := covered entry mem
    obtain ⟨other, mem'', alike'⟩ := covered' middle mem'
    refine ⟨other, mem'', keys entry mem ?_ alike.1 alike'.1, values entry mem ?_ alike.2 alike'.2⟩
    · exact chains.of_parts (fun _ inside => mem_parts_dict mem (.inl inside))
        (fun _ inside => mem_parts_dict mem' (.inl inside))
        fun _ inside => mem_parts_dict mem'' (.inl inside)
    · exact chains.of_parts (fun _ inside => mem_parts_dict mem (.inr inside))
        (fun _ inside => mem_parts_dict mem' (.inr inside))
        fun _ inside => mem_parts_dict mem'' (.inr inside)
  | cycle container => cases h
  | _ =>
    cases eq_of_like rfl rfl h
    exact h'

end Chains

/-- Between trees whose integers stay apart, numbers are handed on through any tree. -/
theorem Discerns.chains (apart : left.Discerns right) (middle : Datum) :
    left.Chains middle right :=
  fun _ mem number _ _ _ mem' => like_trans_number number
    (apart.of_parts (fun _ => mem_parts_trans mem) fun _ => mem_parts_trans mem')

/-- **Likeness is handed on** from a tree to a tree whose integers stay apart from its own. -/
theorem like_trans (apart : left.Discerns right) : left.like middle = true →
    middle.like right = true → left.like right = true :=
  (apart.chains middle).like_trans

/-! ## Symmetry -/

/-- **Counting.** Where others cover some things that never share one of them, there are at least as
many others as things. -/
theorem length_le_of_covered {α β : Type} {covers : α → β → Prop} {things : List α}
    {others : List β} (covered : ∀ thing ∈ things, ∃ other ∈ others, covers thing other)
    (apart : things.Pairwise fun thing thing' => ∀ other, covers thing other →
      ¬ covers thing' other) : things.length ≤ others.length := by
  induction things generalizing others with
  | nil => exact Nat.zero_le _
  | cons thing things ih =>
    obtain ⟨alone, apart⟩ := List.pairwise_cons.mp apart
    obtain ⟨⟨taken, mem, match'⟩, covered⟩ := List.forall_mem_cons.mp covered
    obtain ⟨before, behind, rfl⟩ := List.append_of_mem mem
    -- The first thing takes one of the others away, which no other thing needs.
    have rest : things.length ≤ (before ++ behind).length := by
      refine ih (fun thing' mem' => ?_) apart
      obtain ⟨other, found, match''⟩ := covered thing' mem'
      rcases List.mem_cons.mp (List.perm_middle.mem_iff.mp found) with rfl | found
      · exact absurd match'' (alone thing' mem' other match')
      · exact ⟨other, found, match''⟩
    simp only [List.length_append, List.length_cons] at rest ⊢
    omega

/-- Where at most as many others cover some things that never share one of them, each of the others
covers a thing. -/
theorem exists_of_covered {α β : Type} {covers : α → β → Prop} {things : List α} {others : List β}
    (length : others.length ≤ things.length)
    (covered : ∀ thing ∈ things, ∃ other ∈ others, covers thing other)
    (apart : things.Pairwise fun thing thing' => ∀ other, covers thing other →
      ¬ covers thing' other) :
    ∀ other ∈ others, ∃ thing ∈ things, covers thing other := by
  intro other mem
  by_contra idle
  obtain ⟨before, behind, rfl⟩ := List.append_of_mem mem
  -- Without the other that covers nothing, there would be too few of them.
  have fewer : things.length ≤ (before ++ behind).length := by
    refine length_le_of_covered (fun thing mem' => ?_) apart
    obtain ⟨found, mem'', match'⟩ := covered thing mem'
    rcases List.mem_cons.mp (List.perm_middle.mem_iff.mp mem'') with rfl | mem''
    · exact absurd ⟨thing, mem', match'⟩ idle
    · exact ⟨found, mem'', match'⟩
  simp only [List.length_append, List.length_cons] at fewer length
  omega

/-- Likeness of items does not depend on the order if it does not for each of them. -/
theorem likeItems_symm {items others : List Datum}
    (each : ∀ item ∈ items, ∀ other ∈ others, item.like other = true → other.like item = true)
    (h : List.Forall₂ (fun item other => item.like other = true) items others) :
    List.Forall₂ (fun item other => item.like other = true) others items := by
  induction h with
  | nil => exact .nil
  | cons first rest ih =>
    refine .cons (each _ List.mem_cons_self _ List.mem_cons_self first) (ih ?_)
    exact fun item mem other mem' =>
      each item (List.mem_cons_of_mem _ mem) other (List.mem_cons_of_mem _ mem')

/-- Likeness of a number does not depend on the order. -/
theorem like_symm_number (number : left.asComplex?.isSome = true) (h : left.like right = true) :
    right.like left = true := by
  obtain ⟨same, agree⟩ := (like_number_iff number).mp h
  exact (like_number_iff (isSome_of_sameComplex same)).mpr
    ⟨sameComplex_symm same, fun m n first second => (agree n m second first).symm⟩

/-- **Likeness does not depend on the order** if the keys of every dictionary of the tree are
different, and numbers are handed on between them through the other tree. -/
theorem like_symm_of_chains (differ : ∀ part ∈ left.parts,
      part.keys.Pairwise fun key other => key.like other = false)
    (chains : ∀ part ∈ left.parts,
      part.keys.Pairwise fun key other => ∀ between ∈ right.parts, key.Chains between other)
    (h : left.like right = true) : right.like left = true := by
  induction left generalizing right with
  | int n => exact like_symm_number rfl h
  | float x => exact like_symm_number rfl h
  | complex re im => exact like_symm_number rfl h
  | list handle element items ih =>
    obtain ⟨_, _, others, rfl, alike⟩ := like_list_iff.mp h
    obtain ⟨-, differ⟩ := forall_parts_list.mp differ
    obtain ⟨-, chains⟩ := forall_parts_list.mp chains
    refine like_list_iff.mpr ⟨_, _, items, rfl, likeItems_symm ?_ alike⟩
    refine fun item mem other mem' => ih item mem (differ item mem) fun part inside => ?_
    exact (chains item mem part inside).imp fun h between found =>
      h between (mem_parts_list mem' found)
  | dict handle key value entries keys values =>
    obtain ⟨_, _, _, others, rfl, length, covered⟩ := like_dict_iff.mp h
    obtain ⟨differ, keysDiffer, valuesDiffer⟩ := forall_parts_dict.mp differ
    obtain ⟨chains, keysChain, valuesChain⟩ := forall_parts_dict.mp chains
    have back (entry) (mem : entry ∈ entries) (other) (mem' : other ∈ others)
        (alike : LikeEntry entry other) : LikeEntry other entry := by
      refine ⟨keys entry mem (keysDiffer entry mem) (fun part inside => ?_) alike.1,
        values entry mem (valuesDiffer entry mem) (fun part inside => ?_) alike.2⟩
      · exact (keysChain entry mem part inside).imp fun h between found =>
          h between (mem_parts_dict mem' (.inl found))
      · exact (valuesChain entry mem part inside).imp fun h between found =>
          h between (mem_parts_dict mem' (.inr found))
    -- Two keys that are like one key of the other dictionary would be like each other.
    have alone : entries.Pairwise fun entry entry' => ∀ other, other ∈ others ∧
        LikeEntry entry other → ¬ (other ∈ others ∧ LikeEntry entry' other) := by
      refine ((List.pairwise_map.mp differ).and (List.pairwise_map.mp chains)).imp_of_mem ?_
      rintro entry entry' - mem ⟨differ, chains⟩ other ⟨mem', alike⟩ ⟨-, alike'⟩
      have chains := chains other.1 (mem_parts_dict mem' (.inl (mem_parts_self _)))
      have same := chains.like_trans alike.1 (back entry' mem other mem' alike').1
      rw [differ] at same
      cases same
    have covered (entry) (mem : entry ∈ entries) :
        ∃ other ∈ others, other ∈ others ∧ LikeEntry entry other := by
      obtain ⟨other, mem', alike⟩ := covered entry mem
      exact ⟨other, mem', mem', alike⟩
    refine like_dict_iff.mpr ⟨_, _, _, entries, rfl, length.symm, fun other mem => ?_⟩
    obtain ⟨entry, mem', -, alike⟩ :=
      exists_of_covered (Nat.le_of_eq length.symm) covered alone other mem
    exact ⟨entry, mem', back entry mem' other mem alike⟩
  | cycle container => cases h
  | _ =>
    cases eq_of_like rfl rfl h
    exact h

/-- **Likeness does not depend on the order** if the keys of every dictionary of the tree are
different, and their integers stay apart. -/
theorem like_symm (differ : ∀ part ∈ left.parts,
      part.keys.Pairwise fun key other => key.like other = false)
    (apart : ∀ part ∈ left.parts, part.keys.Pairwise Discerns) (h : left.like right = true) :
    right.like left = true :=
  like_symm_of_chains differ
    (fun part mem => (apart part mem).imp fun apart between _ => apart.chains between) h

end Datum

end ReactiveScript
