import ReactiveScript.Value.Range

/-! # Ranges are exact

A range is computed step by step in machine words, and it stops for one of two reasons: the next
integer no longer stands before the bound, or it is no machine word. As the bound is a machine word,
the second reason implies the first (`not_before_of_unfit`), so the list holds the terms
`first + k * step` that stand before the bound, all of them and in order (`rangeFrom_terms`). The
main statement is `range_exact`. -/

namespace ReactiveScript

/-! ## Terms before a bound -/

/-- An integer that stands before a bound, in the direction of the step. -/
def Before (bound step n : Int) : Prop := (0 < step ∧ n < bound) ∨ (step < 0 ∧ bound < n)

instance (bound step n : Int) : Decidable (Before bound step n) :=
  inferInstanceAs (Decidable (_ ∨ _))

/-- **The terms of a range.** Place by place the list holds `first + k * step`, and it ends where
that does not stand before the bound. -/
def Terms (bound step first : Int) (items : List Int64) : Prop :=
  ∀ k : Nat, items[k]?.map Int64.toInt =
    if Before bound step (first + k * step) then some (first + k * step) else none

variable {bound step first : Int} {items : List Int64}

/-- Behind an integer that does not stand before the bound, none does. -/
theorem not_before_add (past : ¬ Before bound step first) (k : Nat) :
    ¬ Before bound step (first + k * step) := by
  unfold Before at past ⊢
  rintro (⟨up, inside⟩ | ⟨down, inside⟩)
  · have forward : 0 ≤ k * step := Int.mul_nonneg (Int.natCast_nonneg k) (by omega)
    exact past (.inl ⟨up, by omega⟩)
  · have backward : k * step ≤ 0 :=
      Int.mul_nonpos_of_nonneg_of_nonpos (Int.natCast_nonneg k) (by omega)
    exact past (.inr ⟨down, by omega⟩)

/-- A step that leads out of the machine words leads past every bound that is one. -/
theorem not_before_of_unfit {bound step current : Int64}
    (unfit : Number.checked (current.toInt + step.toInt) = none) :
    ¬ Before bound.toInt step.toInt (current.toInt + step.toInt) := by
  have outside := Number.checked_eq_none_iff.mp unfit
  unfold Number.least Number.bound at outside
  -- The sum leaves the machine words on the side that the step leads to.
  have below := current.le_toInt
  have above := current.toInt_lt
  have least := bound.le_toInt
  have greatest := bound.toInt_lt
  unfold Before
  omega

/-- There are no terms from an integer on that does not stand before the bound. -/
theorem terms_nil (past : ¬ Before bound step first) : Terms bound step first [] := by
  intro k
  rw [if_neg (not_before_add past k)]
  rfl

/-- An integer before the bound is the first of its terms. -/
theorem Terms.cons {current : Int64} (inside : Before bound step current.toInt)
    (rest : Terms bound step (current.toInt + step) items) :
    Terms bound step current.toInt (current :: items) := by
  intro k
  cases k with
  | zero => simp [inside]
  | succ k =>
    have shifted : current.toInt + (k + 1 : Nat) * step = current.toInt + step + k * step := by
      rw [Int.natCast_add, Int.add_mul]
      omega
    rw [List.getElem?_cons_succ, shifted]
    exact rest k

/-! ## The loop -/

/-- The test of the loop is the order of the integers. -/
theorem standsBefore_iff {bound step current : Int64} :
    standsBefore bound step current = true ↔ Before bound.toInt step.toInt current.toInt := by
  simp [standsBefore, Before]

/-- **The loop takes the terms**, behind those that it has taken before. -/
theorem rangeFrom_terms (bound step : Int64) (taken : Array Int64) (current : Int64) :
    ∃ items, (rangeFrom bound step taken current).toList = taken.toList ++ items ∧
      Terms bound.toInt step.toInt current.toInt items := by
  fun_induction rangeFrom bound step taken current with
  | case1 taken current inside next stepped ih =>
    obtain ⟨items, result, terms⟩ := ih
    rw [Number.toInt_of_checked_eq_some stepped] at terms
    exact ⟨current :: items, by simp [result], terms.cons (standsBefore_iff.mp inside)⟩
  | case2 taken current inside unfit =>
    -- The loop breaks off, but the next term would not stand before the bound either.
    have past : ¬ Before bound.toInt step.toInt (current.toInt + step.toInt) :=
      not_before_of_unfit unfit
    exact ⟨[current], by simp, (terms_nil past).cons (standsBefore_iff.mp inside)⟩
  | case3 taken current past =>
    exact ⟨[], by simp, terms_nil fun inside => past (standsBefore_iff.mpr inside)⟩

/-! ## Ranges -/

/-- The integer one further than the last bound, in the direction of the step. -/
def outward (last step : Int) : Int := if 0 < step then last + 1 else last - 1

/-- A range that is refused: without a step, or with a last bound that is included while the integer
behind it is no machine word. -/
def RangeRefused (last step : Int64) (inclusive : Bool) : Prop :=
  step = 0 ∨ inclusive = true ∧
    ¬(Number.least ≤ outward last.toInt step.toInt ∧ outward last.toInt step.toInt < Number.bound)

/-- An integer that a range from far enough away comes past: before the last bound, or at it if that
is included. -/
def WithinRange (last step : Int) (inclusive : Bool) (n : Int) : Prop :=
  if 0 < step then if inclusive then n ≤ last else n < last
  else if inclusive then last ≤ n else last < n

instance (last step : Int) (inclusive : Bool) (n : Int) :
    Decidable (WithinRange last step inclusive n) := by
  unfold WithinRange
  infer_instance

/-- A step that is not zero leads somewhere. -/
theorem toInt_ne_zero {step : Int64} (h : step ≠ 0) : step.toInt ≠ 0 := by
  intro zero
  exact h (Int64.toInt_inj.mp zero)

/-- Before a bound that was moved outward for an included last bound lies what the range comes
past. -/
theorem before_outward_iff {last step n : Int} (h : step ≠ 0) :
    Before (outward last step) step n ↔ WithinRange last step true n := by
  unfold Before outward WithinRange
  by_cases up : 0 < step
  · simp only [if_pos up, if_true]
    omega
  · simp only [if_neg up, if_true]
    omega

/-- Before an excluded last bound lies what the range comes past. -/
theorem before_last_iff {last step n : Int} (h : step ≠ 0) :
    Before last step n ↔ WithinRange last step false n := by
  unfold Before WithinRange
  by_cases up : 0 < step
  · simp only [if_pos up, Bool.false_eq_true, if_false]
    omega
  · simp only [if_neg up, Bool.false_eq_true, if_false]
    omega

/-- **The items of a range**, or why there are none. -/
theorem rangeItems_cases (first last step : Int64) (inclusive : Bool) :
    (RangeRefused last step inclusive ∧
      ∃ fault, rangeItems first last step inclusive = .error fault ∧
        fault.kind = .runtimeError) ∨
    (¬ RangeRefused last step inclusive ∧ ∃ items : List Int64,
      rangeItems first last step inclusive = .ok (items.map fun n => .int n) ∧
      ∀ k : Nat, items[k]?.map Int64.toInt =
        if WithinRange last.toInt step.toInt inclusive (first.toInt + k * step.toInt)
        then some (first.toInt + k * step.toInt) else none) := by
  by_cases still : step = 0
  · refine .inl ⟨.inl still, Cause.rangeStep.fault, ?_, rfl⟩
    rw [rangeItems, if_pos still]
  have moving := toInt_ne_zero still
  cases inclusive with
  | false =>
    obtain ⟨items, result, terms⟩ := rangeFrom_terms last step #[] first
    refine .inr ⟨by simp [RangeRefused, still], items, ?_, fun k => ?_⟩
    · simp [rangeItems, still, result]
    · simpa only [before_last_iff moving] using terms k
  | true =>
    have moved : (if step.toInt > 0 then last.toInt + 1 else last.toInt - 1) =
        outward last.toInt step.toInt := rfl
    cases fits : Number.checked (outward last.toInt step.toInt) with
    | none =>
      refine .inl ⟨.inr ⟨rfl, Number.checked_eq_none_iff.mp fits⟩, Cause.rangeBound.fault, ?_, rfl⟩
      simp [rangeItems, still, moved, fits]
    | some bound =>
      have value := Number.toInt_of_checked_eq_some fits
      have fitting : ¬ RangeRefused last step true := by
        rintro (zero | ⟨-, unfit⟩)
        · exact still zero
        · rw [Number.checked_eq_none_iff.mpr unfit] at fits
          cases fits
      obtain ⟨items, result, terms⟩ := rangeFrom_terms bound step #[] first
      refine .inr ⟨fitting, items, ?_, fun k => ?_⟩
      · simp [rangeItems, still, moved, fits, result]
      · simpa only [value, before_outward_iff moving] using terms k

/-- **Ranges are exact.** A range is refused with a runtime error exactly when it has no step or
when the integer behind an included last bound is no machine word. Any other range is a new list of
anything that holds, in order, the integers `first + k * step` that do not go past the last bound,
where sums and products are those of the integers. -/
theorem range_exact (first last step : Int64) (inclusive : Bool) (store : Store) :
    (RangeRefused last step inclusive →
      ∃ fault, (Alloc.range first last step inclusive).run store = .error (.fault fault) ∧
        fault.kind = .runtimeError) ∧
    (¬ RangeRefused last step inclusive → ∃ items : List Int64,
      (Alloc.range first last step inclusive).run store =
        .ok (.list store.lists.size,
          { store with lists := store.lists.push ⟨.any, items.map fun n => .int n, []⟩ }) ∧
      ∀ k : Nat, items[k]?.map Int64.toInt =
        if WithinRange last.toInt step.toInt inclusive (first.toInt + k * step.toInt)
        then some (first.toInt + k * step.toInt) else none) := by
  rcases rangeItems_cases first last step inclusive with
    ⟨refused, fault, failed, kind⟩ | ⟨accepted, items, made, terms⟩
  · refine ⟨fun _ => ⟨fault, ?_, kind⟩, fun accepted => absurd refused accepted⟩
    rw [Alloc.range, failed]
    rfl
  · refine ⟨fun refused => absurd refused accepted, fun _ => ⟨items, ?_, terms⟩⟩
    rw [Alloc.range, made]
    rfl

/-- A range whose last step would lead out of the machine words is made, and one that would have to
go past them is refused. -/
theorem range_exact_at_limit :
    (¬ RangeRefused 9223372036854775807 4 false ∧ ∃ items : List Int64,
      (Alloc.range 9223372036854775802 9223372036854775807 4 false).run .empty =
        .ok (.list 0, ⟨#[⟨.any, items.map fun n => .int n, []⟩], #[]⟩)) ∧
    RangeRefused 9223372036854775807 1 true ∧
      ∃ fault, (Alloc.range 0 9223372036854775807 1 true).run .empty = .error (.fault fault) ∧
        fault.kind = .runtimeError := by
  have accepted : ¬ RangeRefused 9223372036854775807 4 false := by
    unfold RangeRefused
    decide
  have refused : RangeRefused 9223372036854775807 1 true := by
    unfold RangeRefused
    decide
  obtain ⟨items, made, -⟩ :=
    (range_exact 9223372036854775802 9223372036854775807 4 false .empty).2 accepted
  exact ⟨⟨accepted, items, made⟩, refused, (range_exact 0 _ 1 true .empty).1 refused⟩

end ReactiveScript
