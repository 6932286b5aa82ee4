import ReactiveScript.Proofs.Evaluation.Discipline

/-! # Built-in functions under a discipline

Every built-in function is put together from quiet evaluations and operations on containers, so a
call of one obeys every discipline; `Discipline.native` is the statement for all of them. -/

namespace ReactiveScript

open Eval

namespace Call

/-- A demanded argument is one of the arguments. -/
theorem mem_of_argument {call : Call} {place : Nat} {value : Value}
    (h : call.argument place = .ok value) : value ∈ call.arguments := by
  unfold argument at h
  split at h
  · rename_i found same
    cases h
    exact List.mem_of_getElem? same
  · cases h

/-- An argument that is demanded as something was read as that. -/
theorem demand_eq_ok {α : Type} {call : Call} {kind : String} {read : Value → Option α}
    {place : Nat} {result : α} (h : call.demand kind read place = .ok result) :
    ∃ value ∈ call.arguments, read value = some result := by
  unfold demand at h
  obtain ⟨value, found, h⟩ := exists_of_bind_eq_ok h
  split at h
  · rename_i known same
    cases h
    exact ⟨value, mem_of_argument found, same⟩
  · cases h

/-- A demanded list is one of the arguments. -/
theorem mem_of_list {call : Call} {place : Nat} {handle : Handle}
    (h : call.list place = .ok handle) : Value.list handle ∈ call.arguments := by
  obtain ⟨value, mem, same⟩ := demand_eq_ok h
  split at same
  · cases same
    exact mem
  · cases same

/-- A demanded dictionary is one of the arguments. -/
theorem mem_of_dict {call : Call} {place : Nat} {handle : Handle}
    (h : call.dict place = .ok handle) : Value.dict handle ∈ call.arguments := by
  obtain ⟨value, mem, same⟩ := demand_eq_ok h
  split at same
  · cases same
    exact mem
  · cases same

end Call

/-- The best of some values is one of them, or the best before. -/
theorem mem_of_bestFrom {name : String} {better : Float → Float → Bool} {value : Value} :
    ∀ {values : List Value} {best : Float × Value}, bestFrom name better best values = .ok value →
      value = best.2 ∨ value ∈ values
  | [], best, h => by
    cases h
    exact .inl rfl
  | first :: rest, best, h => by
    unfold bestFrom at h
    split at h
    · cases h
    · rcases mem_of_bestFrom h with same | mem
      · split at same
        · exact .inr (same ▸ List.mem_cons_self)
        · exact .inl same
      · exact .inr (List.mem_cons_of_mem _ mem)

/-- The best of some values is one of them. -/
theorem mem_of_bestOf {name : String} {better : Float → Float → Bool} {value : Value}
    {values : List Value} (h : bestOf name better values = .ok value) : value ∈ values := by
  unfold bestOf at h
  split at h
  · cases h
  · split at h
    · cases h
    · rcases mem_of_bestFrom h with rfl | mem
      · exact List.mem_cons_self
      · exact List.mem_cons_of_mem _ mem

/-- The magnitude of a value is a number. -/
theorem isPlain_of_magnitude {value result : Value} (h : magnitude value = .ok result) :
    result.isPlain = true := by
  cases value with
  | int n =>
    rw [magnitude] at h
    exact Value.isPlain_of_intOr h
  | float x =>
    cases h
    rfl
  | complex re im =>
    cases h
    rfl
  | _ => cases h

namespace Call

/-- A square root is a number. -/
theorem isPlain_of_root {call : Call} {result : Value} (h : call.root = .ok result) :
    result.isPlain = true := by
  obtain ⟨_, _, h⟩ := exists_of_bind_eq_ok h
  obtain ⟨x, _, h⟩ := exists_of_bind_eq_ok h
  split at h
  · cases h
  · cases h
    rfl

/-- A power is a number. -/
theorem isPlain_of_power {call : Call} {result : Value} (h : call.power = .ok result) :
    result.isPlain = true := by
  obtain ⟨_, _, h⟩ := exists_of_bind_eq_ok h
  obtain ⟨base, _, h⟩ := exists_of_bind_eq_ok h
  obtain ⟨exponent, _, h⟩ := exists_of_bind_eq_ok h
  split at h
  · split at h
    · rw [integerPower] at h
      exact Value.isPlain_of_intOr h
    · cases h
      rfl
  · obtain ⟨_, _, h⟩ := exists_of_bind_eq_ok h
    obtain ⟨_, _, h⟩ := exists_of_bind_eq_ok h
    cases h
    rfl

/-- A rounded number is a number. -/
theorem isPlain_of_rounded {call : Call} {round : Float → Float} {result : Value}
    (h : call.rounded round = .ok result) : result.isPlain = true := by
  obtain ⟨_, _, h⟩ := exists_of_bind_eq_ok h
  obtain ⟨value, _, h⟩ := exists_of_bind_eq_ok h
  split at h
  · cases h
    rfl
  · obtain ⟨_, _, h⟩ := exists_of_bind_eq_ok h
    obtain ⟨_, _, h⟩ := exists_of_bind_eq_ok h
    cases h
    rfl

/-- A changed text is a text. -/
theorem isPlain_of_changed {call : Call} {change : String → String} {result : Value}
    (h : call.changed change = .ok result) : result.isPlain = true := by
  obtain ⟨_, _, h⟩ := exists_of_bind_eq_ok h
  obtain ⟨_, _, h⟩ := exists_of_bind_eq_ok h
  cases h
  rfl

end Call

/-- A new list of pieces is a new list of the texts that they are. -/
theorem Alloc.texts_eq (pieces : List (List Char)) :
    Alloc.texts pieces = Alloc.newList .text ((pieces.map String.ofList).map .text) := by
  rw [List.map_map]
  rfl

namespace Discipline

variable (D : Discipline) {machine : Machine} {call : Call}

/-- The functions that talk to the outside. -/
theorem console (function : ConsoleFunction) (good : D.Good machine) :
    D.Evaluates (Eval.console function call) machine := by
  have calm := D.calm_refl good
  cases function with
  | print => exact D.quietlyPlain good (print_quiet call machine)
  | input => exact D.quietlyPlain good (input_quiet call machine)
  | read =>
    refine Keeps.ofExcept_bind calm fun _ _ => Keeps.ofExcept_bind calm fun path _ => ?_
    exact D.quietlyPlain good ((readFile_quiet path machine).plain fun _ => rfl)
  | write =>
    refine Keeps.ofExcept_bind calm fun _ _ => Keeps.ofExcept_bind calm fun path _ => ?_
    refine Keeps.ofExcept_bind calm fun value _ => Keeps.looking_bind calm fun text _ => ?_
    exact D.quietlyPlain good ((writeFile_quiet path _ machine).plain fun _ => rfl)
  | args => exact Keeps.get (D.operation good (.texts _) (by simp))
  | sleep =>
    refine Keeps.ofExcept_bind calm fun _ _ => Keeps.ofExcept_bind calm fun seconds _ => ?_
    exact D.quietlyPlain good ((pause_quiet seconds machine).plain fun _ => rfl)

/-- The functions on containers and scopes. A change of a container tells the watches, which is
quiet. -/
theorem collection (function : CollectionFunction) (good : D.Good machine)
    (fair : ∀ value ∈ call.arguments, D.Fair machine.store value) :
    D.Evaluates (Eval.collection function call) machine := by
  have calm := D.calm_refl good
  cases function with
  | type =>
    refine Keeps.ofExcept_bind calm fun _ _ => Keeps.ofExcept_bind calm fun value _ => ?_
    exact Keeps.get (D.plain good rfl)
  | length =>
    refine Keeps.ofExcept_bind calm fun _ _ => Keeps.ofExcept_bind calm fun value _ => ?_
    exact Keeps.reading_bind calm fun _ _ => D.plain good rfl
  | append =>
    refine Keeps.ofExcept_bind calm fun _ _ => Keeps.ofExcept_bind calm fun handle list => ?_
    refine Keeps.ofExcept_bind calm fun item found => ?_
    -- Both operands are arguments, and so were at hand before the call.
    have operands := D.fair_two (fair _ (Call.mem_of_list list))
      (fair _ (Call.mem_of_argument found))
    refine Keeps.bind D.calm_trans (D.operate good (.listPush handle item) operands) ?_
    intro after _ reached _
    have told := D.calm_of_quiet (D.good_of_calm reached)
      (after.notifyContainer_quiet (.list handle))
    exact Keeps.change_bind D.calm_trans told (D.plain (D.good_of_calm told) rfl)
  | remove =>
    refine Keeps.ofExcept_bind calm fun _ _ => Keeps.ofExcept_bind calm fun container first => ?_
    refine Keeps.ofExcept_bind calm fun value second => ?_
    have operands := D.fair_two (fair _ (Call.mem_of_argument first))
      (fair _ (Call.mem_of_argument second))
    refine Keeps.bind D.calm_trans (D.operate good (.remove container value) operands) ?_
    intro after removed reached given
    have told := D.calm_of_quiet (D.good_of_calm reached) (after.notifyContainer_quiet container)
    refine Keeps.change_bind D.calm_trans told ?_
    have given := given removed (List.mem_singleton.mpr rfl)
    exact Keeps.pure (D.calm_refl (D.good_of_calm told)) (D.fair_of_calm told given)
  | contains =>
    refine Keeps.ofExcept_bind calm fun _ _ => Keeps.ofExcept_bind calm fun value second => ?_
    refine Keeps.ofExcept_bind calm fun container first => ?_
    have operands := D.fair_two (fair _ (Call.mem_of_argument first))
      (fair _ (Call.mem_of_argument second))
    refine Keeps.bind D.calm_trans (D.operate good (.make (.contains container value)) operands) ?_
    exact fun _ _ reached _ => D.plain (D.good_of_calm reached) rfl
  | keys =>
    refine Keeps.ofExcept_bind calm fun _ _ => Keeps.get ?_
    refine Keeps.ofExcept_bind calm fun handle found => ?_
    exact D.operation good (.keys handle) (D.fair_one (fair _ (Call.mem_of_dict found)))
  | values =>
    refine Keeps.ofExcept_bind calm fun _ _ => Keeps.get ?_
    refine Keeps.ofExcept_bind calm fun handle found => ?_
    exact D.operation good (.values handle) (D.fair_one (fair _ (Call.mem_of_dict found)))
  | sort =>
    refine Keeps.ofExcept_bind calm fun _ _ => Keeps.get ?_
    refine Keeps.ofExcept_bind calm fun handle found => ?_
    refine Keeps.ofExcept_bind calm fun items sorted => ?_
    exact D.operation good (.sort handle sorted) (D.fair_one (fair _ (Call.mem_of_list found)))
  | slice =>
    refine Keeps.ofExcept_bind calm fun _ _ => Keeps.ofExcept_bind calm fun first _ => ?_
    refine Keeps.ofExcept_bind calm fun last _ => Keeps.ofExcept_bind calm fun sequence found => ?_
    exact D.operation good (.slice sequence first last)
      (D.fair_one (fair _ (Call.mem_of_argument found)))
  | localScope => exact Keeps.get (D.operation good .localScope (by simp))
  | globalScope => exact Keeps.get (D.operation good .globalScope (by simp))

/-- The best of some values that may be at hand. -/
theorem best {better : Float → Float → Bool} (good : D.Good machine)
    (fair : ∀ value ∈ call.arguments, D.Fair machine.store value) :
    D.Evaluates (Eval.reading fun machine =>
      bestOf call.name better (candidates machine.store call.arguments)) machine := by
  refine Keeps.reading (D.calm_refl good) fun value found => ?_
  have mem := mem_of_bestOf found
  unfold candidates at mem
  -- A list that is the only argument stands for its items.
  split at mem
  · rename_i handle alone
    have container := fair (.list handle) (by rw [alone]; exact List.mem_singleton.mpr rfl)
    exact D.fair_of_mem_itemsIn good container mem
  · exact fair value mem

/-- The functions on numbers. -/
theorem math (function : MathFunction) (good : D.Good machine)
    (fair : ∀ value ∈ call.arguments, D.Fair machine.store value) :
    D.Evaluates (Eval.math function call) machine := by
  have calm := D.calm_refl good
  cases function with
  | pi => exact D.plain good rfl
  | sqrt => exact D.plainOutcome good fun _ => Call.isPlain_of_root
  | pow => exact D.plainOutcome good fun _ => Call.isPlain_of_power
  | abs =>
    refine Keeps.ofExcept_bind calm fun _ _ => Keeps.ofExcept_bind calm fun value _ => ?_
    exact D.plainOutcome good fun _ => isPlain_of_magnitude
  | floor | ceil | round => exact D.plainOutcome good fun _ => Call.isPlain_of_rounded
  | min | max => exact D.best good fair
  | random => exact D.quietlyPlain good ((randomWord_quiet machine).plain fun _ => rfl)
  | randomInt =>
    refine Keeps.ofExcept_bind calm fun _ _ => Keeps.ofExcept_bind calm fun low _ => ?_
    refine Keeps.ofExcept_bind calm fun high _ => ?_
    split
    · exact Keeps.fail calm
    · exact D.quietlyPlain good ((randomWord_quiet machine).plain fun _ => rfl)

/-- The functions between values and documents. -/
theorem document (function : DocumentFunction) (good : D.Good machine) :
    D.Evaluates (Eval.document function call) machine := by
  have calm := D.calm_refl good
  cases function with
  | toJson =>
    refine Keeps.ofExcept_bind calm fun _ _ => Keeps.ofExcept_bind calm fun value _ => ?_
    exact Keeps.looking_bind calm fun _ _ => D.plain good rfl
  | fromJson =>
    refine Keeps.ofExcept_bind calm fun _ _ => Keeps.ofExcept_bind calm fun text _ => ?_
    exact D.operation good (.document text) (by simp)
  | readJson =>
    refine Keeps.ofExcept_bind calm fun _ _ => Keeps.ofExcept_bind calm fun path _ => ?_
    refine Keeps.bind D.calm_trans (D.quietly good (readFile_quiet path machine)) ?_
    intro after text reached _
    exact D.operation (D.good_of_calm reached) (.document text) (by simp)
  | writeJson =>
    refine Keeps.ofExcept_bind calm fun _ _ => Keeps.ofExcept_bind calm fun path _ => ?_
    refine Keeps.ofExcept_bind calm fun value _ => Keeps.looking_bind calm fun document _ => ?_
    exact D.quietlyPlain good ((writeFile_quiet path _ machine).plain fun _ => rfl)

/-- A new list of texts. -/
theorem texts (pieces : List (List Char)) (good : D.Good machine) :
    D.Evaluates (Eval.alloc (Alloc.texts pieces)) machine := by
  rw [Alloc.texts_eq]
  exact D.operation good (.texts _) (by simp)

/-- The functions on texts. -/
theorem text (function : TextFunction) (good : D.Good machine) :
    D.Evaluates (Eval.text function call) machine := by
  have calm := D.calm_refl good
  cases function with
  | «matches» =>
    refine Keeps.ofExcept_bind calm fun _ _ => Keeps.ofExcept_bind calm fun pattern _ => ?_
    exact Keeps.ofExcept_bind calm fun whole _ => D.plain good rfl
  | findAll =>
    refine Keeps.ofExcept_bind calm fun _ _ => Keeps.ofExcept_bind calm fun pattern _ => ?_
    exact Keeps.ofExcept_bind calm fun whole _ => D.texts _ good
  | replace =>
    refine Keeps.ofExcept_bind calm fun _ _ => Keeps.ofExcept_bind calm fun pattern _ => ?_
    refine Keeps.ofExcept_bind calm fun whole _ => Keeps.ofExcept_bind calm fun inserted _ => ?_
    exact D.plain good rfl
  | split => exact Keeps.ofExcept_bind calm fun pieces _ => D.texts pieces good
  | join =>
    refine Keeps.ofExcept_bind calm fun _ _ => Keeps.ofExcept_bind calm fun handle _ => ?_
    refine Keeps.ofExcept_bind calm fun separator _ => ?_
    exact Keeps.looking_bind calm fun _ _ => D.plain good rfl
  | upper | lower | trim => exact D.plainOutcome good fun _ => Call.isPlain_of_changed

/-- The functions that read the clock. -/
theorem clock (function : ClockFunction) (good : D.Good machine) :
    D.Evaluates (Eval.clock function call) machine := by
  have calm := D.calm_refl good
  cases function with
  | now | timestamp => exact Keeps.get (D.plain good rfl)
  | elapsed =>
    refine Keeps.get (Keeps.ofExcept_bind calm fun _ _ => ?_)
    exact Keeps.ofExcept_bind calm fun since _ => D.plain good rfl

/-- **Every built-in function obeys every discipline.** The machine where the function was looked up
is an earlier one: its arguments are evaluated in between. -/
theorem native {earlier : Machine} {name : String} {native : Native} {settle : Eval Unit}
    (found : earlier.natives.find? name = some native) (known : D.Good earlier)
    (waits : settle.Keeps D.Busy machine fun _ _ => True) (good : D.Good machine)
    (fair : ∀ value ∈ call.arguments, D.Fair machine.store value) :
    D.Evaluates (Eval.native settle native call) machine := by
  cases native with
  | console function => exact D.console function good
  | collection function => exact D.collection function good fair
  | math function => exact D.math function good fair
  | document function => exact D.document function good
  | text function => exact D.text function good
  | clock function => exact D.clock function good
  | settle =>
    -- Here statements of handlers run inside an expression, so the discipline has to allow it.
    have calm : settle.Keeps D.Calm machine fun _ _ => True :=
      waits.mono (D.calm_of_settle known found) fun _ _ => trivial
    exact Keeps.bind D.calm_trans calm fun _ _ reached _ => D.plain (D.good_of_calm reached) rfl
  | host run => exact D.host known found good fair

end Discipline

end ReactiveScript
