import Mathlib.Data.Finset.Card
import Mathlib.Data.List.ProdSigma
import ReactiveScript.Value.Reading

/-! # Budgets that are enough

Reading a value and comparing two values get a budget of containers that may be opened inside each
other. A larger budget keeps every answer (`Store.readWithin_succ`, `Store.sameWithin_succ`), and
there is one that finds every answer that any budget finds (`Store.read_eq_some_iff`,
`Store.sameBeside_eq_some_iff`): containers are only so many, and where one more container adds no
answer, no further one does (`answered_of_rounds`). So what gives nothing goes on for ever, and what
gives something obeys the equations of a recursion without a budget (`Store.read_list`,
`Store.sameBeside_list` and their like). -/

namespace ReactiveScript

/-- **Finitely many questions are settled in as many rounds.** Answers stand in later rounds, and a
round without new answers is followed by none. A question that is not `known` is answered in the
first round or never. -/
theorem answered_of_rounds {α : Type} (answered : Nat → α → Prop) (known : List α)
    (keep : ∀ {round question}, answered round question → answered (round + 1) question)
    (outside : ∀ {round question}, question ∉ known → answered round question → answered 1 question)
    (idle : ∀ {round}, (∀ question, answered (round + 1) question → answered round question) →
      ∀ question, answered (round + 2) question → answered (round + 1) question)
    {round : Nat} {question : α} (h : answered round question) :
    answered (known.length + 1) question := by
  classical
  have later {round later : Nat} (le : round ≤ later) {question : α}
      (h : answered round question) : answered later question := by
    induction le with
    | refl => exact h
    | step _ ih => exact keep ih
  let Idle (round : Nat) : Prop := ∀ question, answered (round + 1) question →
    answered round question
  let settled (round : Nat) : Finset α := known.toFinset.filter (answered round)
  -- Until a round is idle, every round settles one more of the known questions.
  have progress : ∀ rounds, (∃ round, round ≤ rounds ∧ Idle round) ∨
      rounds ≤ (settled (rounds + 1)).card := by
    intro rounds
    induction rounds with
    | zero => exact .inr (Nat.zero_le _)
    | succ rounds ih =>
      rcases ih with ⟨round, le, idle⟩ | many
      · exact .inl ⟨round, Nat.le_succ_of_le le, idle⟩
      · by_cases stays : Idle (rounds + 1)
        · exact .inl ⟨_, Nat.le_refl _, stays⟩
        · right
          obtain ⟨question, new, old⟩ : ∃ question, answered (rounds + 2) question ∧
              ¬ answered (rounds + 1) question := by
            by_contra none
            exact stays fun question new => by_contra fun old => none ⟨question, new, old⟩
          have mem : question ∈ known := by
            by_contra foreign
            exact old (later (by omega) (outside foreign new))
          have fewer : settled (rounds + 1) ⊂ settled (rounds + 2) := by
            refine (Finset.ssubset_iff_of_subset fun other mem => ?_).mpr ⟨question, ?_, ?_⟩
            · have both := Finset.mem_filter.mp mem
              exact Finset.mem_filter.mpr ⟨both.1, keep both.2⟩
            · exact Finset.mem_filter.mpr ⟨List.mem_toFinset.mpr mem, new⟩
            · exact fun found => old (Finset.mem_filter.mp found).2
          exact Nat.lt_of_le_of_lt many (Finset.card_lt_card fewer)
  have few (round : Nat) : (settled round).card ≤ known.length :=
    Nat.le_trans (Finset.card_filter_le _ _) (List.toFinset_card_le known)
  obtain ⟨last, le, stays⟩ : ∃ round, round ≤ known.length + 1 ∧ Idle round := by
    rcases progress (known.length + 1) with found | many
    · exact found
    · have := few (known.length + 1 + 1)
      omega
  have idleAfter (more : Nat) : Idle (last + more) := by
    induction more with
    | zero => exact stays
    | succ more ih => exact idle ih
  have back (more : Nat) {question : α} (h : answered (last + more) question) :
      answered last question := by
    induction more with
    | zero => exact h
    | succ more ih => exact ih (idleAfter more question h)
  exact later le (back round (later (Nat.le_add_left _ _) h))

/-- **A search with a budget that finitely many questions settle.** A larger budget keeps what is
found, one that changes nothing is as good as any larger one, and what is not `known` is found
within a budget of one or never. Then there is a budget that finds all that any budget finds. -/
theorem settled_of_rounds {α β : Type} (search : Nat → α → Option β) (known : List α)
    (keep : ∀ {budget question answer}, search budget question = some answer →
      search (budget + 1) question = some answer)
    (outside : ∀ {budget question answer}, question ∉ known →
      search budget question = some answer → search 1 question = some answer)
    (idle : ∀ {budget}, search (budget + 1) = search budget →
      search (budget + 2) = search (budget + 1))
    {enough : Nat} (many : known.length + 1 ≤ enough) {budget : Nat} {question : α} {answer : β}
    (found : search budget question = some answer) : search enough question = some answer := by
  have later {less more : Nat} (le : less ≤ more) {question : α} {answer : β}
      (found : search less question = some answer) : search more question = some answer := by
    induction le with
    | refl => exact found
    | step _ ih => exact keep ih
  -- A larger budget that answers no other question is no better for any question.
  have same {budget : Nat} (nothing : ∀ question, (search (budget + 1) question).isSome = true →
      (search budget question).isSome = true) : search (budget + 1) = search budget := by
    funext question
    cases less : search budget question with
    | some answer => exact keep less
    | none =>
      cases more : search (budget + 1) question with
      | none => rfl
      | some answer =>
        have found := nothing question (Option.isSome_of_mem more)
        rw [less] at found
        cases found
  have settled : (search (known.length + 1) question).isSome = true := by
    refine answered_of_rounds (fun budget question =>
      (search budget question).isSome = true) known ?_ ?_ ?_ (Option.isSome_of_mem found)
    · intro budget question found
      obtain ⟨answer, found⟩ := Option.isSome_iff_exists.mp found
      exact Option.isSome_of_mem (keep found)
    · intro budget question foreign found
      obtain ⟨answer, found⟩ := Option.isSome_iff_exists.mp found
      exact Option.isSome_of_mem (outside foreign found)
    · intro budget nothing question found
      rwa [idle (same nothing)] at found
  obtain ⟨other, found'⟩ := Option.isSome_iff_exists.mp settled
  have one := later (Nat.le_max_left budget enough) found
  have two := later (Nat.le_max_right budget enough) (later many found')
  rw [two] at one
  cases one
  exact later many found'

/-- A budget that finds all that any budget finds is as good as the next one. -/
theorem search_succ_of_settled {α β : Type} (search : Nat → α → Option β) {enough : Nat}
    (keep : ∀ {budget question answer}, search budget question = some answer →
      search (budget + 1) question = some answer)
    (settled : ∀ {budget question answer}, search budget question = some answer →
      search enough question = some answer) : search (enough + 1) = search enough := by
  funext question
  cases found : search enough question with
  | some answer => exact keep found
  | none =>
    cases found' : search (enough + 1) question with
    | none => rfl
    | some answer =>
      rw [settled found'] at found
      cases found

section Partial

variable {α β : Type} {values : List α}

/-- Where every part is the same, so is the whole. -/
theorem mapM_congr {f g : α → Option β} (each : ∀ value ∈ values, f value = g value) :
    values.mapM f = values.mapM g := by
  induction values with
  | nil => rfl
  | cons value values ih =>
    obtain ⟨first, rest⟩ := List.forall_mem_cons.mp each
    rw [List.mapM_cons, List.mapM_cons, first, ih rest]

/-- Where every answer is the same, so is whether all of them are yes. -/
theorem allM_congr {f g : α → Option Bool} (each : ∀ value ∈ values, f value = g value) :
    values.allM f = values.allM g := by
  induction values with
  | nil => rfl
  | cons value values ih =>
    obtain ⟨first, rest⟩ := List.forall_mem_cons.mp each
    rw [List.allM, List.allM, first, ih rest]

/-- Where every answer is the same, so is whether some of them is yes. -/
theorem anyM_congr {f g : α → Option Bool} (each : ∀ value ∈ values, f value = g value) :
    values.anyM f = values.anyM g := by
  induction values with
  | nil => rfl
  | cons value values ih =>
    obtain ⟨first, rest⟩ := List.forall_mem_cons.mp each
    rw [List.anyM, List.anyM, first, ih rest]

/-- Where the whole gives something, so does every part. -/
theorem isSome_of_mapM {f : α → Option β} (whole : (values.mapM f).isSome = true) :
    ∀ value ∈ values, (f value).isSome = true := by
  induction values with
  | nil => simp
  | cons value values ih =>
    rw [List.mapM_cons] at whole
    cases first : f value with
    | none => simp [first] at whole
    | some result =>
      cases rest : values.mapM f with
      | none => simp [first, rest] at whole
      | some results => exact List.forall_mem_cons.mpr ⟨by simp [first], ih (by simp [rest])⟩

/-- Where the parts keep what they give, so does the whole. -/
theorem mapM_of_finer {f g : α → Option β} {results : List β}
    (finer : ∀ value ∈ values, ∀ result, f value = some result → g value = some result)
    (whole : values.mapM f = some results) : values.mapM g = some results := by
  rw [← whole]
  refine mapM_congr fun value mem => ?_
  obtain ⟨result, found⟩ :=
    Option.isSome_iff_exists.mp (isSome_of_mapM (Option.isSome_of_mem whole) value mem)
  rw [found, finer value mem result found]

/-- Where the answers stand, so does whether all of them are yes. -/
theorem allM_of_finer {f g : α → Option Bool} {answer : Bool}
    (finer : ∀ value ∈ values, ∀ answer, f value = some answer → g value = some answer)
    (whole : values.allM f = some answer) : values.allM g = some answer := by
  induction values with
  | nil => exact whole
  | cons value values ih =>
    obtain ⟨first, rest⟩ := List.forall_mem_cons.mp finer
    obtain ⟨yes, found, whole⟩ := Option.bind_eq_some_iff.mp whole
    cases yes <;> simp only [List.allM, first _ found, Option.bind_eq_bind, Option.bind_some]
    · exact whole
    · exact ih rest whole

/-- Where the answers stand, so does whether some of them is yes. -/
theorem anyM_of_finer {f g : α → Option Bool} {answer : Bool}
    (finer : ∀ value ∈ values, ∀ answer, f value = some answer → g value = some answer)
    (whole : values.anyM f = some answer) : values.anyM g = some answer := by
  induction values with
  | nil => exact whole
  | cons value values ih =>
    obtain ⟨first, rest⟩ := List.forall_mem_cons.mp finer
    obtain ⟨yes, found, whole⟩ := Option.bind_eq_some_iff.mp whole
    cases yes <;> simp only [List.anyM, first _ found, Option.bind_eq_bind, Option.bind_some]
    · exact ih rest whole
    · exact whole

end Partial

namespace Store

variable {store : Store} {shut : Option Container} {value left right : Value} {budget : Nat}
variable {handle one other : Handle}

/-! ## Handles that were never given out -/

/-- A list that was never given out reads as an empty list of anything. -/
theorem list_of_unknown (unknown : ¬ handle < store.lists.size) :
    store.list handle = ⟨.any, [], []⟩ := by
  simp [Store.list, Array.getD_eq_getD_getElem?, Nat.le_of_not_lt unknown]

/-- A dictionary that was never given out reads as an empty dictionary of anything. -/
theorem dict_of_unknown (unknown : ¬ handle < store.dicts.size) :
    store.dict handle = ⟨.any, .any, [], []⟩ := by
  simp [Store.dict, Array.getD_eq_getD_getElem?, Nat.le_of_not_lt unknown]

/-! ## Reading -/

/-- One more of a budget opens a list. -/
theorem readWithin_list (store : Store) (budget : Nat) (handle : Handle) :
    store.readWithin (budget + 1) (.list handle) = do
      let items ← (store.list handle).items.mapM (store.readWithin budget)
      return .list handle (store.list handle).element items :=
  rfl

/-- One more of a budget opens a dictionary. -/
theorem readWithin_dict (store : Store) (budget : Nat) (handle : Handle) :
    store.readWithin (budget + 1) (.dict handle) = do
      let entries ← (store.dict handle).entries.mapM (readEntry (store.readWithin budget))
      return .dict handle (store.dict handle).key (store.dict handle).value entries :=
  rfl

/-- The trees of a key and of a value are kept if both are. -/
theorem readEntry_of_finer {read read' : Value → Option Datum} {entry : Value × Value}
    {trees : Datum × Datum} (finer : ∀ value tree, read value = some tree → read' value = some tree)
    (found : readEntry read entry = some trees) : readEntry read' entry = some trees := by
  obtain ⟨key, foundKey, found⟩ := Option.bind_eq_some_iff.mp found
  obtain ⟨value, foundValue, found⟩ := Option.bind_eq_some_iff.mp found
  simp only [readEntry, finer _ _ foundKey, finer _ _ foundValue, Option.bind_eq_bind,
    Option.bind_some]
  exact found

/-- **A larger budget keeps what is read.** -/
theorem readWithin_succ {tree : Datum} (found : store.readWithin budget value = some tree) :
    store.readWithin (budget + 1) value = some tree := by
  induction budget generalizing value tree with
  | zero => cases value <;> first | exact found | cases found
  | succ budget ih =>
    cases value with
    | list handle =>
      obtain ⟨items, read, found⟩ := Option.bind_eq_some_iff.mp found
      rw [readWithin_list, mapM_of_finer (fun _ _ _ found => ih found) read]
      exact found
    | dict handle =>
      obtain ⟨entries, read, found⟩ := Option.bind_eq_some_iff.mp found
      rw [readWithin_dict, mapM_of_finer
        (fun _ _ _ found => readEntry_of_finer (fun _ _ found => ih found) found) read]
      exact found
    | _ => exact found

/-- The values that the containers of a store are. -/
def containerValues (store : Store) : List Value :=
  (List.range store.lists.size).map .list ++ (List.range store.dicts.size).map .dict

theorem length_containerValues (store : Store) : store.containerValues.length = store.size := by
  simp [containerValues, size]

/-- What is no container that was given out is read within a budget of one, or not at all. -/
theorem readWithin_one {tree : Datum} (foreign : value ∉ store.containerValues)
    (found : store.readWithin budget value = some tree) : store.readWithin 1 value = some tree := by
  cases value with
  | list handle =>
    have unknown : ¬ handle < store.lists.size := by simpa [containerValues] using foreign
    cases budget with
    | zero => cases found
    | succ budget => simpa [readWithin_list, list_of_unknown unknown] using found
  | dict handle =>
    have unknown : ¬ handle < store.dicts.size := by simpa [containerValues] using foreign
    cases budget with
    | zero => cases found
    | succ budget => simpa [readWithin_dict, dict_of_unknown unknown] using found
  | _ => cases budget <;> exact found

/-- A budget that is as good as one more is as good as two more. -/
theorem readWithin_idle (same : store.readWithin (budget + 1) = store.readWithin budget) :
    store.readWithin (budget + 2) = store.readWithin (budget + 1) := by
  funext value
  cases value with
  | list handle => rw [readWithin_list, readWithin_list, same]
  | dict handle => rw [readWithin_dict, readWithin_dict, same]
  | _ => rfl

/-- **A value is read to its end exactly if some budget is enough**, and as that budget reads it. -/
theorem read_eq_some_iff {tree : Datum} :
    store.read value = some tree ↔ ∃ budget, store.readWithin budget value = some tree := by
  refine ⟨fun found => ⟨_, found⟩, fun ⟨budget, found⟩ => ?_⟩
  exact settled_of_rounds store.readWithin store.containerValues readWithin_succ readWithin_one
    readWithin_idle (by rw [length_containerValues]) found

/-- One more of a budget that is enough reads the same. -/
theorem readWithin_enough (store : Store) : store.readWithin (store.size + 2) = store.read :=
  search_succ_of_settled store.readWithin readWithin_succ
    fun found => read_eq_some_iff.mpr ⟨_, found⟩

/-- **A list is read item by item.** -/
theorem read_list (store : Store) (handle : Handle) :
    store.read (.list handle) = do
      let items ← (store.list handle).items.mapM store.read
      return .list handle (store.list handle).element items := by
  have step := congrFun (readWithin_enough store) (.list handle)
  exact step.symm.trans (readWithin_list store _ handle)

/-- **A dictionary is read entry by entry.** -/
theorem read_dict (store : Store) (handle : Handle) :
    store.read (.dict handle) = do
      let entries ← (store.dict handle).entries.mapM (readEntry store.read)
      return .dict handle (store.dict handle).key (store.dict handle).value entries := by
  have step := congrFun (readWithin_enough store) (.dict handle)
  exact step.symm.trans (readWithin_dict store _ handle)

/-! ## Comparing -/

/-- One more of a budget opens two lists. -/
theorem sameWithin_list (store : Store) (shut : Option Container) (budget : Nat)
    (one other : Handle) :
    store.sameWithin shut (budget + 1) (.list one) (.list other) =
      if one = other then some true
      else if shut = some (.list one) ∨ shut = some (.list other) then none
      else if (store.list one).items.length = (store.list other).items.length then
        ((store.list one).items.zip (store.list other).items).allM fun pair =>
          store.sameWithin shut budget pair.1 pair.2
      else some false :=
  rfl

/-- One more of a budget opens two dictionaries. -/
theorem sameWithin_dict (store : Store) (shut : Option Container) (budget : Nat)
    (one other : Handle) :
    store.sameWithin shut (budget + 1) (.dict one) (.dict other) =
      if one = other then some true
      else if shut = some (.dict one) ∨ shut = some (.dict other) then none
      else if (store.dict one).entries.length = (store.dict other).entries.length then
        (store.dict one).entries.allM fun entry =>
          (store.dict other).entries.anyM (sameEntry (store.sameWithin shut budget) entry)
      else some false :=
  rfl

/-- What is told about keys and values is told about entries. -/
theorem sameEntry_of_finer {same same' : Value → Value → Option Bool}
    {entry candidate : Value × Value} {answer : Bool}
    (finer : ∀ {left right answer}, same left right = some answer →
      same' left right = some answer)
    (told : sameEntry same entry candidate = some answer) :
    sameEntry same' entry candidate = some answer := by
  obtain ⟨yes, compared, told⟩ := Option.bind_eq_some_iff.mp told
  rw [sameEntry, finer compared, Option.bind_eq_bind, Option.bind_some]
  cases yes with
  | true => exact finer told
  | false => exact told

/-- What is told about all values with less, is told with one more of each budget, and with nothing
shut that was open. -/
theorem sameWithin_of_finer {shut' : Option Container} {budget' : Nat} {answer : Bool}
    (opens : ∀ container, shut' = some container → shut = some container)
    (finer : ∀ {left right answer}, store.sameWithin shut budget left right = some answer →
      store.sameWithin shut' budget' left right = some answer)
    (told : store.sameWithin shut (budget + 1) left right = some answer) :
    store.sameWithin shut' (budget' + 1) left right = some answer := by
  cases left with
  | list one =>
    cases right with
    | list other =>
      rw [sameWithin_list] at told ⊢
      split
      · rwa [if_pos ‹_›] at told
      · rw [if_neg ‹_›] at told
        split at told
        · cases told
        · -- Neither list is shut with less, so neither is with more.
          rename_i open'
          rw [if_neg fun closed => open' (closed.imp (opens _) (opens _))]
          split
          · rw [if_pos ‹_›] at told
            exact allM_of_finer (fun _ _ _ told => finer told) told
          · rwa [if_neg ‹_›] at told
    | _ => exact told
  | dict one =>
    cases right with
    | dict other =>
      rw [sameWithin_dict] at told ⊢
      split
      · rwa [if_pos ‹_›] at told
      · rw [if_neg ‹_›] at told
        split at told
        · cases told
        · -- The same for dictionaries, and through them for each pair of entries.
          rename_i open'
          rw [if_neg fun closed => open' (closed.imp (opens _) (opens _))]
          split
          · rw [if_pos ‹_›] at told
            exact allM_of_finer (fun _ _ _ told =>
              anyM_of_finer (fun _ _ _ told => sameEntry_of_finer finer told) told) told
          · rwa [if_neg ‹_›] at told
    | _ => exact told
  | _ => cases right <;> exact told

/-- **A larger budget keeps what is told.** -/
theorem sameWithin_succ {answer : Bool}
    (told : store.sameWithin shut budget left right = some answer) :
    store.sameWithin shut (budget + 1) left right = some answer := by
  induction budget generalizing left right answer with
  | zero =>
    -- With nothing left a container is only found to be the same as itself.
    cases left <;> cases right <;> try exact told
    all_goals
      replace told := Option.ite_none_right_eq_some.mp told
      exact (if_pos told.1).trans told.2
  | succ budget ih => exact sameWithin_of_finer (fun _ same => same) ih told

/-- Comparing while a container is shut tells nothing else than comparing while none is. -/
theorem sameWithin_none {answer : Bool}
    (told : store.sameWithin shut budget left right = some answer) :
    store.sameWithin none budget left right = some answer := by
  induction budget generalizing left right answer with
  | zero => cases left <;> cases right <;> exact told
  | succ budget ih => exact sameWithin_of_finer (fun _ same => nomatch same) ih told

/-- A budget that is as good as one more is as good as two more. -/
theorem sameWithin_idle
    (same : store.sameWithin shut (budget + 1) = store.sameWithin shut budget) :
    store.sameWithin shut (budget + 2) = store.sameWithin shut (budget + 1) := by
  funext left right
  cases left with
  | list one =>
    cases right with
    | list other => rw [sameWithin_list, sameWithin_list, same]
    | _ => rfl
  | dict one =>
    cases right with
    | dict other => rw [sameWithin_dict, sameWithin_dict, same]
    | _ => rfl
  | _ => cases right <;> rfl

/-- Whether the values of a pair are the same. -/
def samePairWithin (store : Store) (shut : Option Container) (budget : Nat)
    (pair : Value × Value) : Option Bool := store.sameWithin shut budget pair.1 pair.2

theorem samePairWithin_succ {pair : Value × Value} {answer : Bool}
    (found : store.samePairWithin shut budget pair = some answer) :
    store.samePairWithin shut (budget + 1) pair = some answer := sameWithin_succ found

/-- The pairs of containers of one kind, as values. -/
def containerPairs (store : Store) : List (Value × Value) :=
  (List.range store.lists.size ×ˢ List.range store.lists.size).map
      (fun pair => (.list pair.1, .list pair.2)) ++
    (List.range store.dicts.size ×ˢ List.range store.dicts.size).map
      fun pair => (.dict pair.1, .dict pair.2)

theorem length_containerPairs_le (store : Store) :
    store.containerPairs.length ≤ store.size * store.size := by
  have squares : store.containerPairs.length =
      store.lists.size * store.lists.size + store.dicts.size * store.dicts.size := by
    simp [containerPairs, List.length_product]
  rw [squares, size, Nat.add_mul, Nat.mul_add, Nat.mul_add]
  omega

/-- What are not two containers of one kind that were given out is compared within a budget of one,
or not at all. -/
theorem sameWithin_one {answer : Bool} (foreign : (left, right) ∉ store.containerPairs)
    (found : store.sameWithin shut budget left right = some answer) :
    store.sameWithin shut 1 left right = some answer := by
  cases budget with
  | zero => exact sameWithin_succ found
  | succ budget =>
    -- Of two containers of one kind one reads as empty, so that nothing is compared inside them.
    cases left with
    | list one =>
      cases right with
      | list other =>
        have unknown : ¬ one < store.lists.size ∨ ¬ other < store.lists.size := by
          simpa [containerPairs, or_iff_not_imp_left] using foreign
        rcases unknown with unknown | unknown <;>
          simpa [sameWithin_list, list_of_unknown unknown] using found
      | _ => exact found
    | dict one =>
      cases right with
      | dict other =>
        have unknown : ¬ one < store.dicts.size ∨ ¬ other < store.dicts.size := by
          simpa [containerPairs, or_iff_not_imp_left] using foreign
        rcases unknown with unknown | unknown <;>
          simpa [sameWithin_dict, dict_of_unknown unknown] using found
      | _ => exact found
    | _ => cases right <;> exact found

/-- **Two values are compared to the end exactly if some budget is enough**, and as that budget
compares them. -/
theorem sameBeside_eq_some_iff {answer : Bool} :
    store.sameBeside shut left right = some answer ↔
      ∃ budget, store.sameWithin shut budget left right = some answer := by
  refine ⟨fun found => ⟨_, found⟩, fun ⟨budget, found⟩ => ?_⟩
  have given : store.samePairWithin shut budget (left, right) = some answer := found
  refine settled_of_rounds (store.samePairWithin shut) store.containerPairs samePairWithin_succ
    sameWithin_one (fun idle => ?_) (Nat.succ_le_succ (length_containerPairs_le store)) given
  funext pair
  have same := sameWithin_idle (funext fun one => funext fun other => congrFun idle (one, other))
  exact congrFun (congrFun same pair.1) pair.2

/-- **What is told while a container is shut is told while none is.** -/
theorem same_of_sameBeside {answer : Bool} (told : store.sameBeside shut left right = some answer) :
    store.same left right = some answer := sameWithin_none told

/-- One more of a budget that is enough tells the same. -/
theorem sameWithin_enough (store : Store) (shut : Option Container) :
    store.sameWithin shut (store.size * store.size + 2) = store.sameBeside shut := by
  have same := search_succ_of_settled (store.samePairWithin shut) samePairWithin_succ
    fun found => sameBeside_eq_some_iff.mpr ⟨_, found⟩
  exact funext fun one => funext fun other => congrFun same (one, other)

/-- **Two lists are compared item by item**, unless they are one list or one of them is shut. -/
theorem sameBeside_list (store : Store) (shut : Option Container) (one other : Handle) :
    store.sameBeside shut (.list one) (.list other) =
      if one = other then some true
      else if shut = some (.list one) ∨ shut = some (.list other) then none
      else if (store.list one).items.length = (store.list other).items.length then
        ((store.list one).items.zip (store.list other).items).allM fun pair =>
          store.sameBeside shut pair.1 pair.2
      else some false := by
  have step := congrFun (congrFun (sameWithin_enough store shut) (.list one)) (.list other)
  exact step.symm.trans (sameWithin_list store shut _ one other)

/-- **Two dictionaries are compared entry by entry**, unless they are one dictionary or one of them
is shut. -/
theorem sameBeside_dict (store : Store) (shut : Option Container) (one other : Handle) :
    store.sameBeside shut (.dict one) (.dict other) =
      if one = other then some true
      else if shut = some (.dict one) ∨ shut = some (.dict other) then none
      else if (store.dict one).entries.length = (store.dict other).entries.length then
        (store.dict one).entries.allM fun entry =>
          (store.dict other).entries.anyM (sameEntry (store.sameBeside shut) entry)
      else some false := by
  have step := congrFun (congrFun (sameWithin_enough store shut) (.dict one)) (.dict other)
  exact step.symm.trans (sameWithin_dict store shut _ one other)

end Store

end ReactiveScript
