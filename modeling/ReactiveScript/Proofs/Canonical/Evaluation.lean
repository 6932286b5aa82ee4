import ReactiveScript.Machine.Run
import ReactiveScript.Proofs.Canonical.Words
import ReactiveScript.Proofs.Conversion.Operation
import ReactiveScript.Proofs.Evaluation.Program
import ReactiveScript.Proofs.Grammar.Statement

/-! # Canonical text is evaluated to its value

The canonical text of a value, with a semicolon behind it, is a program of one statement: an
expression that builds the value anew. What is handed on from the parts of the expression to the
whole is that its evaluation `Gives` certain contents. The main statement is `source_inner`. -/

namespace ReactiveScript

/-! ## Evaluations that give contents -/

namespace Eval

/-- **An evaluation that gives some contents**: on every machine that is running it returns a value
with these contents, for which it adds containers to the store, and the machine is still running. -/
def Gives (action : Eval Value) (contents : Datum) : Prop :=
  ∀ machine : Machine, machine.running = true → ∃ value after, action machine = .ok value after ∧
    after.running = true ∧ machine.store.Adds after.store value contents

variable {run : Runner} {rounds : Nat} {machine after : Machine} {contents : Datum}

/-- What an evaluation returns on the machine at a place, it returns at that place of the program.
-/
theorem located_eq_of_ok {α : Type} {span : Span} {idle value : α} {action : Eval α}
    (running : machine.running = true) (ran : action (movedTo machine span) = .ok value after) :
    located span idle action machine = .ok value after := by
  rw [located_of_running running, blaming, ran]

/-- An evaluation gives the same at a place of the program. -/
theorem Gives.located {action : Eval Value} (gives : Gives action contents) (span : Span) :
    Gives (located span .void action) contents := by
  intro machine running
  obtain ⟨value, after, ran, still, added⟩ := gives (movedTo machine span) running
  exact ⟨value, after, located_eq_of_ok running ran, still, added⟩

/-- A literal gives its value. -/
theorem gives_literal (span : Span) {literal : Literal}
    (shows : ∀ store : Store, store.contents literal.value = contents) :
    Gives (expr run rounds (.literal span literal)) contents := by
  rw [expr]
  refine Gives.located (fun machine running => ?_) span
  refine ⟨literal.value, machine, rfl, running, .refl _, ?_, shows _⟩
  exact Store.whole_of_isPlain _ (by cases literal <;> rfl)

/-- The negative of a literal gives the integer, if the negative does not overflow. -/
theorem gives_negated (span place : Span) {n : Int64} (least : Number.least < n.toInt) :
    Gives (expr run rounds (.unary span .negate (.literal place (.int (-n))))) (.int n) := by
  have negated (store : Store) : Value.unary store .negate (.int (-n)) = .ok (.int n) := by
    rw [Value.unary, Number.toInt_neg least, Int.neg_neg, Number.checked_toInt]
    rfl
  rw [expr]
  refine Gives.located (fun machine running => ?_) span
  have operand : expr run rounds (.literal place (.int (-n))) machine =
      .ok (.int (-n)) (movedTo machine place) := by
    rw [expr]
    exact located_eq_of_ok running rfl
  refine ⟨.int n, movedTo machine place, ?_, running, .refl (Store.whole_of_isPlain _ rfl)⟩
  simp only [Bind.bind, EStateM.bind, operand]
  change ofExcept (Value.unary machine.store .negate (.int (-n))) (movedTo machine place) = _
  rw [negated]
  rfl

/-- **Expressions that give contents**, one after the other. -/
theorem exprs_gives {items : List Expr} {trees : List Datum}
    (each : List.Forall₂ (fun item tree => Gives (expr run rounds item) tree) items trees)
    (running : machine.running = true) :
    ∃ values after, exprs run rounds items machine = .ok values after ∧ after.running = true ∧
      machine.store.Extends after.store ∧ (∀ value ∈ values, after.store.Whole value) ∧
      values.map after.store.contents = trees := by
  induction each generalizing machine with
  | nil => exact ⟨[], machine, rfl, running, .refl _, by simp, rfl⟩
  | cons first _ ih =>
    obtain ⟨value, middle, ran, running, added⟩ := first machine running
    -- The other values come to a store that extends, where the first one keeps its contents.
    obtain ⟨values, after, rans, running, kept, whole, shows⟩ := ih running
    refine ⟨value :: values, after, ?_, running, added.kept.trans kept,
      List.forall_mem_cons.mpr ⟨added.whole.of_extends kept, whole⟩, ?_⟩
    · rw [exprs]
      simp only [Bind.bind, EStateM.bind, ran, rans]
      rfl
    · rw [List.map_cons, shows, added.whole.contents_eq kept, added.shows]

/-- **Entries that give contents** are set one after the other behind those that are there, if their
keys are new. -/
theorem entryExprs_gives {entries : List (Expr × Expr)} {trees : List (Datum × Datum)}
    {done : List (Value × Value)}
    (each : List.Forall₂ (fun entry tree => Gives (expr run rounds entry.1) tree.1 ∧
      Gives (expr run rounds entry.2) tree.2) entries trees)
    (steady : ∀ tree ∈ trees, tree.1.Steady) (running : machine.running = true)
    (lined : Alloc.Lined machine.store done)
    (differ : (done.map machine.store.entryContents ++ trees).Pairwise
      fun entry other => entry.1.like other.1 = false) :
    ∃ results after, entryExprs run rounds done entries machine = .ok results after ∧
      after.running = true ∧ machine.store.Extends after.store ∧
      Alloc.Lined after.store results ∧
      results.map after.store.entryContents = done.map machine.store.entryContents ++ trees := by
  induction each generalizing machine done with
  | nil => exact ⟨done, machine, rfl, running, .refl _, lined, by simp⟩
  | @cons entry tree entries trees first _ ih =>
    obtain ⟨steadyKey, steady⟩ := List.forall_mem_cons.mp steady
    obtain ⟨key, between, ranKey, running, addedKey⟩ := first.1 machine running
    obtain ⟨value, middle, ranValue, running, addedValue⟩ := first.2 between running
    obtain ⟨set, found, lined', shows⟩ := lined.setConverted addedKey steadyKey addedValue
    -- The key differs from all keys before it, so the entry is set behind them.
    have new : ∀ entry ∈ done.map machine.store.entryContents, entry.1.like tree.1 = false :=
      fun entry mem => (List.pairwise_append.mp differ).2.2 entry mem tree List.mem_cons_self
    rw [Datum.setEntry_of_new new] at shows
    have differ' : (set.map middle.store.entryContents ++ trees).Pairwise
        fun entry other => entry.1.like other.1 = false := by
      rw [shows, List.append_assoc]
      exact differ
    obtain ⟨results, after, ran, running, kept, lined'', shows'⟩ := ih steady running lined' differ'
    refine ⟨results, after, ?_, running, (addedKey.kept.trans addedValue.kept).trans kept, lined'',
      ?_⟩
    · rw [entryExprs]
      simp only [Bind.bind, EStateM.bind, ranKey, ranValue, looking, found, ended]
      exact ran
    · rw [shows', shows, List.append_assoc]
      rfl

/-- An operation on the containers behind an evaluation that returns. -/
theorem bind_alloc_of_ok {α : Type} {first : Eval α} {next : α → Alloc Value} {found : α}
    {value : Value} {store : Store} (ran : first machine = .ok found after)
    (made : (next found).run after.store = .ok (value, store)) :
    (first >>= fun found => alloc (next found)) machine = .ok value { after with store } := by
  simp only [Bind.bind, EStateM.bind, ran, alloc, made]

/-- A list gives the contents of its items. -/
theorem gives_list (span : Span) {items : List Expr} {trees : List Datum}
    (each : List.Forall₂ (fun item tree => Gives (expr run rounds item) tree) items trees) :
    Gives (expr run rounds (.list span items)) (.list 0 .any trees) := by
  rw [expr]
  refine Gives.located (fun machine running => ?_) span
  obtain ⟨values, middle, ran, running, kept, whole, rfl⟩ := exprs_gives each running
  have added := middle.store.adds_newList .any whole
  exact ⟨_, _, bind_alloc_of_ok ran rfl, running, kept.trans added.kept, added.whole, added.shows⟩

/-- A dictionary gives the contents of its entries, if their keys are pairwise different. -/
theorem gives_dict (span : Span) {entries : List (Expr × Expr)} {trees : List (Datum × Datum)}
    (each : List.Forall₂ (fun entry tree => Gives (expr run rounds entry.1) tree.1 ∧
      Gives (expr run rounds entry.2) tree.2) entries trees)
    (steady : ∀ tree ∈ trees, tree.1.Steady)
    (differ : trees.Pairwise fun entry other => entry.1.like other.1 = false) :
    Gives (expr run rounds (.dict span entries)) (.dict 0 .any .any trees) := by
  rw [expr]
  refine Gives.located (fun machine running => ?_) span
  have none : Alloc.Lined machine.store [] := by simp [Alloc.Lined]
  obtain ⟨results, middle, ran, running, kept, lined, shows⟩ :=
    entryExprs_gives each steady running none differ
  obtain rfl : results.map middle.store.entryContents = trees := shows
  have added := middle.store.adds_newDict .any .any
    fun entry mem => ⟨(lined entry mem).1.1, (lined entry mem).2⟩
  exact ⟨_, _, bind_alloc_of_ok ran rfl, running, kept.trans added.kept, added.whole, added.shows⟩

end Eval

/-! ## Expressions that were read -/

namespace Expr

/-- What is read back for a literal is one. -/
theorem exists_of_bare_eq_literal {read : Expr} {value : Literal}
    (h : read.bare = .literal .unknown value) : ∃ span, read = .literal span value := by
  cases read with
  | literal span value' =>
    cases h
    exact ⟨span, rfl⟩
  | range span first last step inclusive => cases step <;> cases h
  | _ => cases h

/-- What is read back for an operator before an operand is one. -/
theorem exists_of_bare_eq_unary {read operand : Expr} {op : UnaryOp}
    (h : read.bare = .unary .unknown op operand) :
    ∃ span operand', read = .unary span op operand' ∧ operand'.bare = operand := by
  cases read with
  | unary span op' operand' =>
    rw [bare] at h
    cases h
    exact ⟨span, operand', rfl, rfl⟩
  | range span first last step inclusive => cases step <;> cases h
  | _ => cases h

/-- What is read back for a list is one. -/
theorem exists_of_bare_eq_list {read : Expr} {items : List Expr}
    (h : read.bare = .list .unknown items) :
    ∃ span items', read = .list span items' ∧ bareAll items' = items := by
  cases read with
  | list span items' =>
    rw [bare] at h
    cases h
    exact ⟨span, items', rfl, rfl⟩
  | range span first last step inclusive => cases step <;> cases h
  | _ => cases h

/-- What is read back for a dictionary is one. -/
theorem exists_of_bare_eq_dict {read : Expr} {entries : List (Expr × Expr)}
    (h : read.bare = .dict .unknown entries) :
    ∃ span entries', read = .dict span entries' ∧ bareEntries entries' = entries := by
  cases read with
  | dict span entries' =>
    rw [bare] at h
    cases h
    exact ⟨span, entries', rfl, rfl⟩
  | range span first last step inclusive => cases step <;> cases h
  | _ => cases h

end Expr

/-- What is read back for an expression that stands alone is one. -/
theorem Stmt.exists_of_bareAll_eq_expression {read : List Stmt} {value : Expr}
    (h : bareAll read = [.expression .unknown value]) :
    ∃ span value', read = [.expression span value'] ∧ value'.bare = value := by
  cases read with
  | nil => cases h
  | cons first rest =>
    rw [bareAll, List.cons.injEq] at h
    obtain ⟨same, none⟩ := h
    obtain rfl : rest = [] := by
      cases rest with
      | nil => rfl
      | cons => cases none
    cases first with
    | expression span value' =>
      rw [bare] at same
      cases same
      exact ⟨span, value', rfl, rfl⟩
    | branch span condition thenBody elseBody => cases elseBody <;> cases same
    | choice span subject cases fallback => cases fallback <;> cases same
    | _ => cases same

namespace Datum

variable {holds : Expr → Datum → Prop}

/-- What holds of whatever is read back for each item holds of what is read back for the items. -/
theorem forall₂_of_bareAll_eq {items : List Datum} {read : List Expr}
    (each : ∀ item ∈ items, ∀ expression : Expr, expression.bare = item.literal.bare →
      holds expression item.bare)
    (same : Expr.bareAll read = Expr.bareAll (literalItems items)) :
    List.Forall₂ holds read (items.map bare) := by
  induction items generalizing read with
  | nil =>
    cases read with
    | nil => exact .nil
    | cons => cases same
  | cons item items ih =>
    cases read with
    | nil => cases same
    | cons expression read =>
      obtain ⟨first, others⟩ := List.forall_mem_cons.mp each
      simp only [literalItems, Expr.bareAll, List.cons.injEq] at same
      exact .cons (first expression same.1) (ih others same.2)

/-- What holds of whatever is read back for each key and each value holds of what is read back for
the entries. -/
theorem forall₂_of_bareEntries_eq {entries : List (Datum × Datum)} {read : List (Expr × Expr)}
    (keys : ∀ entry ∈ entries, ∀ expression : Expr, expression.bare = entry.1.literal.bare →
      holds expression entry.1.bare)
    (values : ∀ entry ∈ entries, ∀ expression : Expr, expression.bare = entry.2.literal.bare →
      holds expression entry.2.bare)
    (same : Expr.bareEntries read = Expr.bareEntries (literalEntries entries)) :
    List.Forall₂ (fun entry tree => holds entry.1 tree.1 ∧ holds entry.2 tree.2) read
      (entries.map fun entry => (entry.1.bare, entry.2.bare)) := by
  induction entries generalizing read with
  | nil =>
    cases read with
    | nil => exact .nil
    | cons => cases same
  | cons entry entries ih =>
    cases read with
    | nil => cases same
    | cons expressions read =>
      obtain ⟨key, keys⟩ := List.forall_mem_cons.mp keys
      obtain ⟨value, values⟩ := List.forall_mem_cons.mp values
      simp only [literalEntries, Expr.bareEntries, List.cons.injEq, Prod.mk.injEq] at same
      exact .cons ⟨key _ same.1.1, value _ same.1.2⟩ (ih keys values same.2)

/-- Nothing that can be written is no number. -/
theorem isNaN_of_isWritable {tree : Datum} (writable : tree.isWritable = true) :
    tree.isNaN = false := by
  cases tree <;> first | rfl | cases writable

variable {run : Runner} {rounds : Nat}

/-- **What is read back for a writable tree gives the contents of the tree.** -/
theorem gives_of_bare_eq (tree : Datum) (writable : ∀ part ∈ tree.parts, part.isWritable = true)
    (differ : ∀ part ∈ tree.parts, part.keys.Pairwise fun key other => key.like other = false)
    (expression : Expr) (same : expression.bare = tree.literal.bare) :
    Eval.Gives (Eval.expr run rounds expression) tree.bare := by
  induction tree generalizing expression with
  | int n =>
    have least : Number.least < n.toInt := by simpa [isWritable] using writable _ (mem_parts_self _)
    rw [literal] at same
    split at same
    · obtain ⟨span, rfl⟩ := Expr.exists_of_bare_eq_literal same
      exact Eval.gives_literal span fun _ => rfl
    · obtain ⟨span, operand, rfl, sameOperand⟩ := Expr.exists_of_bare_eq_unary same
      obtain ⟨place, rfl⟩ := Expr.exists_of_bare_eq_literal sameOperand
      exact Eval.gives_negated span place least
  | boolean b =>
    obtain ⟨span, rfl⟩ := Expr.exists_of_bare_eq_literal same
    exact Eval.gives_literal span fun _ => rfl
  | text s =>
    obtain ⟨span, rfl⟩ := Expr.exists_of_bare_eq_literal same
    exact Eval.gives_literal span fun _ => rfl
  | list handle element items ih =>
    obtain ⟨-, writable⟩ := forall_parts_list.mp writable
    obtain ⟨-, differ⟩ := forall_parts_list.mp differ
    obtain ⟨span, read, rfl, sameItems⟩ := Expr.exists_of_bare_eq_list same
    rw [bare, bareItems_eq]
    exact Eval.gives_list span (forall₂_of_bareAll_eq
      (fun item mem => ih item mem (writable item mem) (differ item mem)) sameItems)
  | dict handle keyType valueType entries keys values =>
    obtain ⟨-, writableKeys, writableValues⟩ := forall_parts_dict.mp writable
    obtain ⟨new, differKeys, differValues⟩ := forall_parts_dict.mp differ
    obtain ⟨span, read, rfl, sameEntries⟩ := Expr.exists_of_bare_eq_dict same
    have each := forall₂_of_bareEntries_eq
      (fun entry mem => keys entry mem (writableKeys entry mem) (differKeys entry mem))
      (fun entry mem => values entry mem (writableValues entry mem) (differValues entry mem))
      sameEntries
    rw [bare, bareEntries_eq]
    refine Eval.gives_dict span each ?_ ?_
    · -- A key that can be written holds nothing that is no number.
      refine List.forall_mem_map.mpr fun entry mem => ?_
      exact steady_bare_iff.mpr (.inr fun part inside =>
        isNaN_of_isWritable (writableKeys entry mem part inside))
    · rw [Datum.keys, List.pairwise_map] at new
      simpa only [List.pairwise_map, like_bare] using new
  | _ => exact absurd (writable _ (mem_parts_self _)) Bool.false_ne_true

end Datum

/-! ## The text of a value -/

/-- **The text of a writable tree is a program of one expression.** -/
theorem readProgram_inner {tree : Datum} (writable : ∀ part ∈ tree.parts, part.isWritable = true) :
    ∃ span expression, readProgram (tree.inner ++ ";") = .ok [.expression span expression] ∧
      expression.bare = tree.literal.bare := by
  -- The text is read as the words of the statement.
  have closing : Scans false [';'] [.symbol ";"] := scans_nil.plainSymbol (by decide)
  have scans := tree.spells_inner writable _ _ (delimited_cons (by decide)) closing
  obtain ⟨tokens, ending, scanned, spelled⟩ := scans .start
  -- The words are read as the statement.
  have printable : Stmt.arePrintable [.expression .unknown tree.literal] = true := rfl
  have back : ∀ expression ∈ Stmt.expressionsOf [.expression .unknown tree.literal],
      ReadBack Expr.words expression := by
    intro expression mem
    obtain rfl : expression = tree.literal := by
      simpa [Stmt.expressionsOf, Stmt.expressions] using mem
    exact Expr.readBack_words (tree.isPrintable_literal true writable)
  have words : tokens.map Token.word =
      Stmt.wordsOf Expr.words [.expression .unknown tree.literal] := by
    simp [spelled, Stmt.wordsOf, Stmt.words, Stmt.simpleWords]
  obtain ⟨statements, parsed, same⟩ :=
    exists_program_of_readable (Stmt.allReadable _ printable back) ending.span words
  obtain ⟨span, expression, rfl, denoted⟩ := Stmt.exists_of_bareAll_eq_expression same
  refine ⟨span, expression, ?_, denoted⟩
  have source : (tree.inner ++ ";").toList = tree.inner.toList ++ [';'] := String.toList_append
  rw [readProgram, TokenStream.ofSource, source, scanned]
  exact parsed

/-- **A value that can be written**: all there, made of integers with negatives, truth values, texts
that are plainly quoted, lists, and dictionaries whose keys are pairwise different. -/
structure Store.Writable (store : Store) (value : Value) : Prop extends store.Whole value where
  /-- Every part has a text that can be read back. -/
  parts : ∀ part ∈ (store.view value).parts, part.isWritable = true
  /-- The keys of every dictionary are pairwise different. -/
  keys : ∀ part ∈ (store.view value).parts,
    part.keys.Pairwise fun key other => key.same other = false

/-- Nothing in a value that can be written is no number. -/
theorem Store.Writable.comparable {store : Store} {value : Value}
    (writable : store.Writable value) : store.Comparable value where
  acyclic := writable.acyclic
  numbers part mem := Datum.isNaN_of_isWritable (writable.parts part mem)
  keys := writable.keys

/-- **The text of a value that can be written is evaluated to its contents**, whatever containers
there are. -/
theorem gives_source {store : Store} {value : Value} (writable : store.Writable value)
    (budget : Nat) :
    Eval.Gives (Eval.source budget ((store.view value).inner ++ ";")) (store.contents value) := by
  obtain ⟨span, expression, read, same⟩ := readProgram_inner writable.parts
  intro machine running
  have gives : Eval.Gives (Eval.exprWithin budget expression) (store.contents value) :=
    Datum.gives_of_bare_eq _ writable.parts writable.comparable.keys_like expression same
  obtain ⟨result, after, ran, still, added⟩ := gives (Eval.movedTo machine span) running
  refine ⟨result, after, ?_, still, added⟩
  have flow : Eval.stmtWithin budget (.expression span expression) machine =
      .ok (.next result) after := by
    rw [Eval.stmtWithin, Eval.stmt]
    refine Eval.located_eq_of_ok running ?_
    change (Eval.exprWithin budget expression >>= fun value => pure (Flow.next value)) _ = _
    simp only [Bind.bind, EStateM.bind, ran]
    rfl
  have whole : Eval.topLevel budget .void [.expression span expression] machine =
      .ok result after := by
    rw [Eval.topLevel]
    simp only [Bind.bind, EStateM.bind, flow]
    rfl
  rw [Eval.source, read]
  change Eval.halting (Eval.topLevel budget .void [.expression span expression]) machine = _
  rw [Eval.halting, whole]

/-- **Canonical text evaluates back to the value.** The text of a value that can be written, with a
semicolon behind it, is a program that runs on a new machine and returns a value of the same
contents: the same items and entries in the same order. If the machine starts with the containers of
the value, the two can be compared there, and they are the same value. -/
theorem source_inner {store : Store} {value : Value} (writable : store.Writable value)
    (config : Config) (world : World) (budget : Nat) (start : Store) :
    ∃ result after,
      Eval.source budget ((store.view value).inner ++ ";")
        { Machine.initial config world with store := start } = .ok result after ∧
      after.store.contents result = store.contents value ∧
      (store.Extends start → after.store.same result value = some true) := by
  obtain ⟨result, after, ran, -, added⟩ := gives_source writable budget
    { Machine.initial config world with store := start } rfl
  refine ⟨result, after, ran, added.shows, fun extended => ?_⟩
  -- Both values are all there afterwards, so they are compared by their contents.
  have kept := extended.trans added.kept
  have numbers := writable.comparable.numbers
  have steady : (store.contents value).Steady := Datum.steady_bare_iff.mpr (.inr numbers)
  rw [added.whole.same_eq (writable.toWhole.of_extends kept) (by rwa [added.shows]), added.shows,
    writable.toWhole.contents_eq kept, Store.contents, Datum.like_bare,
    Datum.like_self writable.acyclic numbers]

/-- A store with a list of a dictionary, of a list that is also a key and a value of the dictionary,
and of an empty dictionary. -/
def nestedRecord : Store where
  lists := #[⟨.any, [.int (-7), .boolean true], []⟩, ⟨.any, [.dict 0, .list 0, .dict 1], []⟩]
  dicts := #[⟨.any, .any, [(.list 0, .text "a\\\n\"b\""), (.int 0, .list 0)], []⟩,
    ⟨.any, .any, [], []⟩]

example : (nestedRecord.view (.list 1)).inner =
    "[\x7b[-7, true]: \"a\\\\\\n\\\"b\\\"\", 0: [-7, true]\x7d, [-7, true], \x7b\x7d]" := by
  decide

/-- The list is evaluated back from its text. -/
theorem source_inner_nested : nestedRecord.Writable (.list 1) ∧ ∃ result after,
    Eval.source 0 ((nestedRecord.view (.list 1)).inner ++ ";")
      { Machine.initial .standard .bare with store := nestedRecord } = .ok result after ∧
    after.store.contents result = nestedRecord.contents (.list 1) ∧
    after.store.same result (.list 1) = true := by
  have values : (nestedRecord.view (.list 1)).parts.map Datum.value =
      [.list 1, .dict 0, .list 0, .int (-7), .boolean true, .text "a\\\n\"b\"", .int 0, .list 0,
        .int (-7), .boolean true, .list 0, .int (-7), .boolean true, .dict 1] := rfl
  have held : ∀ value ∈ (nestedRecord.view (.list 1)).parts.map Datum.value,
      nestedRecord.Holds value := by
    rw [values]
    simp [Store.Holds, nestedRecord]
  have writable : nestedRecord.Writable (.list 1) :=
    ⟨⟨by decide, List.forall_mem_map.mp held⟩, by decide, by decide⟩
  obtain ⟨result, after, ran, shows, same⟩ :=
    source_inner writable .standard .bare 0 nestedRecord
  exact ⟨writable, result, after, ran, shows, same (.refl nestedRecord)⟩

end ReactiveScript
