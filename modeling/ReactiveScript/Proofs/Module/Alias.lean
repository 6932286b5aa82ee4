import ReactiveScript.Proofs.Import.Delivery
import ReactiveScript.Proofs.Module.Body

/-! # A module under a label behaves as it does without one

Let a file declare functions and nothing else, which call each other and functions that are always
there. Imported under a label and imported without one, it leaves two machines side by side
(`Labelling.facing_taking`), and so every function of it ends the same way on both
(`labelled_import_mirrors`). The file must not have been imported before: then nothing of it would
be known under the label (`relabelled_import_unknown`). -/

namespace ReactiveScript

open Eval

/-! ## Importing functions -/

/-- The table with functions of a module that is imported under a label. -/
def Table.registerAll (table : Table Function) (label : Option String) (functions : List Function) :
    Table Function :=
  functions.foldl (fun table function =>
    table.insert (function.qualified label).name (function.qualified label)) table

namespace Imports

variable {machine after : Machine} {label : Option String} {program : List Stmt}
  {reads : List (String × Option String)} {fault : Option Fault}

/-- Going through declarations of functions registers the functions, and nothing else happens. -/
theorem registers_functions (h : Imports machine (.statements label program) reads fault after)
    (declares : ∀ statement ∈ program, ∃ function, statement.function? = some function) :
    fault = none ∧ after = { machine with
      functions := machine.functions.registerAll label (program.filterMap Stmt.function?) } := by
  induction program generalizing machine reads with
  | nil =>
    cases h
    exact ⟨rfl, rfl⟩
  | cons statement rest ih =>
    obtain ⟨function, here⟩ := declares statement List.mem_cons_self
    have others : ∀ statement ∈ rest, ∃ function, statement.function? = some function :=
      fun statement mem => declares statement (List.mem_cons_of_mem _ mem)
    rw [List.filterMap_cons, here]
    cases h with
    | function found through =>
      obtain rfl : function = _ := Option.some.inj (here.symm.trans found)
      obtain ⟨well, reached⟩ := ih through others
      exact ⟨well, reached⟩
    | follow => cases here
    | fail => cases here
    | pass nothing => rw [here] at nothing; cases nothing

end Imports

/-- The machine after a new file is imported that declares some functions and nothing else: the file
is noted and the functions are registered. -/
def Machine.taking (machine : Machine) (file : String) (label : Option String)
    (functions : List Function) : Machine :=
  { machine.noting file with functions := machine.functions.registerAll label functions }

/-- **The import of a new file that declares functions and nothing else.** -/
theorem load_of_functions {machine : Machine} {path found : String} {program : List Stmt}
    (label : Option String) (names : libraryOf? path = none)
    (source : path.endsWith sourceSuffix = true) (resolved : machine.resolveModule path = .ok found)
    (new : found ∉ machine.imported) (held : machine.world.files.Spells found program)
    (declares : ∀ statement ∈ program, ∃ function, statement.function? = some function) :
    load path label machine =
      .ok () (machine.taking found label (program.filterMap Stmt.function?)) := by
  -- Only the rule for a new file that holds a program applies.
  obtain ⟨reads, fault, after, ran, course⟩ := load_follows path label machine
  rw [ran]
  cases course with
  | library isLibrary | unknown isLibrary =>
    rw [names] at isLibrary
    cases isLibrary
  | form _ other => exact absurd source other
  | missing _ _ absent =>
    rw [resolved] at absent
    cases absent
  | again _ _ resolved' old =>
    obtain rfl := Except.ok.inj (resolved.symm.trans resolved')
    exact absurd old new
  | unreadable _ _ resolved' _ refused =>
    obtain rfl := Except.ok.inj (resolved.symm.trans resolved')
    have held' : (machine.noting found).world.files.Spells found program := held
    rw [readModule_of_spells held'] at refused
    cases refused
  | file _ _ resolved' _ held' through =>
    obtain rfl := Except.ok.inj (resolved.symm.trans resolved')
    obtain rfl := held.unique held'
    obtain ⟨rfl, rfl⟩ := through.registers_functions declares
    rfl

namespace Labelling

/-- The functions that a program declares, to be imported under a label. -/
def of (label : String) (program : List Stmt) : Labelling := ⟨label, Stmt.declared program⟩

/-- Whether a program declares functions and nothing else, and the functions call only what the
module may call. -/
def covers (M : Labelling) (program : List Stmt) : Bool :=
  program.all fun statement =>
    statement.function?.any fun function => Stmt.allCallWithin M.allows function.body

variable {M : Labelling}

/-- A program of functions declares functions and nothing else. -/
theorem declares_of_covers {program : List Stmt} (h : M.covers program = true) :
    ∀ statement ∈ program, ∃ function, statement.function? = some function := by
  intro statement mem
  have checked := List.all_eq_true.mp h statement mem
  cases found : statement.function? with
  | none =>
    rw [found] at checked
    cases checked
  | some function => exact ⟨function, rfl⟩

/-- The functions that a program of functions declares are functions of the module. -/
theorem owns_of_covers {program : List Stmt} (h : M.covers program = true) :
    ∀ function ∈ program.filterMap Stmt.function?, M.Owns function := by
  intro function mem
  obtain ⟨statement, here, found⟩ := List.mem_filterMap.mp mem
  have checked := List.all_eq_true.mp h statement here
  rw [found] at checked
  refine ⟨?_, checked⟩
  -- A declaration gives no label.
  cases statement with
  | function => cases found; rfl
  | _ => cases found

/-- Registering functions behind the label and by their names makes them known side by side. -/
theorem Mirrored.registerAll {names : List String} {first second : Table Function}
    (h : M.Mirrored names first second) (functions : List Function)
    (owns : ∀ function ∈ functions, M.Owns function) :
    M.Mirrored (names ++ functions.map Function.name)
      (first.registerAll (some M.label) functions) (second.registerAll none functions) := by
  induction functions generalizing names first second with
  | nil => rwa [List.map_nil, List.append_nil]
  | cons function rest ih =>
    have joined : M.Mirrored (names ++ [function.name])
        (first.insert (labelled M.label function.name) (function.under M.label))
        (second.insert function.name function) := by
      refine h.insert (owns function List.mem_cons_self) fun other => ?_
      rw [List.mem_append, List.mem_singleton]
      exact Or.comm
    have all := ih joined fun function mem => owns function (List.mem_cons_of_mem _ mem)
    rw [List.append_assoc, List.singleton_append] at all
    exact all

/-- **Two imports of one file leave machines side by side.** -/
theorem facing_taking {machine : Machine} {label : String} {program : List Stmt} (found : String)
    (covered : (of label program).covers program = true)
    (apart : (of label program).Apart machine.natives)
    (clear : ∀ name, machine.functions.find? (labelled label name) = none) :
    (of label program).Facing machine.context.label machine.context.label
      (machine.taking found (some label) (program.filterMap Stmt.function?))
      (machine.taking found none (program.filterMap Stmt.function?)) := by
  have before : (of label program).Mirrored [] machine.functions machine.functions :=
    ⟨fun _ none => (nomatch none), fun name _ => clear name⟩
  have after := before.registerAll _ (owns_of_covers covered)
  exact ⟨⟨_, _, rfl⟩, rfl, after, apart⟩

end Labelling

/-! ## The same ending -/

/-- The second machine is the first with other functions and other handlers in line. -/
def Machine.Beside (first second : Machine) : Prop :=
  second = { first with functions := second.functions, pending := second.pending }

/-- **The same ending**: one value, one fault up to the name that the bound on the depth of calls
quotes, or both cut off; and one state of everything but the functions and the handlers in line. -/
inductive SameEnding (label : String) {α : Type} :
    EStateM.Result Stop Machine α → EStateM.Result Stop Machine α → Prop
  | value (value : α) {first second : Machine} (rest : first.Beside second) :
    SameEnding label (.ok value first) (.ok value second)
  | fault {fault fault' : Fault} (alike : fault.Renamed label fault') {first second : Machine}
    (rest : first.Beside second) :
    SameEnding label (.error (.fault fault) first) (.error (.fault fault') second)
  | cutOff {first second : Machine} (rest : first.Beside second) :
    SameEnding label (.error .exhausted first) (.error .exhausted second)

namespace Labelling

variable {M : Labelling} {here : Option String} {α : Type}

/-- Machines side by side in the code of one module differ in functions and handlers only. -/
theorem Facing.beside {first second : Machine} (h : M.Facing here here first second) :
    first.Beside second := by
  obtain ⟨⟨functions, pending, rfl⟩, label, _⟩ := h
  unfold Machine.Beside
  rw [← label]
  rfl

/-- Evaluations that end side by side in the code of one module have the same ending. -/
theorem EndsFacing.sameEnding {result result' : EStateM.Result Stop Machine α}
    (h : M.EndsFacing here here result result') : SameEnding M.label result result' := by
  cases h with
  | value facing => exact .value _ facing.beside
  | fault alike facing => exact .fault alike facing.beside
  | cutOff facing => exact .cutOff facing.beside

end Labelling

/-- **A module behaves under a label as it does without one.** Let a file that was not imported
before declare functions and nothing else, which have no declaration, import, signal or watch in
their bodies and call functions of the file and functions that are always there; let no function of
the file have the name of a built-in function, and nothing stand behind the label. Then both imports
succeed, and every function of the file is known under both names. Called on the same arguments,
from any state, it ends the same way; and so does a call of it in a program, whose arguments call
only functions that are always there. -/
theorem labelled_import_mirrors {machine : Machine} {path found label : String}
    {program : List Stmt} (names : libraryOf? path = none)
    (source : path.endsWith sourceSuffix = true) (resolved : machine.resolveModule path = .ok found)
    (new : found ∉ machine.imported) (held : machine.world.files.Spells found program)
    (covered : (Labelling.of label program).covers program = true)
    (apart : (Labelling.of label program).Apart machine.natives)
    (clear : ∀ name, machine.functions.find? (labelled label name) = none) :
    ∃ behind plain, load path (some label) machine = .ok () behind ∧
      load path none machine = .ok () plain ∧ behind.Beside plain ∧
      ∀ name ∈ Stmt.declared program, ∃ function,
        behind.functions.find? (labelled label name) = some (function.under label) ∧
        plain.functions.find? name = some function ∧
        ∀ budget,
          (∀ arguments, SameEnding label
            (invoke (bodyWithin budget) (labelled label name) (function.under label) arguments
              behind)
            (invoke (bodyWithin budget) name function arguments plain)) ∧
          (machine.context.label = none → ∀ span arguments,
            Expr.allCallWithin Native.isInstalled arguments = true → SameEnding label
              (exprWithin budget (.call span (labelled label name) arguments) behind)
              (exprWithin budget (.call span name arguments) plain)) := by
  have declares := Labelling.declares_of_covers covered
  have facing := Labelling.facing_taking found covered apart clear
  -- Both imports only declare functions, so the machines face each other after them.
  refine ⟨_, _, load_of_functions (some label) names source resolved new held declares,
    load_of_functions none names source resolved new held declares, facing.beside, ?_⟩
  intro name known
  obtain ⟨function, owns, found', found⟩ := facing.functions.both name known
  refine ⟨function, found, found', fun budget => ⟨fun arguments => ?_, ?_⟩⟩
  · have bodies := Labelling.Mirror.bodyWithin budget function.body owns.body
    exact (Labelling.Mirror.invoke arguments known owns bodies _ _ facing).sameEnding
  · -- Arguments are evaluated before the call, in the code that calls.
    intro outside span arguments within
    rw [outside] at facing
    have values := Labelling.Mirror.exprs
      (Labelling.calls_outside (.of label program) (bodyWithin budget) budget) arguments within
    have called := Labelling.Mirror.calling budget known values (Labelling.Mirror.bodyWithin budget)
    exact (called.located span .void _ _ facing).sameEnding

/-! ## Two imports at work -/

/-- Nothing in a table stands behind a label if no entry starts with it. -/
theorem Table.find?_labelled_eq_none {α : Type} {table : Table α} {label : String}
    (h : table.entries.all (fun entry => !(label ++ "_").toList.isPrefixOf entry.1.toList) = true)
    (name : String) : table.find? (labelled label name) = none := by
  by_contra some
  obtain ⟨value, found⟩ := Option.ne_none_iff_exists'.mp some
  have free := List.all_eq_true.mp h _ (Table.mem_of_find? found)
  have starts : (label ++ "_").toList.isPrefixOf (labelled label name).toList = true := by
    have whole : (labelled label name).toList = (label ++ "_").toList ++ name.toList :=
      String.toList_append
    rw [List.isPrefixOf_iff_prefix, whole]
    exact List.prefix_append ..
  simp only [starts] at free
  cases free

/-- The functions that are always there are there before any program. -/
theorem Native.find?_standard : ∀ entry ∈ Native.installed,
    Native.standard.find? entry.1 = some entry.2 := by
  simp only [Native.installed, List.forall_mem_cons]
  repeat' constructor
  intro entry none
  cases none

/-- The text of a module whose functions call each other and a function that is always there. -/
def countingText : String :=
  "int half(int n) \x7b if (n < 2) \x7b return 0; \x7d return count(n - 2) + 1; \x7d" ++
    "int count(int n) \x7b return half(n) + length([n]); \x7d"

/-- A machine that sees the module. -/
def Machine.counting : Machine := .amid [("m.mun", countingText)]

/-- The functions of the module end the same way under a label as without one. -/
theorem counting_mirrors :
    ∃ behind plain function, load "m.mun" (some "a") .counting = .ok () behind ∧
      load "m.mun" none .counting = .ok () plain ∧
      plain.functions.find? "count" = some function ∧
      ∀ budget arguments, SameEnding "a"
        (invoke (bodyWithin budget) (labelled "a" "count") (function.under "a") arguments behind)
        (invoke (bodyWithin budget) "count" function arguments plain) := by
  have isFile : libraryOf? "m.mun" = none := by decide +kernel
  have isSource : "m.mun".endsWith sourceSuffix = true := by decide +kernel
  have resolved : Machine.counting.resolveModule "m.mun" = .ok "/d/m.mun" := by decide +kernel
  have held : Machine.counting.world.files.read "/d/m.mun" = .ok countingText := by decide +kernel
  have checked : (readProgram countingText).toOption.map (fun program =>
      ((Labelling.of "a" program).covers program, Stmt.declared program)) =
      some (true, ["half", "count"]) := by decide +kernel
  have free : Native.standard.entries.all
      (fun entry => !("a" ++ "_").toList.isPrefixOf entry.1.toList) = true := by decide +kernel
  cases read : readProgram countingText with
  | error fault =>
    rw [read] at checked
    cases checked
  | ok program =>
    rw [read] at checked
    obtain ⟨covered, declared⟩ := Prod.mk.inj (Option.some.inj checked)
    have unnamed : ∀ name ∈ Stmt.declared program, Native.standard.find? name = none := by
      rw [declared, List.forall_mem_cons, List.forall_mem_singleton]
      exact ⟨rfl, rfl⟩
    have apart : (Labelling.of "a" program).Apart Machine.counting.natives :=
      ⟨Table.find?_labelled_eq_none free, unnamed, Native.find?_standard⟩
    obtain ⟨behind, plain, ran, ran', _, same⟩ := labelled_import_mirrors isFile isSource resolved
      List.not_mem_nil ⟨_, held, read⟩ covered apart fun name => Table.find?_empty _
    have known : "count" ∈ Stmt.declared program := by
      rw [declared]
      decide
    obtain ⟨function, _, found, ends⟩ := same "count" known
    exact ⟨behind, plain, function, ran, ran', found, fun budget => (ends budget).1⟩

/-- **A file that was imported before is not imported again under a label.** Where the file that
declares `f` was imported, nothing stands behind the label; both imports succeed, and yet a call of
the function behind the label finds no function, while a call by its name gives the result. -/
theorem second_import_unknown :
    (∀ name, (Machine.having none).functions.find? (labelled "a" name) = none ∧
      (Machine.having none).natives.find? (labelled "a" name) = none) ∧
    ∃ behind plain, load "m.mun" (some "a") (.having none) = .ok () behind ∧
      load "m.mun" none (.having none) = .ok () plain ∧
      (∃ fault after, exprWithin 2 (.call (.at 2 1) (labelled "a" "f") []) behind =
        .error (.fault fault) after ∧ fault.message = "function 'a_f' is not defined") ∧
      ∃ value after, exprWithin 2 (.call (.at 2 1) "f" []) plain = .ok value after ∧
        value.asInt? = some 1 := by
  have isFile : libraryOf? "m.mun" = none := by decide +kernel
  have isSource : "m.mun".endsWith sourceSuffix = true := by decide +kernel
  obtain ⟨resolved, old⟩ : (Machine.having none).resolveModule "m.mun" = .ok "/d/m.mun" ∧
      "/d/m.mun" ∈ (Machine.having none).imported := by decide +kernel
  obtain ⟨free, free'⟩ : (Machine.having none).functions.entries.all
        (fun entry => !("a" ++ "_").toList.isPrefixOf entry.1.toList) = true ∧
      (Machine.having none).natives.entries.all
        (fun entry => !("a" ++ "_").toList.isPrefixOf entry.1.toList) = true := by decide +kernel
  refine ⟨fun name => ⟨Table.find?_labelled_eq_none free name,
    Table.find?_labelled_eq_none free' name⟩, .having none, .having none,
    load_of_imported isFile isSource resolved old, load_of_imported isFile isSource resolved old,
    ?_, ?_⟩
  · have refused : ((Machine.having none).perform
        (exprWithin 2 (.call (.at 2 1) (labelled "a" "f") []))).fault?.map (·.message) =
          some "function 'a_f' is not defined" := by decide +kernel
    obtain ⟨fault, given, said⟩ := Option.map_eq_some_iff.mp refused
    exact ⟨fault, _, eq_error_of_result (Outcome.result_of_fault? given), said⟩
  · have answered : ((Machine.having none).perform
        (exprWithin 2 (.call (.at 2 1) "f" []))).result.toOption.bind Value.asInt? = some 1 := by
      decide +kernel
    cases ended : ((Machine.having none).perform
        (exprWithin 2 (.call (.at 2 1) "f" []))).result with
    | error stop =>
      rw [ended] at answered
      cases answered
    | ok value =>
      rw [ended] at answered
      exact ⟨value, _, eq_ok_of_result ended, answered⟩

/-- The text of a module with a function that gives a variable a value. -/
def tellingText : String := "int f() \x7b return 1; \x7d void g() \x7b x = 1; \x7d"

/-- The text of a program that watches the variable, and whose own function calls another function
of the module. -/
def watchingText : String :=
  "int x = 0; int r = 0; int h() \x7b return f(); \x7d watch (x) \x7b r = h(); \x7d"

/-- A machine on which the program has run, and which sees the module. -/
def Machine.watching : Machine :=
  ((Machine.amid [("m.mun", tellingText)]).perform (Eval.source 3 watchingText)).machine

/-- The integer that a variable holds after a call without arguments and the handlers that it
started. -/
def Machine.heldAfter (machine : Machine) (function name : String) : Option Int64 :=
  ((machine.performAndWait 3 (exprWithin 3 (.call (.at 2 1) function []))).machine.scopes.lookup
    name).toOption.bind Value.asInt?

/-- An import that can be seen to succeed does. -/
theorem load_of_result {machine : Machine} {path : String} {label : Option String}
    (ended : (machine.perform (load path label)).result.toOption.isSome = true) :
    load path label machine = .ok () (machine.perform (load path label)).machine := by
  cases result : (machine.perform (load path label)).result with
  | ok value => exact eq_ok_of_result result
  | error stop =>
    rw [result] at ended
    cases ended

/-- **A handler that a function starts sees under which label the function was imported.** The file
was not imported before and nothing stands behind the label. The function gives the watched variable
its value either way; then the body that waits for that calls a function of the program, which calls
another function of the module by its name, and that is known only where the module was imported
without a label. -/
theorem handler_sees_label :
    "/d/m.mun" ∉ Machine.watching.imported ∧
    (∀ name, Machine.watching.functions.find? (labelled "a" name) = none) ∧
    ∃ behind plain, load "m.mun" (some "a") .watching = .ok () behind ∧
      load "m.mun" none .watching = .ok () plain ∧
      behind.heldAfter (labelled "a" "g") "x" = some 1 ∧ plain.heldAfter "g" "x" = some 1 ∧
      behind.heldAfter (labelled "a" "g") "r" = some 0 ∧ plain.heldAfter "g" "r" = some 1 := by
  obtain ⟨new, free⟩ : "/d/m.mun" ∉ Machine.watching.imported ∧
      Machine.watching.functions.entries.all
        (fun entry => !("a" ++ "_").toList.isPrefixOf entry.1.toList) = true := by decide +kernel
  refine ⟨new, Table.find?_labelled_eq_none free, _, _, load_of_result (by decide +kernel),
    load_of_result (by decide +kernel), ?_⟩
  decide +kernel

/-- **A label makes a difference in two ways.** A file that was imported before is not imported
again under a label, so that nothing of it is known behind the label; and handlers that a call
starts look functions up where the module is known under the label or without it. -/
theorem relabelled_import_unknown :
    ((∀ name, (Machine.having none).functions.find? (labelled "a" name) = none ∧
        (Machine.having none).natives.find? (labelled "a" name) = none) ∧
      ∃ behind plain, load "m.mun" (some "a") (.having none) = .ok () behind ∧
        load "m.mun" none (.having none) = .ok () plain ∧
        (∃ fault after, exprWithin 2 (.call (.at 2 1) (labelled "a" "f") []) behind =
          .error (.fault fault) after ∧ fault.message = "function 'a_f' is not defined") ∧
        ∃ value after, exprWithin 2 (.call (.at 2 1) "f" []) plain = .ok value after ∧
          value.asInt? = some 1) ∧
    "/d/m.mun" ∉ Machine.watching.imported ∧
    (∀ name, Machine.watching.functions.find? (labelled "a" name) = none) ∧
    ∃ behind plain, load "m.mun" (some "a") .watching = .ok () behind ∧
      load "m.mun" none .watching = .ok () plain ∧
      behind.heldAfter (labelled "a" "g") "x" = some 1 ∧ plain.heldAfter "g" "x" = some 1 ∧
      behind.heldAfter (labelled "a" "g") "r" = some 0 ∧ plain.heldAfter "g" "r" = some 1 :=
  ⟨second_import_unknown, handler_sees_label⟩

end ReactiveScript
