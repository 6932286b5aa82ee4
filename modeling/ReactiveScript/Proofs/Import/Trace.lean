import ReactiveScript.Proofs.Regime.Lasting

/-! # The course of an import

An import is described by rules that know of no depth (`Imports`): a library is installed, a file
that was imported before is passed over, any other is noted, read and gone through. Going through a
file registers the functions that it declares and follows its imports; all other statements are
passed over. The rules also list the files that are read, in order and with their labels.

Every import follows the rules to an end, whatever files import each other (`Eval.load_follows`).
What the rules allow is read off them: everything but the functions and the list of imported files
is as before (`Imports.after_eq`), no file is read that was imported before or is read twice
(`Imports.nodup`), and an import that goes well has registered every function of every file that it
has read (`Imports.delivers`). -/

namespace ReactiveScript

open Eval

/-- What there is to do in an import. -/
inductive ImportTask where
  /-- To import a path under a label. -/
  | path (path : String) (label : Option String)
  /-- To go through statements of a file that is imported under a label. -/
  | statements (label : Option String) (statements : List Stmt)

namespace Stmt

/-- The function that a statement declares. -/
def function? : Stmt → Option Function
  | .function span returns name params body => some ⟨name, returns, params, body, span, none⟩
  | _ => none

/-- Whether a statement is an import. -/
def isLoad : Stmt → Bool
  | .load .. => true
  | _ => false

/-- The names of the functions that some statements declare. -/
def declared (statements : List Stmt) : List String :=
  (statements.filterMap function?).map Function.name

end Stmt

/-- A file holds a program. -/
def FileTree.Spells (tree : FileTree) (file : String) (program : List Stmt) : Prop :=
  ∃ text, tree.read file = .ok text ∧ readProgram text = .ok program

/-- A file holds one program at most. -/
theorem FileTree.Spells.unique {tree : FileTree} {file : String} {program program' : List Stmt}
    (h : tree.Spells file program) (h' : tree.Spells file program') : program = program' := by
  obtain ⟨text, held, spelled⟩ := h
  obtain ⟨text', held', spelled'⟩ := h'
  obtain rfl : text = text' := Except.ok.inj (held.symm.trans held')
  exact Except.ok.inj (spelled.symm.trans spelled')

namespace Machine

/-- The machine after a file is noted as imported. -/
def noting (machine : Machine) (file : String) : Machine :=
  { machine with imported := machine.imported ++ [file] }

/-- The machine that goes through a file: imports are resolved against its directory. -/
def inside (machine : Machine) (file : String) : Machine :=
  machine.inDirectory ((parentPath? file).getD machine.context.directory)

/-- The machine with a function of a module that is imported under a label. -/
def registering (machine : Machine) (label : Option String) (function : Function) : Machine :=
  { machine with functions :=
      machine.functions.insert (function.qualified label).name (function.qualified label) }

end Machine

/-- **The rules of importing**: what a machine reads for a task, each file with the label of its
functions; the fault that ends the task, if one does; and the machine after it. -/
inductive Imports : Machine → ImportTask → List (String × Option String) → Option Fault → Machine →
    Prop
  /-- The functions of a library are installed. -/
  | library {machine path label library natives} (names : libraryOf? path = some library)
    (known : Native.library? library = some natives) :
    Imports machine (.path path label) [] none (machine.install natives label)
  /-- A library that is not known is refused. -/
  | unknown {machine path label library} (names : libraryOf? path = some library)
    (missing : Native.library? library = none) :
    Imports machine (.path path label) [] (some (Cause.unknownLibrary library).fault) machine
  /-- What names neither a library nor a source file is refused. -/
  | form {machine path label} (names : libraryOf? path = none)
    (other : ¬ path.endsWith sourceSuffix = true) :
    Imports machine (.path path label) [] (some (Cause.importForm path).fault) machine
  /-- A file that is not there is refused. -/
  | missing {machine path label fault} (names : libraryOf? path = none)
    (source : path.endsWith sourceSuffix = true)
    (absent : machine.resolveModule path = .error fault) :
    Imports machine (.path path label) [] (some fault) machine
  /-- A file that was imported before is passed over. -/
  | again {machine path label found} (names : libraryOf? path = none)
    (source : path.endsWith sourceSuffix = true) (resolved : machine.resolveModule path = .ok found)
    (old : found ∈ machine.imported) : Imports machine (.path path label) [] none machine
  /-- A file that holds no program is refused, and stays noted. -/
  | unreadable {machine path label found fault} (names : libraryOf? path = none)
    (source : path.endsWith sourceSuffix = true) (resolved : machine.resolveModule path = .ok found)
    (new : found ∉ machine.imported)
    (refused : readModule found (machine.noting found) = .error (.fault fault)
      (machine.noting found)) :
    Imports machine (.path path label) [(found, label)] (some fault) (machine.noting found)
  /-- Any other file is noted, read and gone through. -/
  | file {machine path label found program reads fault after} (names : libraryOf? path = none)
    (source : path.endsWith sourceSuffix = true) (resolved : machine.resolveModule path = .ok found)
    (new : found ∉ machine.imported) (held : machine.world.files.Spells found program)
    (through : Imports ((machine.noting found).inside found) (.statements label program) reads fault
      after) :
    Imports machine (.path path label) ((found, label) :: reads) fault
      (after.inDirectory machine.context.directory)
  /-- No statement is left. -/
  | done {machine label} : Imports machine (.statements label []) [] none machine
  /-- A function is registered. -/
  | function {machine label statement function rest reads fault after}
    (declares : statement.function? = some function)
    (others : Imports (machine.registering label function) (.statements label rest) reads fault
      after) :
    Imports machine (.statements label (statement :: rest)) reads fault after
  /-- An import is followed. -/
  | follow {machine label span path inner rest reads more fault middle after}
    (first : Imports machine (.path path inner) reads none middle)
    (others : Imports middle (.statements label rest) more fault after) :
    Imports machine (.statements label (.load span path inner :: rest)) (reads ++ more) fault after
  /-- An import that fails ends the task; the fault is blamed on it. -/
  | fail {machine label span path inner rest reads fault after}
    (first : Imports machine (.path path inner) reads (some fault) after) :
    Imports machine (.statements label (.load span path inner :: rest)) reads
      (some (fault.orAt span)) after
  /-- Every other statement is passed over. -/
  | pass {machine label statement rest reads fault after} (nothing : statement.function? = none)
    (other : statement.isLoad = false)
    (others : Imports machine (.statements label rest) reads fault after) :
    Imports machine (.statements label (statement :: rest)) reads fault after

/-- The names that a task makes known by itself if it goes well. -/
def ImportTask.names : ImportTask → List String
  | .path _ _ => []
  | .statements label program => (Stmt.declared program).map (qualified label)

namespace Imports

variable {machine after : Machine} {task : ImportTask} {reads : List (String × Option String)}
  {fault : Option Fault}

/-! ## What an import leaves as it was -/

/-- **An import changes the functions and the list of imported files, and nothing else.** -/
theorem after_eq (h : Imports machine task reads fault after) :
    after = { machine with
      functions := after.functions
      natives := after.natives
      imported := machine.imported ++ reads.map Prod.fst } := by
  induction h with
  | @library machine _ label _ natives _ _ =>
    rw [Machine.install_eq, List.map_nil, List.append_nil]
  | unknown | form | missing | again | done => rw [List.map_nil, List.append_nil]
  | unreadable => rfl
  | file _ _ _ _ _ _ ih =>
    -- The directory is set back, which undoes what going inside has changed.
    rw [ih]
    simp only [Machine.inDirectory, Machine.inside, Machine.noting, List.map_cons,
      List.append_assoc, List.singleton_append]
  | function _ _ ih =>
    rw [ih]
    rfl
  | follow _ _ ih ih' =>
    rw [ih', ih]
    simp only [List.map_append, List.append_assoc]
  | fail _ ih => exact ih
  | pass _ _ _ ih => exact ih

/-- The files stay while an import goes on. -/
theorem files_eq (h : Imports machine task reads fault after) :
    after.world.files = machine.world.files := by
  rw [h.after_eq]

/-- The list of imported files grows by those that are read. -/
theorem imported_eq (h : Imports machine task reads fault after) :
    after.imported = machine.imported ++ reads.map Prod.fst := by
  rw [h.after_eq]

/-! ## No file twice -/

/-- Every rule goes by steps. -/
theorem onward (h : Imports machine task reads fault after) : machine.Onward after := by
  have turned (machine : Machine) (directory : String) :
      machine.Onward (machine.inDirectory directory) := .of_step (.turn _)
  induction h with
  | library _ known =>
    exact .of_step (.steady (Machine.install_gentle _ (Native.isMild_of_library? known)).steady)
  | unknown | form | missing | again | done => exact .refl _
  | unreadable _ _ _ new _ => exact .of_step (.note new)
  | file _ _ _ new _ _ ih =>
    have noted : Machine.Onward _ (Machine.noting _ _) := .of_step (.note new)
    exact ((noted.trans (turned _ _)).trans ih).trans (turned _ _)
  | function _ _ ih => exact .trans (.of_step (.define _ _)) ih
  | follow _ _ ih ih' => exact ih.trans ih'
  | fail _ ih => exact ih
  | pass _ _ _ ih => exact ih

/-- **No file is read twice, nor one that was imported before.** -/
theorem nodup (h : Imports machine task reads fault after) :
    (reads.map Prod.fst).Nodup ∧ List.Disjoint machine.imported (reads.map Prod.fst) := by
  -- The list grows by what steps note, and that is what was read.
  obtain ⟨files, grown, distinct, apart⟩ := h.onward.imported
  rw [h.imported_eq] at grown
  obtain rfl := List.append_cancel_left grown
  exact ⟨distinct, apart⟩

/-- **What one import has read, no later one reads.** -/
theorem disjoint_of_onward {later final : Machine} {task' : ImportTask}
    {reads' : List (String × Option String)} {fault' : Option Fault}
    (first : Imports machine task reads fault after) (between : after.Onward later)
    (second : Imports later task' reads' fault' final) :
    List.Disjoint (reads.map Prod.fst) (reads'.map Prod.fst) := by
  obtain ⟨more, grown, _⟩ := between.imported
  intro file read read'
  refine second.nodup.2 ?_ read'
  rw [grown, first.imported_eq]
  exact List.mem_append_left _ (List.mem_append_right _ read)

/-! ## Every function of every file -/

/-- The name under which a registered function is known. -/
theorem name_qualified (function : Function) (label : Option String) :
    (function.qualified label).name = qualified label function.name := by
  cases label <;> rfl

/-- The names that statements make known are that of the first function and those of the rest. -/
theorem mem_names_cons {label : Option String} {statement : Stmt} {rest : List Stmt}
    {function : Function} {name : String} (declares : statement.function? = some function)
    (h : name ∈ (ImportTask.statements label (statement :: rest)).names) :
    name = qualified label function.name ∨ name ∈ (ImportTask.statements label rest).names := by
  simpa only [ImportTask.names, Stmt.declared, List.filterMap_cons, declares, List.map_cons,
    List.mem_cons] using h

/-- **An import that goes well has registered every function of every file that it has read**, under
the label that the file was read with, besides those that it was to register itself. -/
theorem delivers (h : Imports machine task reads none after) :
    (∀ name ∈ task.names, after.functions.contains name = true) ∧
    ∀ file label, (file, label) ∈ reads → ∃ program, machine.world.files.Spells file program ∧
      ∀ name ∈ Stmt.declared program,
        after.functions.contains (qualified label name) = true := by
  -- The induction is on the rules, with the good end as an equation: an import inside may only have
  -- ended well where the whole has.
  generalize ended : (none : Option Fault) = fault at h
  induction h with
  | library | again | done => exact ⟨fun _ none => (nomatch none), fun _ _ none => (nomatch none)⟩
  | unknown | form | missing | unreadable | fail => cases ended
  | @file machine path label found program reads fault after _ _ _ _ held through ih =>
    subst ended
    obtain ⟨names, files⟩ := ih rfl
    refine ⟨fun _ none => (nomatch none), fun file inner read => ?_⟩
    rcases List.mem_cons.mp read with here | inside
    · cases here
      refine ⟨program, held, fun name declared => ?_⟩
      exact names _ (List.mem_map_of_mem declared)
    · exact files file inner inside
  | @function machine label statement function rest reads fault after declares others ih =>
    subst ended
    obtain ⟨names, files⟩ := ih rfl
    refine ⟨fun name mem => ?_, files⟩
    have known : (machine.registering label function).functions.contains
        (qualified label function.name) = true := by
      rw [Machine.registering, Table.contains, Table.find?_insert, name_qualified, if_pos rfl]
      rfl
    rcases mem_names_cons declares mem with rfl | later
    · -- A later declaration may replace the function, but the name stays known.
      exact others.onward.functions known
    · exact names name later
  | follow first others ih ih' =>
    subst ended
    obtain ⟨_, files⟩ := ih rfl
    obtain ⟨names, files'⟩ := ih' rfl
    refine ⟨names, fun file label read => ?_⟩
    rcases List.mem_append.mp read with before | later
    · obtain ⟨program, held, known⟩ := files file label before
      exact ⟨program, held, fun name declared => others.onward.functions (known name declared)⟩
    · -- The first import has written no file, so the programs are those at the start.
      rw [first.files_eq] at files'
      exact files' file label later
  | pass nothing _ _ ih =>
    obtain ⟨names, files⟩ := ih ended
    refine ⟨fun name mem => names name ?_, files⟩
    simpa only [ImportTask.names, Stmt.declared, List.filterMap_cons, nothing] using mem

end Imports

/-! ## Every import comes to an end -/

namespace Eval

/-- How an import ends: well, or with a fault. -/
def importResult : Option Fault → Machine → EStateM.Result Stop Machine Unit
  | none, after => .ok () after
  | some fault, after => .error (.fault fault) after

/-- An evaluation does a task of an import as the rules say, and comes to an end. -/
def Follows (action : Eval Unit) (task : ImportTask) (machine : Machine) : Prop :=
  ∃ reads fault after, action machine = importResult fault after ∧
    Imports machine task reads fault after

variable {machine : Machine} {depth : Nat}

/-- What reading a module does on a machine. -/
theorem readModule_eq (path : String) (machine : Machine) :
    readModule path machine =
      (match machine.world.files.read path with
        | .error problem => fail (.moduleUnreadable path problem.render)
        | .ok source => ofExcept ((readProgram source).mapError
            (·.withHelp s!"while importing '{path}'")) : Eval (List Stmt)) machine := rfl

/-- A file that holds a program is read. -/
theorem readModule_of_spells {path : String} {program : List Stmt}
    (h : machine.world.files.Spells path program) :
    readModule path machine = .ok program machine := by
  obtain ⟨text, held, spelled⟩ := h
  rw [readModule_eq, held]
  dsimp only
  rw [spelled]
  rfl

/-- Reading a module changes nothing: the file holds a program, or there is a fault. -/
theorem readModule_cases (path : String) (machine : Machine) :
    (∃ program, machine.world.files.Spells path program) ∨
      ∃ fault, readModule path machine = .error (.fault fault) machine := by
  cases found : machine.world.files.read path with
  | error problem =>
    right
    rw [readModule_eq, found]
    exact ⟨_, rfl⟩
  | ok text =>
    cases read : readProgram text with
    | error fault =>
      right
      rw [readModule_eq, found]
      dsimp only
      rw [read]
      exact ⟨_, rfl⟩
    | ok program => exact .inl ⟨program, text, found, read⟩

/-- Statements are gone through to the end, if imports are followed as long as files are left. -/
theorem registerModule_follows {load : String → Option String → Eval Unit}
    (loads : ∀ path label machine, machine.unread < depth →
      Follows (load path label) (.path path label) machine)
    (label : Option String) (statements : List Stmt) (machine : Machine)
    (few : machine.unread < depth) :
    Follows (registerModule load label statements) (.statements label statements) machine := by
  induction statements generalizing machine with
  | nil => exact ⟨[], none, machine, rfl, .done⟩
  | cons statement rest ih =>
    -- What is passed over is gone through with the rest.
    have passed (nothing : statement.function? = none) (other : statement.isLoad = false) :
        Follows (registerModule load label rest) (.statements label (statement :: rest))
          machine := by
      obtain ⟨reads, fault, after, ran, others⟩ := ih machine few
      exact ⟨reads, fault, after, ran, .pass nothing other others⟩
    cases statement with
    | function span returns name params body =>
      have few' : (machine.registering label ⟨name, returns, params, body, span, none⟩).unread <
          depth := few
      obtain ⟨reads, fault, after, ran, others⟩ := ih _ few'
      exact ⟨reads, fault, after, ran, .function rfl others⟩
    | load span path inner =>
      obtain ⟨reads, fault, middle, ran, first⟩ := loads path inner machine few
      have opened : registerModule load label (.load span path inner :: rest) machine =
          (blaming span (load path inner) >>= fun _ => registerModule load label rest) machine :=
        rfl
      unfold Follows
      rw [opened]
      simp only [Bind.bind, EStateM.bind, blaming, ran]
      cases fault with
      | some fault => exact ⟨reads, some (fault.orAt span), middle, rfl, .fail first⟩
      | none =>
        -- What the import has read no longer counts, so the bound holds for the rest as well.
        have fewer : middle.unread < depth := by
          refine Nat.lt_of_le_of_lt (Machine.unread_anti first.files_eq ?_) few
          rw [first.imported_eq]
          exact List.subset_append_left ..
        obtain ⟨more, fault, after, continued, others⟩ := ih middle fewer
        exact ⟨reads ++ more, fault, after, continued, .follow first others⟩
    | _ => exact passed rfl rfl

section File

variable {load : String → Option String → Eval Unit} {path found : String} {label : Option String}

/-- The import of a file that was found: it is passed over if it was imported before, and else
noted, read and gone through in its directory. -/
theorem loadFile_of_resolved (resolved : machine.resolveModule path = .ok found) :
    loadFile load path label machine =
      (if machine.imported.contains found = true then pure ()
      else modify (·.noting found) >>= fun _ => readModule found >>= fun program =>
        get >>= fun noted =>
          bracket (·.inDirectory ((parentPath? found).getD noted.context.directory))
            (·.inDirectory noted.context.directory) (registerModule load label program) :
        Eval Unit) machine := by
  have opened : loadFile load path label machine =
      (ofExcept (machine.resolveModule path) >>= fun found => get >>= fun seen =>
        if seen.imported.contains found = true then pure ()
        else modify (·.noting found) >>= fun _ => readModule found >>= fun program =>
          get >>= fun noted =>
            bracket (·.inDirectory ((parentPath? found).getD noted.context.directory))
              (·.inDirectory noted.context.directory) (registerModule load label program))
        machine := rfl
  rw [opened, resolved]
  rfl

/-- A file that was imported before is passed over. -/
theorem loadFile_of_old (resolved : machine.resolveModule path = .ok found)
    (old : found ∈ machine.imported) : loadFile load path label machine = .ok () machine := by
  have contained : machine.imported.contains found = true := by simpa using old
  rw [loadFile_of_resolved resolved, if_pos contained]
  rfl

/-- A file that was not imported before is noted, and then read. -/
theorem loadFile_of_new (resolved : machine.resolveModule path = .ok found)
    (new : found ∉ machine.imported) :
    loadFile load path label machine =
      (readModule found >>= fun program => get >>= fun noted =>
        bracket (·.inDirectory ((parentPath? found).getD noted.context.directory))
          (·.inDirectory noted.context.directory) (registerModule load label program))
        (machine.noting found) := by
  have absent : ¬ machine.imported.contains found = true := by simpa using new
  rw [loadFile_of_resolved resolved, if_neg absent]
  rfl

/-- What happens between a change of the machine and its undoing ends the same way. -/
theorem bracket_of_ends {before undo : Machine → Machine} {action : Eval Unit}
    {fault : Option Fault} {after : Machine}
    (ran : action (before machine) = importResult fault after) :
    bracket before undo action machine = importResult fault (undo after) := by
  unfold bracket
  rw [ran]
  cases fault <;> rfl

/-- **A file is imported to the end**, if imports are followed as long as fewer files are left. -/
theorem loadFile_follows
    (loads : ∀ path label machine, machine.unread < depth →
      Follows (load path label) (.path path label) machine)
    (names : libraryOf? path = none) (source : path.endsWith sourceSuffix = true)
    (label : Option String) (few : machine.unread < depth + 1) :
    Follows (loadFile load path label) (.path path label) machine := by
  cases resolved : machine.resolveModule path with
  | error fault =>
    refine ⟨[], some fault, machine, ?_, .missing names source resolved⟩
    have opened : loadFile load path label machine =
        (ofExcept (machine.resolveModule path) >>= _) machine := rfl
    rw [opened, resolved]
    rfl
  | ok found =>
    by_cases old : found ∈ machine.imported
    · exact ⟨[], none, machine, loadFile_of_old resolved old, .again names source resolved old⟩
    · -- The file is noted before it is read, so that it is not read again inside itself.
      obtain ⟨directory, located⟩ := Machine.exists_of_resolveModule resolved
      have fewer : (machine.noting found).unread < depth := by
        have := Machine.unread_lt located old
        unfold Machine.noting
        omega
      unfold Follows
      rw [loadFile_of_new resolved old]
      rcases readModule_cases found (machine.noting found) with
        ⟨program, held⟩ | ⟨fault, refused⟩
      · obtain ⟨reads, fault, after, ran, through⟩ :=
          registerModule_follows loads label program ((machine.noting found).inside found) fewer
        refine ⟨(found, label) :: reads, fault, after.inDirectory machine.context.directory, ?_,
          .file names source resolved old held through⟩
        simp only [Bind.bind, EStateM.bind, readModule_of_spells held]
        exact bracket_of_ends ran
      · refine ⟨[(found, label)], some fault, machine.noting found, ?_,
          .unreadable names source resolved old refused⟩
        simp only [Bind.bind, EStateM.bind, refused]
        rfl

end File

/-- Imports inside each other follow the rules as long as files are left. -/
theorem loadWithin_follows (depth : Nat) (path : String) (label : Option String)
    (machine : Machine) (few : machine.unread < depth) :
    Follows (loadWithin depth path label) (.path path label) machine := by
  induction depth generalizing path label machine with
  | zero => exact absurd few (Nat.not_lt_zero _)
  | succ depth ih =>
    unfold loadWithin
    cases names : libraryOf? path with
    | some library =>
      dsimp only
      unfold loadLibrary
      cases known : Native.library? library with
      | some natives =>
        exact ⟨[], none, machine.install natives label, rfl, .library names known⟩
      | none => exact ⟨[], some _, machine, rfl, .unknown names known⟩
    | none =>
      dsimp only
      by_cases source : path.endsWith sourceSuffix = true
      · rw [if_pos source]
        exact loadFile_follows ih names source label few
      · rw [if_neg source]
        exact ⟨[], some _, machine, rfl, .form names source⟩

/-- **Every import follows the rules to an end**: no file is imported inside itself, so that there
are never more imports inside each other than files. -/
theorem load_follows (path : String) (label : Option String) (machine : Machine) :
    Follows (load path label) (.path path label) machine := by
  have few : machine.unread < machine.world.files.files.entries.length + 2 :=
    Nat.lt_add_right 1 (Nat.lt_succ_of_le machine.unread_le)
  have opened : load path label machine =
      loadWithin (machine.world.files.files.entries.length + 2) path label machine := rfl
  unfold Follows
  rw [opened]
  exact loadWithin_follows _ path label machine few

end Eval

end ReactiveScript
