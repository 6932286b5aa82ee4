import ReactiveScript.Proofs.Regime.Broad

/-! # Imports under a broad regime

An import follows the imports of the file that it reads. Each of them notes a file that was not
noted before, so there are at most as many inside each other as there are files: an import is never
cut off for want of depth. What it makes available are functions of the language and functions that
modules declare, which a broad regime allows (`Regime.Broad.load`). -/

namespace ReactiveScript

open Eval

/-- How many files have not been imported. -/
def Machine.unread (machine : Machine) : Nat :=
  (machine.world.files.files.entries.filter fun entry =>
    !machine.imported.contains (machine.world.files.root ++ "/" ++ entry.1)).length

namespace Machine

variable {machine before after : Machine}

/-- At most all files have not been imported. -/
theorem unread_le (machine : Machine) :
    machine.unread ≤ machine.world.files.files.entries.length :=
  List.length_filter_le ..

/-- While the files stay and more of them are imported, no others are left to import. -/
theorem unread_sublist (tree : FileTree) {fewer more : List String} (imported : fewer ⊆ more) :
    (tree.files.entries.filter fun entry =>
        !more.contains (tree.root ++ "/" ++ entry.1)).Sublist
      (tree.files.entries.filter fun entry =>
        !fewer.contains (tree.root ++ "/" ++ entry.1)) := by
  refine List.monotone_filter_right _ fun entry left => ?_
  simp only [Bool.not_eq_true', List.contains_eq_mem, decide_eq_false_iff_not] at left ⊢
  exact fun read => left (imported read)

/-- While the files stay and more of them are imported, no more are left to import. -/
theorem unread_anti (files : after.world.files = before.world.files)
    (imported : before.imported ⊆ after.imported) : after.unread ≤ before.unread := by
  unfold unread
  rw [files]
  exact (unread_sublist _ imported).length_le

/-- The full path of a file is noted for an entry of the tree. -/
theorem exists_entry_of_fullPath? {tree : FileTree} {path found : String}
    (h : tree.fullPath? path = some found) :
    ∃ entry ∈ tree.files.entries, found = tree.root ++ "/" ++ entry.1 := by
  unfold FileTree.fullPath? at h
  split at h
  · cases h
  · rename_i place _
    split at h
    · rename_i content here
      cases h
      unfold FileTree.node at here
      dsimp only at here
      split at here
      · rename_i held found
        exact ⟨_, Table.mem_of_find? found, rfl⟩
      · split at here <;> cases here
    · cases h

/-- **Importing a file leaves fewer to import.** -/
theorem unread_lt {path found : String} (h : machine.world.files.fullPath? path = some found)
    (new : found ∉ machine.imported) :
    Machine.unread { machine with imported := machine.imported ++ [found] } < machine.unread := by
  obtain ⟨entry, held, rfl⟩ := exists_entry_of_fullPath? h
  have fewer := unread_sublist machine.world.files
    (List.subset_append_left machine.imported [machine.world.files.root ++ "/" ++ entry.1])
  refine Nat.lt_of_le_of_ne fewer.length_le fun same => ?_
  -- Were none fewer, the entry of the file would still be left.
  have left : entry ∈ machine.world.files.files.entries.filter fun entry =>
      !machine.imported.contains (machine.world.files.root ++ "/" ++ entry.1) :=
    List.mem_filter.mpr ⟨held, by simpa using new⟩
  rw [← fewer.eq_of_length same] at left
  simpa using (List.mem_filter.mp left).2

end Machine

namespace Machine

variable {machine : Machine}

/-- A module is found at its path behind one of the directories. -/
theorem exists_of_resolveModule {path found : String}
    (h : machine.resolveModule path = .ok found) :
    ∃ directory, machine.world.files.fullPath? (joinPath directory path) = some found := by
  unfold resolveModule at h
  split at h
  · rename_i place located
    cases h
    obtain ⟨candidate, listed, there⟩ := List.exists_of_findSome?_eq_some located
    obtain ⟨directory, _, rfl⟩ := List.mem_map.mp listed
    exact ⟨directory, there⟩
  · cases h

end Machine

namespace Eval

/-- Reading a module changes nothing, and gives the program that its text spells. -/
theorem readModule_eq_ok {path : String} {program : List Stmt} {machine after : Machine}
    (h : readModule path machine = .ok program after) :
    after = machine ∧ ∃ text, machine.world.files.read path = .ok text ∧
      readProgram text = .ok program := by
  obtain ⟨seen, middle, got, h⟩ := bind_eq_ok h
  cases got
  cases found : machine.world.files.read path with
  | error problem =>
    simp only [found] at h
    cases h
  | ok text =>
    simp only [found] at h
    cases read : readProgram text with
    | error fault =>
      simp only [read] at h
      cases h
    | ok statements =>
      simp only [read] at h
      cases h
      exact ⟨rfl, text, rfl, read⟩

end Eval

namespace Regime

variable {R : Regime} {machine : Machine}

/-- The regime of imports: besides, the files stay and what is imported stays imported. -/
def importing (R : Regime) : Regime where
  Ready := R.Ready
  May before after :=
    R.May before after ∧ after.world.files = before.world.files ∧
      before.imported ⊆ after.imported
  Cut := R.Cut
  ready_of_may h := R.ready_of_may h.1
  trans first second :=
    ⟨R.trans first.1 second.1, second.2.1.trans first.2.1,
      List.Subset.trans first.2.2 second.2.2⟩
  cut_trans h cut := R.cut_trans h.1 cut
  cut_of_may h := R.cut_of_may h.1
  orderly := R.orderly
  enlarge ready h known := by
    refine ⟨R.enlarge ready h known, ?_, ?_⟩
    · rw [h.rest]
    · rw [h.rest]
      exact List.Subset.refl _

/-- Reading a module. -/
theorem Obeys.readModule (path : String) (ready : R.Ready machine) :
    R.Obeys (Eval.readModule path) machine := by
  refine Obeys.get ?_
  split
  · exact Obeys.fail ready
  · exact Obeys.ofExcept ready

/-- What is borne while files are left to import is borne later, too. -/
theorem bears_unread {depth : Nat} {after : Machine}
    (h : R.Bears machine (machine.unread < depth)) (reached : R.importing.May machine after) :
    R.Bears after (after.unread < depth) := by
  obtain ⟨may, files, imported⟩ := reached
  refine (h.later may).imp_right fun few => ?_
  exact Nat.lt_of_le_of_lt (Machine.unread_anti files imported) few

namespace Broad

variable (broad : R.Broad)

include broad

/-- Importing a library. -/
theorem loadLibrary (library : String) (label : Option String) (ready : R.Ready machine) :
    R.importing.Obeys (Eval.loadLibrary library label) machine := by
  unfold Eval.loadLibrary
  split
  · rename_i natives found
    have installed : machine.Gentle (machine.install natives label) :=
      Machine.install_gentle label (Native.isMild_of_library? found)
    have memory : (machine.install natives label).memory = machine.memory := by
      rw [Machine.install_eq]
      rfl
    refine Obeys.change ⟨broad.may ready installed memory, ?_, ?_⟩
    · exact congrArg Footing.files installed.footing
    · rw [Machine.install_eq]
      exact List.Subset.refl _
  · exact Obeys.fail ready

/-- An import from another directory, after which the directory is what it was. -/
theorem inDirectory {action : Eval Unit} (inner outer : String) (ready : R.Ready machine)
    (h : R.importing.May machine (machine.inDirectory inner) →
      R.Ready (machine.inDirectory inner) →
      R.importing.Obeys action (machine.inDirectory inner)) :
    R.importing.Obeys (bracket (·.inDirectory inner) (·.inDirectory outer) action) machine := by
  have moved (machine : Machine) (directory : String) :
      machine.Gentle (machine.inDirectory directory) := .of_eq rfl rfl rfl
  have entered : R.importing.May machine (machine.inDirectory inner) :=
    ⟨broad.may ready (moved machine inner) rfl, rfl, List.Subset.refl _⟩
  refine Obeys.bracket (h entered (R.ready_of_may entered.1)) ?_ ?_
  · intro final inside
    have left : R.importing.May final (final.inDirectory outer) :=
      ⟨broad.may (R.ready_of_may inside.1) (moved final outer) rfl, rfl, List.Subset.refl _⟩
    exact R.importing.trans entered (R.importing.trans inside left)
  · intro final cut
    exact broad.cut_gentle (R.cut_trans entered.1 cut) (moved final outer)

/-- Registering a module, if the imports in it obey as long as files are left. -/
theorem registerModule {load : String → Option String → Eval Unit} {depth : Nat}
    (loads : ∀ path inner {machine : Machine}, R.Ready machine →
      R.Bears machine (machine.unread < depth) → R.importing.Obeys (load path inner) machine)
    (label : Option String) (statements : List Stmt) (ready : R.Ready machine)
    (few : R.Bears machine (machine.unread < depth))
    (bounded : R.Bears machine (Stmt.areBounded statements = true)) :
    R.importing.Obeys (Eval.registerModule load label statements) machine := by
  induction statements generalizing machine with
  | nil => exact Obeys.pure ready
  | cons statement rest ih =>
    have first : R.Bears machine (statement.isBounded = true) := bounded.left
    have others : R.Bears machine (Stmt.areBounded rest = true) := bounded.right
    cases statement with
    | function span returns name params body =>
      have defined : R.importing.Obeys
          (Eval.define (Function.qualified ⟨name, returns, params, body, span, none⟩ label))
          machine := by
        refine Obeys.change ⟨broad.define ready ?_, rfl, List.Subset.refl _⟩
        cases label <;> exact first
      refine defined.andThen fun _ after ready reached => ?_
      exact ih ready (bears_unread few reached) (others.later reached.1)
    | load span path inner =>
      refine (loads path inner ready few).blaming.andThen fun _ after ready reached => ?_
      exact ih ready (bears_unread few reached) (others.later reached.1)
    | _ => exact ih ready few others

/-- Importing a file, if the imports in it obey as long as files are left. -/
theorem loadFile {load : String → Option String → Eval Unit} {depth : Nat}
    (loads : ∀ path inner {machine : Machine}, R.Ready machine →
      R.Bears machine (machine.unread < depth) → R.importing.Obeys (load path inner) machine)
    {path : String} (source : path.endsWith sourceSuffix = true) (label : Option String)
    (ready : R.Ready machine) (few : R.Bears machine (machine.unread < depth + 1)) :
    R.importing.Obeys (Eval.loadFile load path label) machine := by
  refine Obeys.reading_bind ready fun found resolved => Obeys.get ?_
  obtain ⟨directory, located⟩ := Machine.exists_of_resolveModule resolved
  split
  · exact Obeys.pure ready
  · rename_i new
    -- The file is noted before it is read, so that it is not read again inside itself.
    have new : found ∉ machine.imported := by simpa using new
    have reached := broad.note ready new
    have fewer : R.Bears { machine with imported := machine.imported ++ [found] }
        (Machine.unread { machine with imported := machine.imported ++ [found] } < depth) := by
      refine (few.later reached).imp_right fun few => ?_
      have := Machine.unread_lt located new
      omega
    refine Obeys.change_bind ⟨reached, rfl, List.subset_append_left ..⟩ ?_
    refine Obeys.bind (Obeys.readModule found (R.ready_of_may reached)) ?_
    rintro program after read -
    obtain ⟨rfl, text, held, spelled⟩ := readModule_eq_ok read
    have ready := R.ready_of_may reached
    have bounded : R.Bears { machine with imported := machine.imported ++ [found] }
        (Stmt.areBounded program = true) :=
      (broad.modules ready).imp_right fun bounded =>
        bounded program ⟨directory, path, found, text, source, located, held, spelled⟩
    refine Obeys.get (broad.inDirectory _ _ ready fun entered ready => ?_)
    exact broad.registerModule loads label program ready (bears_unread fewer entered)
      (bounded.later entered.1)

/-- Imports inside each other, as long as files are left. -/
theorem loadWithin (depth : Nat) (path : String) (label : Option String) (ready : R.Ready machine)
    (few : R.Bears machine (machine.unread < depth)) :
    R.importing.Obeys (Eval.loadWithin depth path label) machine := by
  induction depth generalizing path label machine with
  | zero => exact Obeys.exhausted (few.resolve_right (Nat.not_lt_zero _))
  | succ depth ih =>
    unfold Eval.loadWithin
    split
    · exact broad.loadLibrary _ _ ready
    · split
      · rename_i source
        refine broad.loadFile (fun path inner machine ready few => ?_) source label ready few
        exact ih path inner ready few
      · exact Obeys.fail ready

/-- **An import obeys every broad regime.** It is not cut off: there are fewer files left to import
than imports may stand inside each other. -/
theorem load (path : String) (label : Option String) (ready : R.Ready machine) :
    R.Obeys (Eval.load path label) machine := by
  have few : machine.unread < machine.world.files.files.entries.length + 2 :=
    Nat.lt_add_right 1 (Nat.lt_succ_of_le machine.unread_le)
  have obeys : R.importing.Obeys (Eval.load path label) machine :=
    Obeys.get (broad.loadWithin _ path label ready (.inr few))
  exact obeys.mono (fun h => h.1) fun cut => cut

end Broad

end Regime

end ReactiveScript
