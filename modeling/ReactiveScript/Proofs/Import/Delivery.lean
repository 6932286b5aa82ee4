import ReactiveScript.Proofs.Halting.Session
import ReactiveScript.Proofs.Import.Trace

/-! # What imports deliver

An import is a task that always comes to an end, and in a whole run no file is read twice: that is
`load_reads_each_file_once`. Hence what an import delivers depends on what was imported before. The
first import of a file makes its functions known under the label that it names, and they stay known
(`load_delivers`); every later import of the file succeeds and does nothing, so that another label
comes to nothing (`second_label_delivers_nothing`). -/

namespace ReactiveScript

open Eval

/-! ## Each file once -/

/-- **Whatever a host demands of a machine leads onward.** -/
theorem Machine.onward_demand (machine : Machine) (budget : Nat) (demand : Demand) :
    machine.Onward (machine.perform (demand.action budget)).machine := by
  have ran (statements : List Stmt) :
      Regime.onward.Obeys (program budget statements) machine :=
    Regime.onward_halting (Regime.onward_lasting.topLevel budget .void statements machine)
  have obeys : Regime.onward.Obeys (demand.action budget) machine := by
    cases demand with
    | run statements => exact ran statements
    | evaluate expression => exact Regime.onward_lasting.exprWithin budget expression machine
    | source text =>
      unfold Demand.action Eval.source
      dsimp only
      cases readProgram text with
      | ok statements => exact ran statements
      | error fault =>
        have failed : Regime.onward.Obeys (throw (.fault fault) : Eval Value) machine :=
          Machine.Onward.refl machine
        exact Regime.onward_halting failed
  exact Regime.onward_lasting.perform obeys

/-- **Importing comes to an end and reads each file once, whatever files import each other.** On
every machine, an import ends well or with a fault and never is cut off, as the rules say: of a file
nothing is done but that functions are registered and imports are followed. Everything but the
functions and the list of imported files is as before. The files that are read are all different,
none was imported before, and none is read by an import at any later moment. In a whole run,
whatever is demanded and whatever handlers run, the list of imported files grows by files that are
all different and new. -/
theorem load_reads_each_file_once (path : String) (label : Option String) (machine : Machine) :
    (∃ reads fault after,
      load path label machine = importResult fault after ∧
      Imports machine (.path path label) reads fault after ∧
      after = { machine with
        functions := after.functions
        natives := after.natives
        imported := machine.imported ++ reads.map Prod.fst } ∧
      (reads.map Prod.fst).Nodup ∧ List.Disjoint machine.imported (reads.map Prod.fst) ∧
      ∀ later path' label', after.Onward later →
        ∃ reads' fault' final,
          load path' label' later = importResult fault' final ∧
          Imports later (.path path' label') reads' fault' final ∧
          List.Disjoint (reads.map Prod.fst) (reads'.map Prod.fst)) ∧
    (∀ later, machine.Onward later → ∃ files, later.imported = machine.imported ++ files ∧
      files.Nodup ∧ List.Disjoint machine.imported files) ∧
    (∀ (budget : Nat) (demand : Demand),
      machine.Onward (machine.perform (demand.action budget)).machine) ∧
    ∀ budget, machine.Onward (machine.perform (waitForHandlers budget)).machine := by
  refine ⟨?_, fun _ onward => onward.imported, machine.onward_demand, fun budget => ?_⟩
  · obtain ⟨reads, fault, after, ran, course⟩ := load_follows path label machine
    refine ⟨reads, fault, after, ran, course, course.after_eq, course.nodup.1, course.nodup.2, ?_⟩
    intro later path' label' between
    obtain ⟨reads', fault', final, ran', course'⟩ := load_follows path' label' later
    exact ⟨reads', fault', final, ran', course', course.disjoint_of_onward between course'⟩
  · exact Regime.onward_lasting.perform (Regime.onward_lasting.waitForHandlers budget machine)

/-- Two files that import each other, one of which imports itself, too. -/
def circle : List (String × String) :=
  [("a.mun", "import <b.mun>; int f() \x7b return 1; \x7d"),
   ("b.mun", "import <a.mun> as x; import <b.mun>; int g() \x7b return 2; \x7d")]

/-- A machine in the circle, after the first file was imported. -/
def Machine.circled : Machine := ((Machine.amid circle).perform (load "a.mun" none)).machine

/-- In a circle of imports both files are read once, and both functions are known. -/
theorem circle_read_once :
    (∃ reads fault, load "a.mun" none (.amid circle) = importResult fault .circled ∧
      Imports (.amid circle) (.path "a.mun" none) reads fault .circled ∧
      reads.map Prod.fst = ["/d/a.mun", "/d/b.mun"] ∧ (reads.map Prod.fst).Nodup) ∧
    Machine.circled.functions.contains "f" = true ∧
      Machine.circled.functions.contains "g" = true := by
  have known : (Machine.circled.functions.contains "f" &&
      Machine.circled.functions.contains "g") = true := by decide +kernel
  have noted : Machine.circled.imported = ["/d/a.mun", "/d/b.mun"] := by decide +kernel
  refine ⟨?_, Bool.and_eq_true_iff.mp known⟩
  obtain ⟨⟨reads, fault, after, ran, course, same, distinct, _⟩, _⟩ :=
    load_reads_each_file_once "a.mun" none (.amid circle)
  have reached : Machine.circled = after := by
    unfold Machine.circled Machine.perform
    rw [ran]
    cases fault <;> rfl
  -- Nothing was imported at the start, so the list of imported files is that of the files read.
  rw [reached] at noted ⊢
  rw [same] at noted
  exact ⟨reads, fault, ran, course, noted, distinct⟩

/-! ## The functions of a file -/

namespace Imports

variable {machine after : Machine} {path : String} {label : Option String}
  {reads : List (String × Option String)}

/-- An import of a file that goes well has found the file, and has read it unless it was imported
before. -/
theorem exists_found (h : Imports machine (.path path label) reads none after)
    (names : libraryOf? path = none) :
    path.endsWith sourceSuffix = true ∧ ∃ found, machine.resolveModule path = .ok found ∧
      (found ∉ machine.imported → (found, label) ∈ reads) := by
  cases h with
  | library isLibrary _ =>
    rw [names] at isLibrary
    cases isLibrary
  | again _ source resolved old => exact ⟨source, _, resolved, fun new => absurd old new⟩
  | file _ source resolved _ _ _ => exact ⟨source, _, resolved, fun _ => List.mem_cons_self⟩

end Imports

namespace Eval

variable {budget : Nat} {span : Span} {path found : String} {label : Option String}
  {machine after : Machine} {flow : Flow}

/-- An import statement that goes well has followed the rules. -/
theorem imports_of_stmtWithin (running : machine.running = true)
    (ran : stmtWithin budget (.load span path label) machine = .ok flow after) :
    ∃ reads, Imports (movedTo machine span) (.path path label) reads none after := by
  have placed : (load path label >>= fun _ => pure (Flow.next .void)) (movedTo machine span) =
      .ok flow after := located_eq_ok running ran
  obtain ⟨_, middle, loaded, done⟩ := bind_eq_ok placed
  cases done
  -- The rules determine the end, and the statement has ended well.
  obtain ⟨reads, fault, final, ended, course⟩ := load_follows path label (movedTo machine span)
  rw [loaded] at ended
  cases fault with
  | some fault => cases ended
  | none =>
    cases ended
    exact ⟨reads, course⟩

/-- An import of a file that was imported before does nothing. -/
theorem load_of_imported (names : libraryOf? path = none)
    (source : path.endsWith sourceSuffix = true) (resolved : machine.resolveModule path = .ok found)
    (old : found ∈ machine.imported) : load path label machine = .ok () machine := by
  have opened : load path label machine =
      loadWithin (machine.world.files.files.entries.length + 1 + 1) path label machine := rfl
  rw [opened, loadWithin, names]
  dsimp only
  rw [if_pos source]
  exact loadFile_of_old resolved old

/-- An import statement that names a file which was imported before does nothing. -/
theorem stmtWithin_load_of_imported (running : machine.running = true)
    (names : libraryOf? path = none) (source : path.endsWith sourceSuffix = true)
    (resolved : machine.resolveModule path = .ok found) (old : found ∈ machine.imported) :
    stmtWithin budget (.load span path label) machine =
      .ok (.next .void) (movedTo machine span) := by
  have passed : load path label (movedTo machine span) = .ok () (movedTo machine span) :=
    load_of_imported names source resolved old
  have placed : stmtWithin budget (.load span path label) machine =
      blaming span (load path label >>= fun _ => pure (Flow.next .void)) (movedTo machine span) :=
    located_of_running running
  rw [placed]
  simp only [blaming, Bind.bind, EStateM.bind, passed]
  rfl

end Eval

/-- **The first import of a file delivers its functions, and they stay.** Let an import of a file
succeed, on any machine that is running. If the file was not imported before, it is read. Of every
file that is read, that one and those that it imports in turn, each function that the file declares
is known afterwards under the label of the import, and at every later moment; and every later import
of the file, under whatever label, succeeds and does nothing. -/
theorem load_delivers {budget : Nat} {span : Span} {path : String} {label : Option String}
    {machine after : Machine} {flow : Flow} (running : machine.running = true)
    (names : libraryOf? path = none)
    (ran : stmtWithin budget (.load span path label) machine = .ok flow after) :
    ∃ found reads, machine.resolveModule path = .ok found ∧
      Imports (movedTo machine span) (.path path label) reads none after ∧
      (found ∉ machine.imported → (found, label) ∈ reads) ∧
      ∀ file inner, (file, inner) ∈ reads →
        ∃ program, machine.world.files.Spells file program ∧
          ∀ later, after.Onward later →
            (∀ name ∈ Stmt.declared program,
              later.functions.contains (qualified inner name) = true) ∧
            ∀ budget' span' path' label', later.running = true → libraryOf? path' = none →
              path'.endsWith sourceSuffix = true → later.resolveModule path' = .ok file →
              stmtWithin budget' (.load span' path' label') later =
                .ok (.next .void) (movedTo later span') := by
  obtain ⟨reads, course⟩ := imports_of_stmtWithin running ran
  obtain ⟨_, found, resolved, read⟩ := course.exists_found names
  refine ⟨found, reads, resolved, course, read, fun file inner mem => ?_⟩
  obtain ⟨program, held, known⟩ := course.delivers.2 file inner mem
  refine ⟨program, held, fun later onward => ⟨fun name declared => ?_, ?_⟩⟩
  · exact onward.functions (known name declared)
  · intro budget' span' path' label' stillRunning names' source' resolved'
    refine stmtWithin_load_of_imported stillRunning names' source' resolved' ?_
    -- What was read is on the list, and the list only grows.
    obtain ⟨more, grown, _⟩ := onward.imported
    rw [grown, course.imported_eq]
    exact List.mem_append_left _ (List.mem_append_right _ (List.mem_map_of_mem mem))

/-- A program that declares one function. -/
def singleText : String := "int f() \x7b return 1; \x7d"

/-- A file that holds the program. -/
def single : List (String × String) := [("m.mun", singleText)]

/-- The statement that imports the file. -/
def loadSingle (label : Option String) : Stmt := .load (.at 1 1) "m.mun" label

/-- The machine after the file was imported under a label. -/
def Machine.having (label : Option String) : Machine :=
  ((Machine.amid single).perform (stmtWithin 1 (loadSingle label))).machine

/-- What the imports of the file come to: it is read, and it is imported under a label as well as
without one; so it is under a label after that, but then the function is not known behind it. -/
theorem single_runs :
    (Machine.amid single).world.files.read "/d/m.mun" = .ok singleText ∧
    libraryOf? "m.mun" = none ∧
    (Machine.amid single).resolveModule "m.mun" = .ok "/d/m.mun" ∧
    (readProgram singleText).toOption.map Stmt.declared = some ["f"] ∧
    ((Machine.amid single).perform (stmtWithin 1 (loadSingle (some "a")))).result.toBool = true ∧
    ((Machine.amid single).perform (stmtWithin 1 (loadSingle none))).result.toBool = true ∧
    (Machine.having none).resolveModule "m.mun" = .ok "/d/m.mun" ∧
    ((Machine.having none).perform (stmtWithin 1 (loadSingle (some "a")))).result.toBool = true ∧
    ((Machine.having none).perform
      (stmtWithin 1 (loadSingle (some "a")))).machine.functions.contains "a_f" = false := by
  decide +kernel

/-- The file holds a program that declares the function. -/
theorem single_spells : ∃ program, (Machine.amid single).world.files.Spells "/d/m.mun" program ∧
    Stmt.declared program = ["f"] := by
  obtain ⟨held, -, -, names, -⟩ := single_runs
  cases read : readProgram singleText with
  | error fault =>
    rw [read] at names
    cases names
  | ok program =>
    rw [read] at names
    exact ⟨program, ⟨_, held, read⟩, Option.some.inj names⟩

/-- Importing the file under a label makes its function known for good. -/
theorem single_delivers :
    ∃ flow, stmtWithin 1 (loadSingle (some "a")) (.amid single) = .ok flow (.having (some "a")) ∧
      ∀ later, (Machine.having (some "a")).Onward later →
        later.functions.contains "a_f" = true := by
  obtain ⟨-, names, resolves, -, well, -⟩ := single_runs
  obtain ⟨flow, ran⟩ := eq_ok_of_perform well
  refine ⟨flow, ran, fun later onward => ?_⟩
  obtain ⟨found, reads, resolved, _, read, delivered⟩ := load_delivers rfl names ran
  obtain rfl : "/d/m.mun" = found := Except.ok.inj (resolves.symm.trans resolved)
  obtain ⟨program, held, lasting⟩ := delivered _ _ (read (List.not_mem_nil))
  obtain ⟨program', held', declared⟩ := single_spells
  obtain rfl := held.unique held'
  exact (lasting later onward).1 "f" (declared ▸ List.mem_singleton.mpr rfl)

/-- **Another label comes to nothing**: where the file was imported without a label, an import under
a label succeeds as well, and yet the function that the file declares is not known under the
label. -/
theorem second_label_delivers_nothing :
    (∃ flow, stmtWithin 1 (loadSingle none) (.amid single) = .ok flow (.having none)) ∧
    (Machine.having none).resolveModule "m.mun" = .ok "/d/m.mun" ∧
    (∃ program, (Machine.having none).world.files.Spells "/d/m.mun" program ∧
      "f" ∈ Stmt.declared program) ∧
    ∃ flow after, stmtWithin 1 (loadSingle (some "a")) (.having none) = .ok flow after ∧
      after.functions.contains (qualified (some "a") "f") = false := by
  obtain ⟨-, -, -, -, -, first, resolves, second, unknown⟩ := single_runs
  obtain ⟨flow, ran⟩ := eq_ok_of_perform first
  obtain ⟨flow', ran'⟩ := eq_ok_of_perform second
  obtain ⟨reads, course⟩ := imports_of_stmtWithin rfl ran
  obtain ⟨program, held, declared⟩ := single_spells
  refine ⟨⟨flow, ran⟩, resolves, ⟨program, ?_, ?_⟩, flow', _, ran', unknown⟩
  · rw [Machine.having, course.files_eq]
    exact held
  · rw [declared]
    exact List.mem_singleton.mpr rfl

end ReactiveScript
