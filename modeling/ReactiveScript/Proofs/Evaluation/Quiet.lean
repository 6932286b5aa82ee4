import ReactiveScript.Library.Dispatch
import ReactiveScript.Machine.Import
import ReactiveScript.Machine.Notify
import ReactiveScript.Proofs.Evaluation.Effect

/-! # Quiet evaluations

Much of what a program does touches neither containers nor variables nor the calls that are going
on: starting handlers, defining functions, importing, printing, asking for random numbers. Such
evaluations are `Quiet`. The main statements are `load_quiet` (an import is quiet although it moves
to another directory meanwhile) and `notifyContainer_quiet` (telling the watches is quiet). -/

namespace ReactiveScript

/-- Whether a built-in function is one of the language: it belongs to no host and does not wait for
handlers. -/
def Native.isOwn : Native → Bool
  | .settle => false
  | .host _ => false
  | _ => true

/-- A function of the language does not wait for handlers. -/
theorem Native.ne_settle_of_isOwn {native : Native} (own : native.isOwn = true) :
    native ≠ .settle := by
  rintro rfl
  cases own

/-- A function of the language belongs to no host. -/
theorem Native.ne_host_of_isOwn {native : Native} (own : native.isOwn = true)
    (run : Call → Alloc Value) : native ≠ .host run := by
  rintro rfl
  cases own

/-- Whether a value is no container. -/
def Value.isPlain : Value → Bool
  | .list _ => false
  | .dict _ => false
  | _ => true

/-- An integer result is no container. -/
theorem Value.isPlain_of_intOr {cause : Cause} {word : Option Int64} {result : Value}
    (h : Value.intOr cause word = .ok result) : result.isPlain = true := by
  cases word with
  | none => cases h
  | some n =>
    cases h
    rfl

namespace Table

variable {α : Type}

/-- An entry after a name is set is the one that was set, or was there before. -/
theorem mem_insertEntry {name : String} {value : α} {entry : String × α} :
    ∀ {entries : List (String × α)}, entry ∈ insertEntry name value entries →
      entry = (name, value) ∨ entry ∈ entries
  | [], h => .inl (List.mem_singleton.mp h)
  | (other, old) :: rest, h => by
    unfold insertEntry at h
    split at h
    · rcases List.mem_cons.mp h with rfl | h
      · exact .inl rfl
      · exact .inr (List.mem_cons_of_mem _ h)
    · rcases List.mem_cons.mp h with rfl | h
      · exact .inr List.mem_cons_self
      · exact (mem_insertEntry h).imp_right (List.mem_cons_of_mem _)

/-- An entry of a table after a name is set is the one that was set, or was there before. -/
theorem mem_insert {table : Table α} {name : String} {value : α} {entry : String × α}
    (h : entry ∈ (table.insert name value).entries) :
    entry = (name, value) ∨ entry ∈ table.entries := mem_insertEntry h

/-- What a name stands for is an entry. -/
theorem mem_of_findEntry {name : String} {value : α} :
    ∀ {entries : List (String × α)}, findEntry name entries = some value → (name, value) ∈ entries
  | (other, old) :: rest, h => by
    unfold findEntry at h
    split at h
    · rename_i same
      cases h
      subst same
      exact List.mem_cons_self
    · exact List.mem_cons_of_mem _ (mem_of_findEntry h)

/-- What a name stands for in a table is an entry of it. -/
theorem mem_of_find? {table : Table α} {name : String} {value : α}
    (h : table.find? name = some value) : (name, value) ∈ table.entries := mem_of_findEntry h

end Table

namespace Machine

/-- Neither containers nor variables nor the calls that are going on are touched, and the built-in
functions that are new are those of the language. -/
structure Quiet (before after : Machine) : Prop where
  /-- The containers are as before. -/
  store : after.store = before.store
  /-- The variables are as before. -/
  scopes : after.scopes = before.scopes
  /-- As many calls are going on. -/
  callDepth : after.context.callDepth = before.context.callDepth
  /-- The same module is running. -/
  label : after.context.label = before.context.label
  /-- Imports are resolved against the same directory. -/
  directory : after.context.directory = before.context.directory
  /-- New built-in functions are functions of the language. -/
  natives : ∀ entry ∈ after.natives.entries,
    entry ∈ before.natives.entries ∨ entry.2.isOwn = true

namespace Quiet

variable {before middle after : Machine}

/-- Doing nothing is quiet. -/
theorem refl (machine : Machine) : Quiet machine machine :=
  ⟨rfl, rfl, rfl, rfl, rfl, fun _ h => .inl h⟩

/-- Two quiet changes are one. -/
theorem trans (first : Quiet before middle) (second : Quiet middle after) : Quiet before after where
  store := second.store.trans first.store
  scopes := second.scopes.trans first.scopes
  callDepth := second.callDepth.trans first.callDepth
  label := second.label.trans first.label
  directory := second.directory.trans first.directory
  natives entry h := by
    rcases second.natives entry h with h | own
    · exact first.natives entry h
    · exact .inr own

end Quiet

/-- Moving to another place of the program is quiet. -/
theorem quiet_current (machine : Machine) (span : Span) :
    Quiet machine { machine with context := { machine.context with current := span } } :=
  ⟨rfl, rfl, rfl, rfl, rfl, fun _ h => .inl h⟩

/-- Changing what surrounds the program is quiet. -/
theorem quiet_world (machine : Machine) (world : World) : Quiet machine { machine with world } :=
  ⟨rfl, rfl, rfl, rfl, rfl, fun _ h => .inl h⟩

/-- Changing who waits for signals is quiet. -/
theorem quiet_signals (machine : Machine) (signals : SignalTable) :
    Quiet machine { machine with signals } :=
  ⟨rfl, rfl, rfl, rfl, rfl, fun _ h => .inl h⟩

/-- Changing who waits for variables is quiet. -/
theorem quiet_watches (machine : Machine) (watches : WatchTable) :
    Quiet machine { machine with watches } :=
  ⟨rfl, rfl, rfl, rfl, rfl, fun _ h => .inl h⟩

/-- Changing the line of handlers is quiet. -/
theorem quiet_pending (machine : Machine) (pending : List Pending) :
    Quiet machine { machine with pending } :=
  ⟨rfl, rfl, rfl, rfl, rfl, fun _ h => .inl h⟩

/-- Stopping the machine is quiet. -/
theorem quiet_running (machine : Machine) (running : Bool) :
    Quiet machine { machine with running } :=
  ⟨rfl, rfl, rfl, rfl, rfl, fun _ h => .inl h⟩

/-- Printing is quiet. -/
theorem print_quiet (machine : Machine) (text : String) : Quiet machine (machine.print text) :=
  machine.quiet_world _

/-- Putting bodies in line as handlers is quiet. -/
theorem startAll_quiet (machine : Machine) (label : String) (bodies : List HandlerBody) :
    Quiet machine (machine.startAll label bodies) := by
  unfold startAll
  induction bodies.zipIdx generalizing machine with
  | nil => exact .refl machine
  | cons body rest ih =>
    have started : Quiet machine (machine.start s!"{label}#{body.2}" body.1) :=
      ⟨rfl, rfl, rfl, rfl, rfl, fun _ h => .inl h⟩
    exact started.trans (ih _)

/-- Telling the watches of a variable is quiet. -/
theorem notifyVariable_quiet (machine : Machine) (name : String) :
    Quiet machine (machine.notifyVariable name) := by
  unfold notifyVariable
  split
  · exact startAll_quiet machine _ _
  · exact .refl machine

/-- Telling the variables that hold a container is quiet. -/
theorem notifyContainer_quiet (machine : Machine) (container : Value) :
    Quiet machine (machine.notifyContainer container) := by
  unfold notifyContainer
  induction machine.subscribers container generalizing machine with
  | nil => exact .refl machine
  | cons name rest ih =>
    rw [List.foldl_cons]
    refine Quiet.trans ?_ (ih _)
    split
    · exact notifyVariable_quiet machine name
    · exact .refl machine

/-- Installing functions of the language is quiet. -/
theorem install_quiet (machine : Machine) (label : Option String)
    {natives : List (String × Native)} (own : ∀ entry ∈ natives, entry.2.isOwn = true) :
    Quiet machine (machine.install natives label) := by
  unfold install
  induction natives generalizing machine with
  | nil => exact .refl machine
  | cons native rest ih =>
    have registered : Quiet machine (machine.register (qualified label native.1) native.2) := by
      refine ⟨rfl, rfl, rfl, rfl, rfl, fun entry h => ?_⟩
      rcases Table.mem_insert h with rfl | h
      · exact .inr (own native List.mem_cons_self)
      · exact .inl h
    exact registered.trans (ih _ fun entry h => own entry (List.mem_cons_of_mem _ h))

end Machine

/-- The libraries hold functions of the language. -/
theorem Native.isOwn_of_library? {library : String} {natives : List (String × Native)}
    (h : Native.library? library = some natives) : ∀ entry ∈ natives, entry.2.isOwn = true := by
  unfold Native.library? at h
  split at h <;> cases h <;> decide

/-- The functions that are always there are functions of the language. -/
theorem Native.isOwn_of_mem_standard {entry : String × Native}
    (mem : entry ∈ Native.standard.entries) : entry.2.isOwn = true := by
  have own : ∀ entry ∈ Native.standard.entries, entry.2.isOwn = true := by decide
  exact own entry mem

namespace Eval

/-- A quiet evaluation. -/
abbrev IsQuiet {α : Type} (action : Eval α) (machine : Machine) : Prop :=
  Keeps action Machine.Quiet machine fun _ _ => True

/-- A quiet evaluation that gives no container. -/
abbrev IsQuietPlain (action : Eval Value) (machine : Machine) : Prop :=
  Keeps action Machine.Quiet machine fun _ value => value.isPlain = true

/-- A value that is no container after a quiet evaluation. -/
theorem IsQuiet.plain {α : Type} {action : Eval α} {value : α → Value} {machine : Machine}
    (h : IsQuiet action machine) (plain : ∀ result, (value result).isPlain = true) :
    IsQuietPlain (do return value (← action)) machine :=
  Keeps.bind Machine.Quiet.trans h fun after result _ _ => Keeps.pure (.refl after) (plain result)

/-- Going through the containers is quiet. -/
theorem looking_quiet {α : Type} (look : Store → Except Stop α) (machine : Machine) :
    IsQuiet (looking look) machine :=
  Keeps.looking (.refl machine) fun _ _ => trivial

/-- The texts of values are read off the machine. -/
theorem mapM_render_quiet (values : List Value) (machine : Machine) :
    IsQuiet (values.mapM render) machine := by
  induction values generalizing machine with
  | nil => exact Keeps.pure (.refl machine) trivial
  | cons value rest ih =>
    rw [List.mapM_cons]
    refine Keeps.bind Machine.Quiet.trans (looking_quiet _ machine) fun after _ _ _ => ?_
    exact Keeps.bind Machine.Quiet.trans (ih after) fun final _ _ _ =>
      Keeps.pure (.refl final) trivial

/-- Printing values is quiet. -/
theorem print_quiet (call : Call) (machine : Machine) : IsQuietPlain (print call) machine := by
  refine Keeps.bind Machine.Quiet.trans (mapM_render_quiet call.arguments machine)
    fun after _ _ _ => ?_
  exact Keeps.change_bind Machine.Quiet.trans (after.print_quiet _) (Keeps.pure (.refl _) rfl)

/-- Reading a line is quiet. -/
theorem readLine_quiet (machine : Machine) : IsQuietPlain readLine machine := by
  refine Keeps.get ?_
  dsimp only
  split
  · exact Keeps.change_bind Machine.Quiet.trans (machine.quiet_world _) (Keeps.throw (.refl _))
  · exact Keeps.change_bind Machine.Quiet.trans (machine.quiet_world _)
      (Keeps.pure (.refl _) rfl)

/-- Reading a line after a prompt is quiet. -/
theorem input_quiet (call : Call) (machine : Machine) : IsQuietPlain (input call) machine := by
  unfold input
  split
  · refine Keeps.looking_bind (.refl machine) fun text _ => ?_
    exact Keeps.change_bind Machine.Quiet.trans (machine.print_quiet _) (readLine_quiet _)
  · exact readLine_quiet machine

/-- Reading a file changes nothing. -/
theorem readFile_quiet (path : String) (machine : Machine) : IsQuiet (readFile path) machine := by
  refine Keeps.get ?_
  split
  · exact Keeps.pure (.refl machine) trivial
  · exact Keeps.fail (.refl machine)

/-- Writing a file is quiet. -/
theorem writeFile_quiet (path text : String) (machine : Machine) :
    IsQuiet (writeFile path text) machine := by
  refine Keeps.get ?_
  split
  · exact Keeps.change (machine.quiet_world _) trivial
  · exact Keeps.fail (.refl machine)

/-- A pause is quiet. -/
theorem pause_quiet (seconds : Float) (machine : Machine) : IsQuiet (pause seconds) machine := by
  unfold pause
  split
  · exact Keeps.fail (.refl machine)
  · split
    · exact Keeps.fail (.refl machine)
    · exact Keeps.change (machine.quiet_world _) trivial

/-- Asking for a random word is quiet. -/
theorem randomWord_quiet (machine : Machine) : IsQuiet randomWord machine :=
  Keeps.get (Keeps.change_bind Machine.Quiet.trans (machine.quiet_world _)
    (Keeps.pure (.refl _) trivial))

/-- Declaring a signal is quiet. -/
theorem declareSignal_quiet (name : String) (machine : Machine) :
    IsQuiet (declareSignal name) machine :=
  Keeps.reading_bind (.refl machine) fun signals _ =>
    Keeps.change (machine.quiet_signals signals) trivial

/-- Letting a body wait for a signal is quiet. -/
theorem attachHandler_quiet (name : String) (body : HandlerBody) (machine : Machine) :
    IsQuiet (attachHandler name body) machine :=
  Keeps.reading_bind (.refl machine) fun signals _ =>
    Keeps.change (machine.quiet_signals signals) trivial

/-- Emitting a signal is quiet: the bodies only get in line. -/
theorem emit_quiet (name : String) (machine : Machine) : IsQuiet (emit name) machine :=
  Keeps.reading_bind (.refl machine) fun bodies _ =>
    Keeps.change (machine.startAll_quiet _ bodies) trivial

/-- Defining a function is quiet. -/
theorem define_quiet (function : Function) (machine : Machine) :
    IsQuiet (define function) machine :=
  Keeps.change ⟨rfl, rfl, rfl, rfl, rfl, fun _ h => .inl h⟩ trivial

/-- Importing a library is quiet. -/
theorem loadLibrary_quiet (library : String) (label : Option String) (machine : Machine) :
    IsQuiet (loadLibrary library label) machine := by
  unfold loadLibrary
  split
  · rename_i natives found
    exact Keeps.change (machine.install_quiet label (Native.isOwn_of_library? found)) trivial
  · exact Keeps.fail (.refl machine)

/-- Reading a module changes nothing. -/
theorem readModule_quiet (path : String) (machine : Machine) :
    IsQuiet (readModule path) machine := by
  refine Keeps.get ?_
  split
  · exact Keeps.fail (.refl machine)
  · exact Keeps.ofExcept (.refl machine) fun _ _ => trivial

/-- Registering a module is quiet if the imports in it are. -/
theorem registerModule_quiet {load : String → Option String → Eval Unit}
    (quiet : ∀ path label machine, IsQuiet (load path label) machine) (label : Option String)
    (statements : List Stmt) (machine : Machine) :
    IsQuiet (registerModule load label statements) machine := by
  induction statements generalizing machine with
  | nil => exact Keeps.pure (.refl machine) trivial
  | cons statement rest ih =>
    -- Of a module only the functions and the imports count.
    cases statement with
    | function span returns name params body =>
      exact Keeps.bind Machine.Quiet.trans (define_quiet _ machine) fun after _ _ _ => ih after
    | load span path inner =>
      exact Keeps.bind Machine.Quiet.trans (quiet path inner machine).blaming
        fun after _ _ _ => ih after
    | _ => exact ih machine

/-- Importing a file is quiet if the imports in it are: the directory of the file is left again. -/
theorem loadFile_quiet {load : String → Option String → Eval Unit}
    (quiet : ∀ path label machine, IsQuiet (load path label) machine) (path : String)
    (label : Option String) (machine : Machine) : IsQuiet (loadFile load path label) machine := by
  unfold loadFile
  have resolved : IsQuiet (reading (·.resolveModule path)) machine :=
    Keeps.reading (.refl machine) fun _ _ => trivial
  refine Keeps.bind Machine.Quiet.trans resolved fun after found _ _ => ?_
  refine Keeps.get ?_
  split
  · exact Keeps.pure (.refl after) trivial
  · refine Keeps.change_bind Machine.Quiet.trans
      ⟨rfl, rfl, rfl, rfl, rfl, fun _ h => .inl h⟩ ?_
    refine Keeps.bind Machine.Quiet.trans (readModule_quiet _ _) fun after program _ _ => ?_
    -- Inside, imports are resolved against the directory of the file, which is put back behind it.
    refine Keeps.get (Keeps.bracket (registerModule_quiet quiet label program _) ?_ ?_)
    · intro final inside
      exact ⟨inside.store, inside.scopes, inside.callDepth, inside.label, rfl, inside.natives⟩
    · exact fun _ _ => trivial

/-- Imports inside each other are quiet. -/
theorem loadWithin_quiet (depth : Nat) (path : String) (label : Option String)
    (machine : Machine) : IsQuiet (loadWithin depth path label) machine := by
  induction depth generalizing path label machine with
  | zero => exact Keeps.throw (.refl machine)
  | succ depth ih =>
    unfold loadWithin
    split
    · exact loadLibrary_quiet _ _ machine
    · split
      · exact loadFile_quiet ih path label machine
      · exact Keeps.fail (.refl machine)

/-- **An import is quiet.** Whatever files it follows, and whether it succeeds or not, the program
goes on in the directory and the module where it was. -/
theorem load_quiet (path : String) (label : Option String) (machine : Machine) :
    IsQuiet (load path label) machine :=
  Keeps.get (loadWithin_quiet _ path label machine)

end Eval

end ReactiveScript
