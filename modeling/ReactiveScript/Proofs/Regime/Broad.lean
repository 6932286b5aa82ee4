import ReactiveScript.Machine.Run
import ReactiveScript.Proofs.Evaluation.Quiet
import ReactiveScript.Proofs.Reactive.Dispatch
import ReactiveScript.Proofs.Regime.Expression

/-! # Broad regimes

Most of what a program does leaves alone what decides whether it comes to an end: whether the
machine is running, the settings, how deep calls are, the declared functions, the files and which of
them were imported. A broad regime allows all that where the machine stays in order, and says of the
rest (defining a function, writing or importing a file, a built-in function that does not return)
when it is allowed. Every function of the language but the one that puts something into a list obeys
every broad regime (`Regime.Broad.native`). -/

namespace ReactiveScript

open Eval

/-! ## Bounded programs -/

namespace Stmt

mutual

/-- Whether a statement is bounded: no loop with a condition, no assignment to an element and no
call of `append` is in it, nor in a body inside it. -/
def isBounded : Stmt → Bool
  | .expression _ value => value.isAppendFree
  | .declaration _ _ _ none => true
  | .declaration _ _ _ (some value) => value.isAppendFree
  | .assignment _ _ value => value.isAppendFree
  | .compound _ _ _ value => value.isAppendFree
  | .element .. => false
  | .function _ _ _ _ body => areBounded body
  | .leave _ none => true
  | .leave _ (some value) => value.isAppendFree
  | .raise _ value => value.isAppendFree
  | .load .. => true
  | .branch _ condition thenBody none => condition.isAppendFree && areBounded thenBody
  | .branch _ condition thenBody (some elseBody) =>
    condition.isAppendFree && (areBounded thenBody && areBounded elseBody)
  | .whileLoop .. => false
  | .untilLoop .. => false
  | .forLoop .. => false
  | .forEach _ _ _ iterable body => iterable.isAppendFree && areBounded body
  | .choice _ subject cases none => subject.isAppendFree && casesBounded cases
  | .choice _ subject cases (some body) =>
    subject.isAppendFree && (casesBounded cases && areBounded body)
  | .signal .. => true
  | .emit .. => true
  | .when _ _ body => areBounded body
  | .watch _ _ body => areBounded body

/-- Whether some statements are bounded. -/
def areBounded : List Stmt → Bool
  | [] => true
  | first :: rest => first.isBounded && areBounded rest

/-- Whether the cases of a choice are bounded. -/
def casesBounded : List (Case Stmt) → Bool
  | [] => true
  | ⟨_, label, body⟩ :: rest => label.isAppendFree && (areBounded body && casesBounded rest)

end

end Stmt

/-- A program that a module of a file tree holds: wherever it is imported from, it is found at some
path. -/
def FileTree.Module (tree : FileTree) (program : List Stmt) : Prop :=
  ∃ directory path found text, path.endsWith sourceSuffix = true ∧
    tree.fullPath? (joinPath directory path) = some found ∧ tree.read found = .ok text ∧
    readProgram text = .ok program

/-- The modules of a file tree are bounded. -/
def FileTree.Bounded (tree : FileTree) : Prop :=
  ∀ program, tree.Module program → Stmt.areBounded program = true

/-- Whether a built-in function is of the language and puts nothing into a container that is
there. -/
def Native.isMild : Native → Bool
  | .collection .append => false
  | native => native.isOwn

/-- A mild function is one of the language. -/
theorem Native.isOwn_of_isMild {native : Native} (mild : native.isMild = true) :
    native.isOwn = true := by
  unfold isMild at mild
  split at mild
  · cases mild
  · exact mild

/-- The functions of the libraries are mild. -/
theorem Native.isMild_of_library? {library : String} {natives : List (String × Native)}
    (h : Native.library? library = some natives) : ∀ entry ∈ natives, entry.2.isMild = true := by
  unfold Native.library? at h
  split at h <;> cases h <;> decide

/-! ## Steady changes -/

/-- What decides whether an evaluation comes to an end. -/
structure Footing where
  /-- Whether the machine is running. -/
  running : Bool
  /-- The settings. -/
  config : Config
  /-- How many calls are going on. -/
  callDepth : Nat
  /-- The declared functions. -/
  functions : Table Function
  /-- The files. -/
  files : FileTree
  /-- The files as they were after each change. -/
  revisions : List FileTree
  /-- The modules that were imported. -/
  imported : List String

namespace Machine

/-- What decides whether an evaluation on a machine comes to an end. -/
def footing (machine : Machine) : Footing where
  running := machine.running
  config := machine.config
  callDepth := machine.context.callDepth
  functions := machine.functions
  files := machine.world.files
  revisions := machine.world.revisions
  imported := machine.imported

/-- **A steady change**: the machine stands as it stood, and new built-in functions are functions of
the language. -/
structure Steady (before after : Machine) : Prop where
  /-- The machine stands as it stood. -/
  footing : after.footing = before.footing
  /-- New built-in functions are functions of the language. -/
  natives : ∀ entry ∈ after.natives.entries,
    entry ∈ before.natives.entries ∨ entry.2.isOwn = true

/-- **A gentle change**: the machine stands as it stood, new built-in functions are mild, and that
one did not return is not forgotten. -/
structure Gentle (before after : Machine) : Prop where
  /-- The machine stands as it stood. -/
  footing : after.footing = before.footing
  /-- New built-in functions are mild. -/
  natives : ∀ entry ∈ after.natives.entries,
    entry ∈ before.natives.entries ∨ entry.2.isMild = true
  /-- A function that did not return is not forgotten. -/
  hung : before.world.hung = true → after.world.hung = true

namespace Gentle

variable {before after : Machine}

/-- A gentle change is steady. -/
theorem steady (h : before.Gentle after) : before.Steady after :=
  ⟨h.footing, fun entry mem => (h.natives entry mem).imp_right Native.isOwn_of_isMild⟩

/-- A change that touches neither the footing nor the built-in functions. -/
theorem of_eq (footing : after.footing = before.footing) (natives : after.natives = before.natives)
    (hung : after.world.hung = before.world.hung) : before.Gentle after :=
  ⟨footing, fun _ mem => .inl (natives ▸ mem), hung.trans⟩

/-- A machine in order stays in order by a gentle change that leaves the memory alone. -/
theorem orderly (h : before.Gentle after) (orderly : before.Orderly)
    (memory : after.memory = before.memory) : after.Orderly :=
  orderly.of_memory memory h.steady.natives

end Gentle

variable {machine : Machine}

/-- Adding containers is gentle. -/
theorem Enlarged.gentle {before after : Machine} (h : before.Enlarged after) :
    before.Gentle after := by
  have rest := h.rest
  refine .of_eq ?_ ?_ ?_
  · rw [rest]
    rfl
  · rw [rest]
  · rw [rest]

/-- Noting that a built-in function did not return is steady. -/
theorem hang_steady (machine : Machine) : machine.Steady machine.hang :=
  ⟨rfl, fun _ mem => .inl mem⟩

/-- Changing the surroundings is gentle as far as the files stay. -/
theorem gentle_world {world : World} (files : world.files = machine.world.files)
    (revisions : world.revisions = machine.world.revisions)
    (hung : world.hung = machine.world.hung) : machine.Gentle { machine with world } := by
  refine .of_eq ?_ rfl hung
  simp only [footing, files, revisions]

/-- Putting handlers in line is gentle. -/
theorem lined_gentle (handlers : List Pending) : machine.Gentle (machine.lined handlers) :=
  .of_eq rfl rfl rfl

/-- Telling the watches of a variable is gentle. -/
theorem notifyVariable_gentle (name : String) : machine.Gentle (machine.notifyVariable name) := by
  rw [notifyVariable_eq]
  exact lined_gentle _

/-- Telling the watches of a variable leaves the memory alone. -/
theorem memory_notifyVariable (name : String) :
    (machine.notifyVariable name).memory = machine.memory := by
  rw [notifyVariable_eq]
  rfl

/-- Telling the variables that hold a container is gentle. -/
theorem notifyContainer_gentle (container : Value) :
    machine.Gentle (machine.notifyContainer container) := by
  rw [notifyContainer_eq]
  exact lined_gentle _

/-- Telling the variables that hold a container leaves the memory alone. -/
theorem memory_notifyContainer (container : Value) :
    (machine.notifyContainer container).memory = machine.memory := by
  rw [notifyContainer_eq]
  rfl

/-- Starting bodies is gentle. -/
theorem startAll_gentle (label : String) (bodies : List HandlerBody) :
    machine.Gentle (machine.startAll label bodies) := by
  rw [startAll_eq]
  exact lined_gentle _

/-- Starting bodies leaves the memory alone. -/
theorem memory_startAll (label : String) (bodies : List HandlerBody) :
    (machine.startAll label bodies).memory = machine.memory := by
  rw [startAll_eq]
  rfl

/-- Installing functions changes the built-in functions only. -/
theorem install_eq (machine : Machine) (natives : List (String × Native)) (label : Option String) :
    machine.install natives label =
      { machine with natives := (machine.install natives label).natives } := by
  unfold install
  induction natives generalizing machine with
  | nil => rfl
  | cons native rest ih =>
    rw [List.foldl_cons, ih]
    rfl

/-- The functions after some are installed are those that were there and the new ones. -/
theorem mem_install {natives : List (String × Native)} {label : Option String}
    {entry : String × Native} (mem : entry ∈ (machine.install natives label).natives.entries) :
    entry ∈ machine.natives.entries ∨ ∃ native ∈ natives, entry.2 = native.2 := by
  unfold install at mem
  induction natives generalizing machine with
  | nil => exact .inl mem
  | cons native rest ih =>
    rw [List.foldl_cons] at mem
    rcases ih mem with mem | ⟨other, listed, same⟩
    · rcases Table.mem_insert mem with rfl | mem
      · exact .inr ⟨native, List.mem_cons_self, rfl⟩
      · exact .inl mem
    · exact .inr ⟨other, List.mem_cons_of_mem _ listed, same⟩

/-- Installing mild functions is gentle. -/
theorem install_gentle (label : Option String) {natives : List (String × Native)}
    (mild : ∀ entry ∈ natives, entry.2.isMild = true) :
    machine.Gentle (machine.install natives label) := by
  refine ⟨?_, fun entry mem => ?_, ?_⟩
  · rw [install_eq]
    rfl
  · exact (mem_install mem).imp_right fun ⟨native, listed, same⟩ => same ▸ mild native listed
  · rw [install_eq]
    exact id

end Machine

/-! ## What a broad regime allows -/

namespace Regime

variable {R : Regime} {machine : Machine} {α β : Type}

/-- **A broad regime** allows what leaves the footing alone and the machine in order, and whatever a
bounded program may do besides. -/
structure Broad (R : Regime) : Prop where
  /-- What is gentle is allowed, if the machine stays in order or evaluations may be cut off. -/
  gentle {before after : Machine} : R.Ready before → before.Gentle after →
    R.Bears before after.Orderly → R.May before after
  /-- What is gentle may follow an evaluation that was cut off. -/
  cut_gentle {first second third : Machine} : R.Cut first second → second.Gentle third →
    R.Cut first third
  /-- A built-in function that does not return may be cut off. -/
  hang {before after : Machine} : R.May before after → R.Cut before after.hang
  /-- Files may be written. -/
  write {machine : Machine} (files : FileTree) : R.Ready machine →
    R.May machine { machine with
      world := { machine.world with files, revisions := machine.world.revisions ++ [files] } }
  /-- Bounded functions may be defined, and others where evaluations may be cut off. -/
  define {machine : Machine} {function : Function} : R.Ready machine →
    R.Bears machine (Stmt.areBounded function.body = true) →
    R.May machine { machine with functions := machine.functions.insert function.name function }
  /-- A file that was not imported may be noted. -/
  note {machine : Machine} {found : String} : R.Ready machine → found ∉ machine.imported →
    R.May machine { machine with imported := machine.imported ++ [found] }
  /-- Where evaluations may not be cut off, the modules are bounded. -/
  modules {machine : Machine} : R.Ready machine → R.Bears machine machine.world.files.Bounded

/-- An evaluation does what it may, also where it is cut off. -/
abbrev Stays (R : Regime) (action : Eval α) (machine : Machine) : Prop :=
  action.Keeps R.May machine fun _ _ => True

namespace Stays

variable {action : Eval α} {next : α → Eval β}

/-- One evaluation after the other. -/
theorem andThen (first : R.Stays action machine) (second : ∀ value {after}, R.Ready after →
      R.May machine after → R.Stays (next value) after) :
    R.Stays (action >>= next) machine := by
  refine Keeps.bind R.trans first fun after value reached _ => ?_
  exact second value (R.ready_of_may reached) reached

/-- A change of the machine followed by an evaluation. -/
theorem change_bind {alter : Machine → Machine} {follow : Unit → Eval β}
    (moved : R.May machine (alter machine))
    (h : R.Ready (alter machine) → R.Stays (follow ()) (alter machine)) :
    R.Stays (modify alter >>= follow) machine :=
  Keeps.change_bind R.trans moved (h (R.ready_of_may moved))

/-- Giving a value after an evaluation. -/
theorem returns (h : R.Stays action machine) (value : α → β) :
    R.Stays (do return value (← action)) machine :=
  h.andThen fun _ _ ready _ => Keeps.pure (R.refl ready) trivial

/-- An operation that adds containers. -/
theorem making {operation : Alloc α} {operands : List Value} {results : α → List Value}
    (op : Making machine.memory operation operands results) (ready : R.Ready machine)
    (has : R.Has machine operands) : R.Stays (Eval.alloc operation) machine :=
  Keeps.alloc (R.refl ready) fun _ _ ran => ⟨may_making op ready has ran, trivial⟩

/-- The text of a file. -/
theorem readFile (path : String) (ready : R.Ready machine) :
    R.Stays (Eval.readFile path) machine := by
  refine Keeps.get ?_
  split
  · exact Keeps.pure (R.refl ready) trivial
  · exact Keeps.fail (R.refl ready)

/-- The texts of values. -/
theorem mapM_render (values : List Value) (ready : R.Ready machine) :
    R.Stays (values.mapM render) machine := by
  induction values generalizing machine with
  | nil => exact Keeps.pure (R.refl ready) trivial
  | cons value rest ih =>
    rw [List.mapM_cons]
    refine Keeps.looking_bind (R.refl ready) fun text _ => ?_
    exact (ih ready).returns _

end Stays

namespace Broad

variable (broad : R.Broad) {call : Call}

include broad

/-- A gentle change that leaves the memory alone is allowed. -/
theorem may (ready : R.Ready machine) {after : Machine} (h : machine.Gentle after)
    (memory : after.memory = machine.memory) : R.May machine after :=
  broad.gentle ready h ((R.orderly ready).imp_right fun orderly => h.orderly orderly memory)

/-- A gentle change of the machine that leaves the memory alone. -/
theorem change {alter : Machine → Machine} (ready : R.Ready machine)
    (h : machine.Gentle (alter machine)) (memory : (alter machine).memory = machine.memory) :
    R.Obeys (modify alter) machine :=
  Obeys.change (broad.may ready h memory)

/-- An operation on a container that is there, where it holds no more afterwards. -/
theorem may_operation {operation : Alloc α} {operands : List Value} {results : α → List Value}
    {value : α} {store : Store} (op : Operation machine.memory operation operands results)
    (ready : R.Ready machine) (has : R.Has machine operands) (sheds : machine.store.Sheds store)
    (ran : operation.run machine.store = .ok (value, store)) :
    R.May machine { machine with store } := by
  refine broad.gentle ready (.of_eq rfl rfl rfl) ((known ready has).imp_right ?_)
  rintro ⟨orderly, held⟩
  obtain ⟨grown, sound, -⟩ := op.yields orderly.good.2 held _ _ ran
  exact ⟨⟨orderly.good.1, orderly.good.2.grows grown sound⟩, sheds.acyclic orderly.acyclic⟩

/-- Any operation on containers, where evaluations may be cut off. -/
theorem alloc (operation : Alloc α) (ready : R.Ready machine) (cut : R.Cut machine machine) :
    R.Stays (Eval.alloc operation) machine :=
  Keeps.alloc (R.refl ready) fun _ _ _ =>
    ⟨broad.gentle ready (.of_eq rfl rfl rfl) (.inl cut), trivial⟩

/-- An evaluation of which it is noted if it does not return. -/
theorem returning {action : Eval α} (h : R.Stays action machine) :
    R.Obeys (Eval.returning action) machine := Obeys.returning h broad.hang

/-! ## Built-in functions -/

/-- Changing the surroundings is allowed as far as the files stay. -/
theorem may_world (ready : R.Ready machine) {world : World}
    (files : world.files = machine.world.files)
    (revisions : world.revisions = machine.world.revisions)
    (hung : world.hung = machine.world.hung) : R.May machine { machine with world } :=
  broad.may ready (Machine.gentle_world files revisions hung) rfl

/-- Reading a line. -/
theorem readLine (ready : R.Ready machine) : R.Stays readLine machine := by
  refine Keeps.get ?_
  dsimp only
  split
  · exact Stays.change_bind (broad.may_world ready rfl rfl rfl)
      fun ready => Keeps.throw (R.refl ready)
  · exact Stays.change_bind (broad.may_world ready rfl rfl rfl) fun ready =>
      Keeps.pure (R.refl ready) trivial

/-- Writing a file. -/
theorem writeFile (path text : String) (ready : R.Ready machine) :
    R.Stays (Eval.writeFile path text) machine := by
  refine Keeps.get ?_
  split
  · exact Keeps.change (broad.write _ ready) trivial
  · exact Keeps.fail (R.refl ready)

/-- The functions that talk to the outside. -/
theorem console (function : ConsoleFunction) (ready : R.Ready machine) :
    R.Stays (Eval.console function call) machine := by
  have still := R.refl ready
  cases function with
  | print =>
    refine (Stays.mapM_render call.arguments ready).andThen fun texts _ ready _ => ?_
    exact Stays.change_bind (broad.may_world ready rfl rfl rfl) fun ready =>
      Keeps.pure (R.refl ready) trivial
  | input =>
    have plain : R.Stays Eval.readLine machine := broad.readLine ready
    unfold Eval.console Eval.input
    dsimp only
    split
    · refine Keeps.looking_bind still fun text _ => ?_
      exact Stays.change_bind (broad.may_world ready rfl rfl rfl) fun ready => broad.readLine ready
    · exact plain
  | read =>
    refine Keeps.ofExcept_bind still fun _ _ => Keeps.ofExcept_bind still fun path _ => ?_
    exact (Stays.readFile path ready).returns _
  | write =>
    refine Keeps.ofExcept_bind still fun _ _ => Keeps.ofExcept_bind still fun path _ => ?_
    refine Keeps.ofExcept_bind still fun value _ => Keeps.looking_bind still fun text _ => ?_
    exact (broad.writeFile path text ready).returns _
  | args => exact Keeps.get (Stays.making (.texts _) ready .nil)
  | sleep =>
    refine Keeps.ofExcept_bind still fun _ _ => Keeps.ofExcept_bind still fun seconds _ => ?_
    refine Stays.returns ?_ _
    unfold pause
    split
    · exact Keeps.fail still
    · split
      · exact Keeps.fail still
      · exact Keeps.change (broad.may_world ready rfl rfl rfl) trivial

/-- A change of a container tells the watches of the variables that hold it. -/
theorem tells {action : Eval α} {container : Value} {next : α → Eval β}
    (h : R.Stays action machine)
    (rest : ∀ value {after}, R.Ready after → R.Stays (next value) after) :
    R.Stays (do
      let value ← action
      modify (·.notifyContainer container)
      next value) machine := by
  refine h.andThen fun value after ready _ => ?_
  have told := broad.may ready (Machine.notifyContainer_gentle container)
    (Machine.memory_notifyContainer container)
  exact Stays.change_bind told fun ready => rest value ready

/-- The functions on containers and scopes. -/
theorem collection (function : CollectionFunction) (ready : R.Ready machine)
    (has : R.Has machine call.arguments) (mild : R.Bears machine (function ≠ .append)) :
    R.Stays (Eval.collection function call) machine := by
  have still := R.refl ready
  have one {value : Value} (mem : value ∈ call.arguments) : R.Has machine [value] :=
    has.of_subset (List.cons_subset.mpr ⟨mem, List.nil_subset _⟩)
  have two {x y : Value} (mem : x ∈ call.arguments) (mem' : y ∈ call.arguments) :
      R.Has machine [x, y] := (one mem).append (one mem')
  cases function with
  | type =>
    refine Keeps.ofExcept_bind still fun _ _ => Keeps.ofExcept_bind still fun value _ => ?_
    exact Keeps.get (Keeps.pure still trivial)
  | length =>
    refine Keeps.ofExcept_bind still fun _ _ => Keeps.ofExcept_bind still fun value _ => ?_
    exact Keeps.reading_bind still fun _ _ => Keeps.pure still trivial
  | append =>
    -- Appending may put a list into itself, and is only admitted where evaluations may be cut off.
    have cut : R.Cut machine machine := mild.resolve_right fun other => other rfl
    refine Keeps.ofExcept_bind still fun _ _ => Keeps.ofExcept_bind still fun handle _ => ?_
    refine Keeps.ofExcept_bind still fun item _ => ?_
    exact broad.tells (broad.alloc _ ready cut) fun _ _ ready => Keeps.pure (R.refl ready) trivial
  | remove =>
    refine Keeps.ofExcept_bind still fun _ _ => Keeps.ofExcept_bind still fun container first => ?_
    refine Keeps.ofExcept_bind still fun value second => ?_
    have operands := two (Call.mem_of_argument first) (Call.mem_of_argument second)
    refine broad.tells ?_ fun _ _ ready => Keeps.pure (R.refl ready) trivial
    refine Keeps.alloc still fun _ _ ran => ⟨?_, trivial⟩
    exact broad.may_operation (.remove container value) ready operands (Alloc.remove_sheds ran) ran
  | contains =>
    refine Keeps.ofExcept_bind still fun _ _ => Keeps.ofExcept_bind still fun value second => ?_
    refine Keeps.ofExcept_bind still fun container first => ?_
    have operands := two (Call.mem_of_argument first) (Call.mem_of_argument second)
    exact (Stays.making (.contains container value) ready operands).returns _
  | keys =>
    refine Keeps.ofExcept_bind still fun _ _ => Keeps.get (Keeps.ofExcept_bind still ?_)
    exact fun handle found => Stays.making (.keys handle) ready (one (Call.mem_of_dict found))
  | values =>
    refine Keeps.ofExcept_bind still fun _ _ => Keeps.get (Keeps.ofExcept_bind still ?_)
    exact fun handle found => Stays.making (.values handle) ready (one (Call.mem_of_dict found))
  | sort =>
    refine Keeps.ofExcept_bind still fun _ _ => Keeps.get ?_
    refine Keeps.ofExcept_bind still fun handle found => Keeps.ofExcept_bind still ?_
    exact fun items sorted =>
      Stays.making (.sort handle sorted) ready (one (Call.mem_of_list found))
  | slice =>
    refine Keeps.ofExcept_bind still fun _ _ => Keeps.ofExcept_bind still fun first _ => ?_
    refine Keeps.ofExcept_bind still fun last _ => Keeps.ofExcept_bind still ?_
    exact fun sequence found =>
      Stays.making (.slice sequence first last) ready (one (Call.mem_of_argument found))
  | localScope => exact Keeps.get (Stays.making .localScope ready .nil)
  | globalScope => exact Keeps.get (Stays.making .globalScope ready .nil)

/-- The functions on numbers. -/
theorem math (function : MathFunction) (ready : R.Ready machine) :
    R.Stays (Eval.math function call) machine := by
  have still := R.refl ready
  have word : R.Stays randomWord machine :=
    Keeps.get (Stays.change_bind (broad.may_world ready rfl rfl rfl) fun ready =>
      Keeps.pure (R.refl ready) trivial)
  cases function with
  | pi => exact Keeps.pure still trivial
  | sqrt | pow | floor | ceil | round => exact Keeps.ofExcept still fun _ _ => trivial
  | abs =>
    refine Keeps.ofExcept_bind still fun _ _ => Keeps.ofExcept_bind still fun value _ => ?_
    exact Keeps.ofExcept still fun _ _ => trivial
  | min | max => exact Keeps.reading still fun _ _ => trivial
  | random => exact word.returns _
  | randomInt =>
    refine Keeps.ofExcept_bind still fun _ _ => Keeps.ofExcept_bind still fun low _ => ?_
    refine Keeps.ofExcept_bind still fun high _ => ?_
    split
    · exact Keeps.fail still
    · exact word.returns _

/-- The functions between values and documents. -/
theorem document (function : DocumentFunction) (ready : R.Ready machine) :
    R.Stays (Eval.document function call) machine := by
  have still := R.refl ready
  cases function with
  | toJson =>
    refine Keeps.ofExcept_bind still fun _ _ => Keeps.ofExcept_bind still fun value _ => ?_
    exact Keeps.looking_bind still fun _ _ => Keeps.pure still trivial
  | fromJson =>
    refine Keeps.ofExcept_bind still fun _ _ => Keeps.ofExcept_bind still fun text _ => ?_
    exact Stays.making (.document text) ready .nil
  | readJson =>
    refine Keeps.ofExcept_bind still fun _ _ => Keeps.ofExcept_bind still fun path _ => ?_
    exact (Stays.readFile path ready).andThen fun text _ ready _ =>
      Stays.making (.document text) ready .nil
  | writeJson =>
    refine Keeps.ofExcept_bind still fun _ _ => Keeps.ofExcept_bind still fun path _ => ?_
    refine Keeps.ofExcept_bind still fun value _ => Keeps.looking_bind still fun document _ => ?_
    exact (broad.writeFile path _ ready).returns _

omit broad in
/-- A new list of texts. -/
theorem texts (pieces : List (List Char)) (ready : R.Ready machine) :
    R.Stays (Eval.alloc (Alloc.texts pieces)) machine := by
  rw [Alloc.texts_eq]
  exact Stays.making (.texts _) ready .nil

omit broad in
/-- The functions on texts. -/
theorem text (function : TextFunction) (ready : R.Ready machine) :
    R.Stays (Eval.text function call) machine := by
  have still := R.refl ready
  cases function with
  | «matches» =>
    refine Keeps.ofExcept_bind still fun _ _ => Keeps.ofExcept_bind still fun pattern _ => ?_
    exact Keeps.ofExcept_bind still fun whole _ => Keeps.pure still trivial
  | findAll =>
    refine Keeps.ofExcept_bind still fun _ _ => Keeps.ofExcept_bind still fun pattern _ => ?_
    exact Keeps.ofExcept_bind still fun whole _ => texts _ ready
  | replace =>
    refine Keeps.ofExcept_bind still fun _ _ => Keeps.ofExcept_bind still fun pattern _ => ?_
    refine Keeps.ofExcept_bind still fun whole _ => Keeps.ofExcept_bind still fun inserted _ => ?_
    exact Keeps.pure still trivial
  | split => exact Keeps.ofExcept_bind still fun pieces _ => texts pieces ready
  | join =>
    refine Keeps.ofExcept_bind still fun _ _ => Keeps.ofExcept_bind still fun handle _ => ?_
    refine Keeps.ofExcept_bind still fun separator _ => ?_
    exact Keeps.looking_bind still fun _ _ => Keeps.pure still trivial
  | upper | lower | trim => exact Keeps.ofExcept still fun _ _ => trivial

omit broad in
/-- The functions that read the clock. -/
theorem clock (function : ClockFunction) (ready : R.Ready machine) :
    R.Stays (Eval.clock function call) machine := by
  have still := R.refl ready
  cases function with
  | now | timestamp => exact Keeps.get (Keeps.pure still trivial)
  | elapsed =>
    refine Keeps.get (Keeps.ofExcept_bind still fun _ _ => ?_)
    exact Keeps.ofExcept_bind still fun since _ => Keeps.pure still trivial

/-- **Every mild function obeys every broad regime**, and every other one where evaluations may be
cut off, if waiting for handlers does. -/
theorem native {settle : Eval Unit} {native : Native} (ready : R.Ready machine)
    (has : R.Has machine call.arguments) (mild : R.Bears machine (native.isMild = true))
    (waits : native = .settle → R.Stays settle machine) :
    R.Stays (Eval.native settle native call) machine := by
  cases native with
  | console function => exact broad.console function ready
  | collection function =>
    refine broad.collection function ready has (mild.imp_right ?_)
    rintro mild rfl
    cases mild
  | math function => exact broad.math function ready
  | document function => exact broad.document function ready
  | text function => exact text function ready
  | clock function => exact clock function ready
  | settle => exact (waits rfl).returns _
  | host run => exact broad.alloc (run call) ready (mild.resolve_right Bool.false_ne_true)

end Broad

end Regime

end ReactiveScript
