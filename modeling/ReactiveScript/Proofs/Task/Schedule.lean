import ReactiveScript.Reactive.Task

/-! # Every schedule of a pool of jobs

A `Scene` is a pool together with what its callers are in the middle of: who has started a job that
the pool does not keep track of yet, and where the program stands in waiting. `Scene.Step` lets one
caller do one thing, in any order; what a job starts and how it ends is left open. `Scene.Run` is a
sequence of steps, with the numbers that waiting gave on the way.

The invariant is an account of every job that was ever started (`Scene.Accounted`): each is in
exactly one place, and the jobs that broke and were joined are as many as the counters say. -/

namespace ReactiveScript

/-- Who calls on a pool: the program itself, or one of its jobs. -/
inductive Caller where
  | program
  | job (n : Nat)
deriving DecidableEq

/-- A job is started after the job that starts it. -/
def Caller.Precedes : Caller → Nat → Prop
  | .program, _ => True
  | .job k, n => k < n

/-- Where the program stands in waiting for a pool to become idle. -/
inductive Waiting where
  /-- It does not wait. -/
  | idle
  /-- It has a batch of jobs to join, and has counted the broken ones of those it has joined. -/
  | joining (batch : List Nat) (broken : Nat)
  /-- It has seen that no job is left, and has not looked at the jobs taken out before. -/
  | leaving (broken : Nat)

/-- The jobs that the program has still to join. -/
def Waiting.batch : Waiting → List Nat
  | .joining batch _ => batch
  | _ => []

/-- How many broken jobs the program has counted while it waits. -/
def Waiting.broken : Waiting → Nat
  | .joining _ broken => broken
  | .leaving broken => broken
  | .idle => 0

/-- A pool, its callers, and which jobs were joined. -/
structure Scene where
  pool : TaskPool
  /-- The jobs that were started and are not tracked yet, each with who is about to track it. -/
  spawning : List (Caller × Nat)
  waiting : Waiting
  /-- The jobs that were joined since the last wait came to its end. -/
  joined : List Nat
  /-- The jobs that were joined before a wait came to its end, so that a wait has counted them. -/
  counted : List Nat

namespace Scene

/-- A pool that nobody has called on. -/
def fresh : Scene := ⟨.empty, [], .idle, [], []⟩

/-- Whether a caller can go on: the program unless it waits, a job until it ends. -/
def Alive (scene : Scene) : Caller → Prop
  | .program => scene.waiting = .idle
  | .job k => scene.pool.isRunning k = true

/-- A caller that can go on and is not in the middle of adding a job. -/
def Free (scene : Scene) (caller : Caller) : Prop :=
  scene.Alive caller ∧ ∀ n, (caller, n) ∉ scene.spawning

/-- The tracked jobs that have ended, which are joined when they are taken out. -/
def endedTracked (scene : Scene) : List Nat :=
  scene.pool.tracked.filter fun n => !scene.pool.isRunning n

/-- The scene after the ended jobs are taken out. -/
def reap (scene : Scene) : Scene :=
  { scene with pool := scene.pool.reap, joined := scene.joined ++ scene.endedTracked }

/-- One caller does one thing; the number is what a wait gives that comes to its end. -/
inductive Step : Scene → Option Nat → Scene → Prop
  /-- Somebody starts a job. -/
  | start {scene : Scene} (caller : Caller) (job : Job) (free : scene.Free caller) :
      Step scene none
        { scene with
          pool := scene.pool.launch job
          spawning := (caller, scene.pool.jobs.length) :: scene.spawning }
  /-- Who has started a job lets the pool keep track of it, which takes out the ended ones. -/
  | track {scene : Scene} (caller : Caller) (n : Nat) (started : (caller, n) ∈ scene.spawning) :
      Step scene none
        { scene.reap with
          pool := scene.pool.track n
          spawning := scene.spawning.erase (caller, n) }
  /-- Somebody asks how many jobs are left, which takes out the ended ones. -/
  | pending {scene : Scene} (caller : Caller) (free : scene.Free caller) :
      Step scene none { scene.reap with pool := scene.pool.pending.2 }
  /-- A job comes to its end. -/
  | finish {scene : Scene} (n : Nat) (ending : Ending) (free : scene.Free (.job n)) :
      Step scene none { scene with pool := scene.pool.finish n ending }
  /-- The program begins to wait. -/
  | beginWait {scene : Scene} (free : scene.Free .program) :
      Step scene none { scene with waiting := .joining [] 0 }
  /-- The program has joined a batch, and takes the jobs that are tracked by now. -/
  | takeBatch {scene : Scene} {broken : Nat} (waits : scene.waiting = .joining [] broken)
      (left : scene.pool.tracked ≠ []) :
      Step scene none
        { scene with
          pool := scene.pool.handOver
          waiting := .joining scene.pool.tracked broken }
  /-- The program joins the next job of its batch, which has ended. -/
  | join {scene : Scene} {n : Nat} {batch : List Nat} {broken : Nat}
      (waits : scene.waiting = .joining (n :: batch) broken)
      (ended : scene.pool.isRunning n = false) :
      Step scene none
        { scene with
          waiting := .joining batch (if scene.pool.isBroken n then broken + 1 else broken)
          joined := scene.joined ++ [n] }
  /-- The program has joined a batch, and sees that no job is tracked. -/
  | seeEmpty {scene : Scene} {broken : Nat} (waits : scene.waiting = .joining [] broken)
      (none_left : scene.pool.tracked = []) :
      Step scene none { scene with waiting := .leaving broken }
  /-- The wait ends: the broken jobs that were taken out are added, and set back. -/
  | leave {scene : Scene} {broken : Nat} (waits : scene.waiting = .leaving broken) :
      Step scene (some (broken + scene.pool.brokenTaken))
        { scene with
          pool := scene.pool.clearBroken
          waiting := .idle
          joined := []
          counted := scene.joined ++ scene.counted }

/-- Steps one after the other, with the numbers that waiting gave on the way. -/
inductive Run : Scene → List Nat → Scene → Prop
  | refl (scene : Scene) : Run scene [] scene
  | step {first before after : Scene} {results : List Nat} {given : Option Nat}
      (run : Run first results before) (next : Step before given after) :
      Run first (results ++ given.toList) after

theorem Run.trans {first middle last : Scene} {results more : List Nat}
    (run : Run first results middle) (rest : Run middle more last) :
    Run first (results ++ more) last := by
  induction rest with
  | refl => simpa using run
  | step _ next ih => simpa using ih.step next

/-- A step at which no wait ends, after a run. -/
theorem Run.quiet {first before after : Scene} {results : List Nat}
    (run : Run first results before) (next : Step before none after) : Run first results after := by
  simpa using run.step next

end Scene

/-! ## What each change does to single jobs -/

namespace TaskPool

variable {pool : TaskPool} {n k : Nat}

theorem lt_of_isRunning (running : pool.isRunning n = true) : n < pool.jobs.length := by
  unfold isRunning at running
  split at running
  · rename_i found
    exact (List.getElem?_eq_some_iff.mp found).1
  · exact absurd running (by decide)

/-- A job does not both run and stand as broken. -/
theorem isRunning_of_isBroken (broken : pool.isBroken n = true) : pool.isRunning n = false := by
  unfold isBroken at broken
  split at broken
  · rename_i found
    simp [isRunning, found]
  · exact absurd broken (by decide)

/-! Taking jobs out of the pool leaves the jobs themselves as they are. -/

@[simp] theorem isRunning_reap : pool.reap.isRunning = pool.isRunning := rfl

@[simp] theorem isBroken_handOver : pool.handOver.isBroken = pool.isBroken := rfl

@[simp] theorem brokenTaken_handOver : pool.handOver.brokenTaken = pool.brokenTaken := rfl

@[simp] theorem isBroken_clearBroken : pool.clearBroken.isBroken = pool.isBroken := rfl

theorem isRunning_launch (job : Job) (here : n < pool.jobs.length) :
    (pool.launch job).isRunning n = pool.isRunning n := by
  simp [isRunning, launch, List.getElem?_append_left here]

theorem isBroken_launch (job : Job) (here : n < pool.jobs.length) :
    (pool.launch job).isBroken n = pool.isBroken n := by
  simp [isBroken, launch, List.getElem?_append_left here]

theorem isRunning_finish (ending : Ending) (other : k ≠ n) :
    (pool.finish n ending).isRunning k = pool.isRunning k := by
  simp [isRunning, finish, List.getElem?_set_ne other.symm]

theorem isBroken_finish (ending : Ending) (other : k ≠ n) :
    (pool.finish n ending).isBroken k = pool.isBroken k := by
  simp [isBroken, finish, List.getElem?_set_ne other.symm]

end TaskPool

namespace Scene

/-! ## The account -/

/-- Every job that was started is in exactly one place, and the counters agree with the places. -/
structure Accounted (scene : Scene) : Prop where
  /-- A job is tracked, in the batch of the waiting program, about to be tracked, or joined. -/
  shared : (scene.pool.tracked ++ scene.waiting.batch ++ scene.spawning.map Prod.snd
    ++ (scene.joined ++ scene.counted)).Perm (List.range scene.pool.jobs.length)
  /-- What was joined has ended. -/
  ended : ∀ n ∈ scene.joined ++ scene.counted, scene.pool.isRunning n = false
  /-- The two counters hold the broken jobs that were joined since the last wait. -/
  tallied : scene.joined.countP scene.pool.isBroken
    = scene.pool.brokenTaken + scene.waiting.broken
  /-- Who is about to track a job can go on, and was there before the job. -/
  spawners : ∀ caller n, (caller, n) ∈ scene.spawning → scene.Alive caller ∧ caller.Precedes n
  /-- Once the program has seen that no job is tracked, there is none that might be. -/
  settled : ∀ broken, scene.waiting = .leaving broken →
    scene.pool.tracked = [] ∧ scene.spawning = []

theorem accounted_fresh : fresh.Accounted where
  shared := .refl _
  ended := by simp [fresh]
  tallied := rfl
  spawners := by simp [fresh]
  settled := by simp [fresh]

namespace Accounted

variable {scene : Scene}

theorem mem_shared (accounted : scene.Accounted) {n : Nat} :
    n ∈ scene.pool.tracked ∨ n ∈ scene.waiting.batch ∨ (∃ caller, (caller, n) ∈ scene.spawning)
      ∨ n ∈ scene.joined ++ scene.counted ↔ n < scene.pool.jobs.length := by
  have places := accounted.shared.mem_iff (a := n)
  simp only [List.mem_append, List.mem_map, List.mem_range, Prod.exists, exists_eq_right,
    or_assoc] at places ⊢
  exact places

theorem lt_of_mem_joined (accounted : scene.Accounted) {n : Nat}
    (joined : n ∈ scene.joined ++ scene.counted) : n < scene.pool.jobs.length :=
  accounted.mem_shared.mp (.inr (.inr (.inr joined)))

/-- A job that runs has not been joined. -/
theorem mem_of_isRunning (accounted : scene.Accounted) {n : Nat}
    (running : scene.pool.isRunning n = true) :
    n ∈ scene.pool.tracked ∨ n ∈ scene.waiting.batch ∨ ∃ caller, (caller, n) ∈ scene.spawning := by
  have place := accounted.mem_shared.mpr (TaskPool.lt_of_isRunning running)
  have unjoined : n ∉ scene.joined ++ scene.counted := by
    intro joined
    exact absurd running (by simp [accounted.ended n joined])
  simpa [unjoined] using place

/-- **While the program waits and has nothing to join, nobody is in the middle of adding a job.**
Whoever is must be a running job; nobody tracks that job, so its own starter is also in the middle
of adding it, and so on to ever earlier jobs. -/
theorem spawning_eq_nil (accounted : scene.Accounted) (waits : scene.waiting ≠ .idle)
    (untracked : scene.pool.tracked = []) (joined : scene.waiting.batch = []) :
    scene.spawning = [] := by
  have never : ∀ n caller, (caller, n) ∉ scene.spawning := by
    intro n
    induction n using Nat.strongRecOn with
    | ind n ih =>
      intro caller started
      obtain ⟨alive, earlier⟩ := accounted.spawners caller n started
      cases caller with
      | program => exact waits alive
      | job k =>
        obtain found | found | ⟨starter, found⟩ := accounted.mem_of_isRunning alive
        · simp [untracked] at found
        · simp [joined] at found
        · exact ih k earlier starter found
  exact List.eq_nil_iff_forall_not_mem.mpr fun entry => never entry.2 entry.1

/-- Once the program has seen that no job is left, no job runs. -/
theorem isRunning_of_leaving (accounted : scene.Accounted) {broken : Nat}
    (waits : scene.waiting = .leaving broken) (n : Nat) : scene.pool.isRunning n = false := by
  obtain ⟨untracked, unspawned⟩ := accounted.settled broken waits
  cases running : scene.pool.isRunning n with
  | false => rfl
  | true =>
    have place := accounted.mem_of_isRunning running
    simp [untracked, unspawned, waits, Waiting.batch] at place

/-- Once the program has seen that no job is left, nobody but the program goes on. -/
theorem not_free_of_leaving (accounted : scene.Accounted) {broken : Nat}
    (waits : scene.waiting = .leaving broken) (caller : Caller) : ¬ scene.Free caller := by
  rintro ⟨alive, -⟩
  cases caller with
  | program => simp [Alive, waits] at alive
  | job k => simp [Alive, accounted.isRunning_of_leaving waits k] at alive

/-! ## What one step keeps -/

theorem start (accounted : scene.Accounted) {caller : Caller} (job : Job)
    (free : scene.Free caller) :
    Accounted
      { scene with
        pool := scene.pool.launch job
        spawning := (caller, scene.pool.jobs.length) :: scene.spawning } := by
  have goesOn {other : Caller} (alive : scene.Alive other) :
      Alive { scene with
        pool := scene.pool.launch job
        spawning := (caller, scene.pool.jobs.length) :: scene.spawning } other := by
    cases other with
    | program => exact alive
    | job k => exact (TaskPool.isRunning_launch job (TaskPool.lt_of_isRunning alive)).trans alive
  constructor
  · -- The new job is the next number, and it is about to be tracked.
    refine List.perm_iff_count.mpr fun n => ?_
    have places := List.perm_iff_count.mp accounted.shared n
    simp only [TaskPool.launch, List.length_append, List.length_singleton, List.range_succ,
      List.map_cons, List.count_append, List.count_cons, List.count_nil] at places ⊢
    omega
  · intro n joined
    have here := accounted.lt_of_mem_joined joined
    exact (TaskPool.isRunning_launch job here).trans (accounted.ended n joined)
  · refine Eq.trans (List.countP_congr fun n joined => ?_) accounted.tallied
    have here := accounted.lt_of_mem_joined (List.mem_append_left _ joined)
    rw [TaskPool.isBroken_launch job here]
  · intro other n started
    obtain new | old := List.mem_cons.mp started
    · obtain ⟨rfl, rfl⟩ := Prod.mk.inj new
      refine ⟨goesOn free.1, ?_⟩
      cases other with
      | program => trivial
      | job k => exact TaskPool.lt_of_isRunning free.1
    · obtain ⟨alive, earlier⟩ := accounted.spawners other n old
      exact ⟨goesOn alive, earlier⟩
  · intro broken waits
    exact absurd free (accounted.not_free_of_leaving waits caller)

theorem reap (accounted : scene.Accounted) : scene.reap.Accounted := by
  constructor
  · -- The tracked jobs part into those that run and those that have ended.
    refine List.perm_iff_count.mpr fun n => ?_
    have places := List.perm_iff_count.mp accounted.shared n
    have parted := List.perm_iff_count.mp
      (List.filter_append_perm scene.pool.isRunning scene.pool.tracked) n
    simp only [Scene.reap, endedTracked, TaskPool.reap, List.count_append] at places parted ⊢
    omega
  · intro n joined
    simp only [Scene.reap, List.append_assoc, List.mem_append] at joined
    obtain before | taken | before := joined
    · exact accounted.ended n (List.mem_append_left _ before)
    · have ended := (List.mem_filter.mp taken).2
      simpa [Scene.reap] using ended
    · exact accounted.ended n (List.mem_append_right _ before)
  · -- A broken job has ended, so all broken jobs that were tracked are taken out.
    have taken : scene.endedTracked.countP scene.pool.isBroken
        = scene.pool.tracked.countP scene.pool.isBroken := by
      rw [endedTracked, List.countP_filter]
      refine List.countP_congr fun n _ => ?_
      have ended : scene.pool.isBroken n = true → scene.pool.isRunning n = false :=
        TaskPool.isRunning_of_isBroken
      simpa using ended
    have before := accounted.tallied
    change (scene.joined ++ scene.endedTracked).countP scene.pool.isBroken
      = scene.pool.brokenTaken + scene.pool.tracked.countP scene.pool.isBroken
        + scene.waiting.broken
    rw [List.countP_append, taken]
    omega
  · exact accounted.spawners
  · intro broken waits
    obtain ⟨untracked, unspawned⟩ := accounted.settled broken waits
    exact ⟨by simp [Scene.reap, TaskPool.reap, untracked], unspawned⟩

/-- A job that was about to be tracked is. -/
theorem keep (accounted : scene.Accounted) {caller : Caller} {n : Nat}
    (started : (caller, n) ∈ scene.spawning) :
    Accounted
      { scene with
        pool := { scene.pool with tracked := scene.pool.tracked ++ [n] }
        spawning := scene.spawning.erase (caller, n) } := by
  constructor
  · refine List.perm_iff_count.mpr fun k => ?_
    have places := List.perm_iff_count.mp accounted.shared k
    have moved := List.perm_iff_count.mp ((List.perm_cons_erase started).map Prod.snd) k
    simp only [List.map_cons, List.count_append, List.count_cons, List.count_nil]
      at places moved ⊢
    omega
  · exact accounted.ended
  · exact accounted.tallied
  · intro other k found
    exact accounted.spawners other k (List.mem_of_mem_erase found)
  · intro broken waits
    have unspawned := (accounted.settled broken waits).2
    exact absurd started (by simp [unspawned])

theorem finish (accounted : scene.Accounted) {n : Nat} (ending : Ending)
    (free : scene.Free (.job n)) :
    Accounted { scene with pool := scene.pool.finish n ending } := by
  have running : scene.pool.isRunning n = true := free.1
  have other {k : Nat} (joined : k ∈ scene.joined ++ scene.counted) : k ≠ n := by
    rintro rfl
    exact absurd running (by simp [accounted.ended k joined])
  constructor
  · simpa [TaskPool.finish] using accounted.shared
  · intro k joined
    exact (TaskPool.isRunning_finish ending (other joined)).trans (accounted.ended k joined)
  · refine Eq.trans (List.countP_congr fun k joined => ?_) accounted.tallied
    rw [TaskPool.isBroken_finish ending (other (List.mem_append_left _ joined))]
  · intro caller k started
    obtain ⟨alive, earlier⟩ := accounted.spawners caller k started
    refine ⟨?_, earlier⟩
    cases caller with
    | program => exact alive
    | job m =>
      -- The job that ends is not the one in the middle of adding.
      have apart : m ≠ n := by
        rintro rfl
        exact free.2 k started
      exact (TaskPool.isRunning_finish ending apart).trans alive
  · exact accounted.settled

theorem beginWait (accounted : scene.Accounted) (free : scene.Free .program) :
    Accounted { scene with waiting := .joining [] 0 } := by
  have idle : scene.waiting = .idle := free.1
  constructor
  · simpa [idle, Waiting.batch] using accounted.shared
  · exact accounted.ended
  · simpa [idle, Waiting.broken] using accounted.tallied
  · intro caller n started
    obtain ⟨alive, earlier⟩ := accounted.spawners caller n started
    cases caller with
    -- The program does not begin to wait in the middle of adding a job.
    | program => exact absurd started (free.2 n)
    | job k => exact ⟨alive, earlier⟩
  · intro broken waits
    cases waits

/-- A wait that goes on in the same way as far as its callers can see. -/
theorem spawners_of_waits (accounted : scene.Accounted) (waits : scene.waiting ≠ .idle)
    {waiting : Waiting} {pool : TaskPool} (same : pool.jobs = scene.pool.jobs) :
    ∀ caller n, (caller, n) ∈ scene.spawning →
      Alive { scene with pool := pool, waiting := waiting } caller ∧ caller.Precedes n := by
  intro caller n started
  obtain ⟨alive, earlier⟩ := accounted.spawners caller n started
  cases caller with
  | program => exact absurd alive waits
  | job k => exact ⟨by simpa [Alive, TaskPool.isRunning, same] using alive, earlier⟩

theorem takeBatch (accounted : scene.Accounted) {broken : Nat}
    (waits : scene.waiting = .joining [] broken) :
    Accounted
      { scene with
        pool := scene.pool.handOver
        waiting := .joining scene.pool.tracked broken } := by
  constructor
  · simpa [waits, Waiting.batch, TaskPool.handOver] using accounted.shared
  · exact accounted.ended
  · simpa [waits, Waiting.broken] using accounted.tallied
  · exact accounted.spawners_of_waits (by simp [waits]) rfl
  · intro broken waits
    cases waits

theorem join (accounted : scene.Accounted) {n : Nat} {batch : List Nat} {broken : Nat}
    (waits : scene.waiting = .joining (n :: batch) broken)
    (ended : scene.pool.isRunning n = false) :
    Accounted
      { scene with
        waiting := .joining batch (if scene.pool.isBroken n then broken + 1 else broken)
        joined := scene.joined ++ [n] } := by
  constructor
  · refine List.perm_iff_count.mpr fun k => ?_
    have places := List.perm_iff_count.mp accounted.shared k
    simp only [waits, Waiting.batch, List.count_append, List.count_cons, List.count_nil]
      at places ⊢
    omega
  · intro k joined
    simp only [List.append_assoc, List.mem_append, List.mem_singleton] at joined
    obtain before | rfl | before := joined
    · exact accounted.ended k (List.mem_append_left _ before)
    · exact ended
    · exact accounted.ended k (List.mem_append_right _ before)
  · have before := accounted.tallied
    simp only [waits, Waiting.broken] at before
    by_cases broke : scene.pool.isBroken n = true
    · simp [broke, Waiting.broken, before, Nat.add_assoc]
    · simp [broke, Waiting.broken, before]
  · exact accounted.spawners_of_waits (by simp [waits]) rfl
  · intro broken waits
    cases waits

theorem seeEmpty (accounted : scene.Accounted) {broken : Nat}
    (waits : scene.waiting = .joining [] broken) (none_left : scene.pool.tracked = []) :
    Accounted { scene with waiting := .leaving broken } := by
  have unspawned : scene.spawning = [] :=
    accounted.spawning_eq_nil (by simp [waits]) none_left (by simp [waits, Waiting.batch])
  constructor
  · simpa [waits, Waiting.batch] using accounted.shared
  · exact accounted.ended
  · simpa [waits, Waiting.broken] using accounted.tallied
  · exact accounted.spawners_of_waits (by simp [waits]) rfl
  · intro _ _
    exact ⟨none_left, unspawned⟩

theorem leave (accounted : scene.Accounted) {broken : Nat}
    (waits : scene.waiting = .leaving broken) :
    Accounted
      { scene with
        pool := scene.pool.clearBroken
        waiting := .idle
        joined := []
        counted := scene.joined ++ scene.counted } := by
  obtain ⟨untracked, unspawned⟩ := accounted.settled broken waits
  constructor
  · simpa [waits, Waiting.batch, TaskPool.clearBroken] using accounted.shared
  · exact accounted.ended
  · rfl
  · simp [unspawned]
  · intro broken waits
    cases waits

end Accounted

/-- **One step keeps the account.** -/
theorem Step.accounted {before after : Scene} {given : Option Nat} (step : Step before given after)
    (accounted : before.Accounted) : after.Accounted := by
  cases step with
  | start caller job free => exact accounted.start job free
  | track caller n started => exact accounted.reap.keep started
  | pending caller free => exact accounted.reap
  | finish n ending free => exact accounted.finish ending free
  | beginWait free => exact accounted.beginWait free
  | takeBatch waits left => exact accounted.takeBatch waits
  | join waits ended => exact accounted.join waits ended
  | seeEmpty waits none_left => exact accounted.seeEmpty waits none_left
  | leave waits => exact accounted.leave waits

theorem Run.accounted {first last : Scene} {results : List Nat} (run : Run first results last)
    (accounted : first.Accounted) : last.Accounted := by
  induction run with
  | refl => exact accounted
  | step _ next ih => exact next.accounted ih

/-! ## No job is forgotten -/

/-- A job that has ended stays as it is, and no job is dropped from the list of those started. -/
def Remembers (before after : Scene) : Prop :=
  before.pool.jobs.length ≤ after.pool.jobs.length ∧
    ∀ (n : Nat) (ending : Ending), before.pool.jobs[n]? = some (.ended ending) →
      after.pool.jobs[n]? = some (.ended ending)

theorem Step.remembers {before after : Scene} {given : Option Nat}
    (step : Step before given after) : Remembers before after := by
  cases step with
  | start caller job free =>
    refine ⟨by simp [TaskPool.launch], ?_⟩
    intro n ending found
    have here : n < before.pool.jobs.length := (List.getElem?_eq_some_iff.mp found).1
    simpa [TaskPool.launch, List.getElem?_append_left here] using found
  | finish n ending free =>
    refine ⟨by simp [TaskPool.finish], ?_⟩
    intro k old found
    have other : n ≠ k := by
      rintro rfl
      have running : before.pool.isRunning n = true := free.1
      simp [TaskPool.isRunning, found] at running
    simpa [TaskPool.finish, List.getElem?_set_ne other] using found
  | _ => exact ⟨Nat.le_refl _, fun _ _ found => found⟩

theorem Run.remembers {first last : Scene} {results : List Nat} (run : Run first results last) :
    Remembers first last := by
  induction run with
  | refl => exact ⟨Nat.le_refl _, fun _ _ found => found⟩
  | step _ next ih =>
    exact ⟨Nat.le_trans ih.1 next.remembers.1, fun n ending found =>
      next.remembers.2 n ending (ih.2 n ending found)⟩

end Scene

end ReactiveScript
