import Mathlib
import ReactiveScript.Proofs.Task.Schedule

/-! # What a wait gives

When a wait ends, in whatever order the callers and the jobs have gone on, no job is tracked, every
job that was ever started has ended, and the number given is the number of jobs that broke and that
no earlier wait has counted. `TaskPool.waitIdle` is one such wait: it lets each job end when its
turn to be joined comes (`Scene.run_waitIdle`). -/

namespace ReactiveScript

namespace Scene

/-- The jobs that broke, of all that were ever started. -/
def brokenJobs (scene : Scene) : List Nat :=
  (List.range scene.pool.jobs.length).filter scene.pool.isBroken

/-! ## The numbers that waits have given -/

/-- Whether a job that has ended broke does not change any more. -/
theorem Remembers.isBroken_eq {before after : Scene} (remembers : Remembers before after) {n : Nat}
    (here : n < before.pool.jobs.length) (ended : before.pool.isRunning n = false) :
    after.pool.isBroken n = before.pool.isBroken n := by
  obtain ⟨progress, found⟩ : ∃ progress, before.pool.jobs[n]? = some progress :=
    ⟨_, List.getElem?_eq_getElem here⟩
  cases progress with
  | running job => simp [TaskPool.isRunning, found] at ended
  | ended ending => simp [TaskPool.isBroken, found, remembers.2 n ending found]

/-- A wait that ends counts the broken jobs that were joined since the one before it, and no other
step counts any. -/
theorem Step.countP_counted {before after : Scene} {given : Option Nat}
    (step : Step before given after) (accounted : before.Accounted) :
    after.counted.countP after.pool.isBroken
      = before.counted.countP before.pool.isBroken + given.toList.sum := by
  -- What was counted has ended, so whether it broke stays as it is.
  have unchanged : before.counted.countP after.pool.isBroken
      = before.counted.countP before.pool.isBroken := by
    refine List.countP_congr fun n counted => ?_
    have joined : n ∈ before.joined ++ before.counted := List.mem_append_right _ counted
    rw [step.remembers.isBroken_eq (accounted.lt_of_mem_joined joined)
      (accounted.ended n joined)]
  cases step with
  | leave waits =>
    have tallied := accounted.tallied
    simp only [waits, Waiting.broken, TaskPool.isBroken_clearBroken, List.countP_append,
      Option.toList_some, List.sum_singleton] at tallied ⊢
    omega
  | _ => exact unchanged

/-- **The numbers that waits have given add up to the broken jobs that were joined before.** -/
theorem Run.sum_results {results : List Nat} {scene : Scene} (run : Run fresh results scene) :
    results.sum = scene.counted.countP scene.pool.isBroken := by
  induction run with
  | refl => rfl
  | step run next ih =>
    rw [List.sum_append, ih, next.countP_counted (run.accounted accounted_fresh)]

/-! ## The end of a wait -/

/-- When no job is left to join, every job that was started was joined. -/
theorem Accounted.perm_of_leaving {scene : Scene} (accounted : scene.Accounted) {broken : Nat}
    (waits : scene.waiting = .leaving broken) :
    (scene.joined ++ scene.counted).Perm (List.range scene.pool.jobs.length) := by
  obtain ⟨untracked, unspawned⟩ := accounted.settled broken waits
  simpa [untracked, unspawned, waits, Waiting.batch] using accounted.shared

/-- The broken jobs that no wait has counted are those that were joined since. -/
theorem Accounted.length_uncounted {scene : Scene} (accounted : scene.Accounted) {broken : Nat}
    (waits : scene.waiting = .leaving broken) :
    (scene.brokenJobs.filter fun n => n ∉ scene.counted).length
      = scene.joined.countP scene.pool.isBroken := by
  have joined := accounted.perm_of_leaving waits
  have apart : (scene.joined ++ scene.counted).Nodup := joined.nodup_iff.mpr List.nodup_range
  have fromJoined : (scene.joined.filter fun n => n ∉ scene.counted) = scene.joined := by
    refine List.filter_eq_self.mpr fun n found => ?_
    have elsewhere := (List.nodup_append.mp apart).2.2 n found
    simpa using fun counted => elsewhere n counted rfl
  have fromCounted : (scene.counted.filter fun n => n ∉ scene.counted) = [] := by
    simp [List.filter_eq_nil_iff]
  -- Every job that was started is joined or counted, and none is both.
  calc (scene.brokenJobs.filter fun n => n ∉ scene.counted).length
      = (((List.range scene.pool.jobs.length).filter fun n => n ∉ scene.counted).filter
          scene.pool.isBroken).length := by
        simp only [brokenJobs, List.filter_filter, Bool.and_comm]
    _ = (((scene.joined ++ scene.counted).filter fun n => n ∉ scene.counted).filter
          scene.pool.isBroken).length :=
        (((joined.filter _).filter _).length_eq).symm
    _ = scene.joined.countP scene.pool.isBroken := by
        rw [List.filter_append, fromJoined, fromCounted, List.append_nil,
          List.countP_eq_length_filter]

/-- A job that does not run any more has ended in some way. -/
theorem exists_ending {pool : TaskPool} {n : Nat} (here : n < pool.jobs.length)
    (ended : pool.isRunning n = false) : ∃ ending, pool.jobs[n]? = some (.ended ending) := by
  have found : pool.jobs[n]? = some pool.jobs[n] := List.getElem?_eq_getElem here
  cases progress : pool.jobs[n] with
  | running job => simp [TaskPool.isRunning, found, progress] at ended
  | ended ending => exact ⟨ending, by rw [found, progress]⟩

/-! ## The wait that lets each job end in its turn

Between two calls nobody is in the middle of adding a job, so the scenes below differ in their
pools, in where the program stands, and in the jobs that were joined. -/

section Turns

variable (waiting : Waiting) (counted : List Nat) {pool : TaskPool} {n : Nat}

/-- A caller that can go on adds a job. -/
theorem run_spawn (joined : List Nat) {caller : Caller}
    (alive : Alive ⟨pool, [], waiting, joined, counted⟩ caller) (job : Job) :
    ∃ joined', Run ⟨pool, [], waiting, joined, counted⟩ []
      ⟨pool.spawn job, [], waiting, joined', counted⟩ := by
  have started := (Run.refl _).quiet
    (@Step.start ⟨pool, [], waiting, joined, counted⟩ caller job ⟨alive, by simp⟩)
  have tracked := started.quiet (Step.track caller pool.jobs.length List.mem_cons_self)
  rw [List.erase_cons_head] at tracked
  exact ⟨_, tracked⟩

/-- A job that runs adds jobs. -/
theorem run_foldl_spawn (joined : List Nat) (added : List Job)
    (running : pool.isRunning n = true) :
    ∃ joined', Run ⟨pool, [], waiting, joined, counted⟩ []
      ⟨added.foldl TaskPool.spawn pool, [], waiting, joined', counted⟩ := by
  induction added generalizing pool joined with
  | nil => exact ⟨joined, .refl _⟩
  | cons job added ih =>
    have alive : Alive ⟨pool, [], waiting, joined, counted⟩ (.job n) := running
    have still : (pool.spawn job).isRunning n = true :=
      (TaskPool.isRunning_launch job (TaskPool.lt_of_isRunning running)).trans running
    obtain ⟨between, first⟩ := run_spawn waiting counted joined alive job
    obtain ⟨joined', rest⟩ := ih between still
    exact ⟨joined', first.trans rest⟩

/-- A job adds its jobs and ends. -/
theorem run_work (joined : List Nat) (pool : TaskPool) (n : Nat) :
    ∃ joined', Run ⟨pool, [], waiting, joined, counted⟩ []
      ⟨pool.work n, [], waiting, joined', counted⟩ := by
  unfold TaskPool.work
  split
  · rename_i job found
    have running : pool.isRunning n = true := by simp [TaskPool.isRunning, found]
    have here := TaskPool.lt_of_isRunning running
    have still : (job.adds.foldl TaskPool.spawn pool).isRunning n = true := by
      simp [TaskPool.isRunning, TaskPool.jobs_foldl_spawn, List.getElem?_append_left here, found]
    obtain ⟨joined', added⟩ := run_foldl_spawn waiting counted joined job.adds running
    exact ⟨joined', added.quiet (Step.finish n job.ending ⟨still, by simp⟩)⟩
  · exact ⟨joined, .refl _⟩

theorem isRunning_work (pool : TaskPool) (n : Nat) : (pool.work n).isRunning n = false := by
  unfold TaskPool.work
  split
  · simp only [TaskPool.isRunning, TaskPool.finish, List.getElem?_set_self']
    split <;> simp_all
  · rename_i idle
    unfold TaskPool.isRunning
    split
    · rename_i job found
      exact absurd found (idle job)
    · rfl

/-- The jobs of a batch end and are joined, one after the other. -/
theorem run_joinAll (joined : List Nat) (batch : List Nat) (broken : Nat) (pool : TaskPool) :
    ∃ joined', Run ⟨pool, [], .joining batch broken, joined, counted⟩ []
      ⟨(pool.joinAll batch broken).2, [], .joining [] (pool.joinAll batch broken).1, joined',
        counted⟩ := by
  induction batch generalizing broken pool joined with
  | nil => exact ⟨joined, .refl _⟩
  | cons n batch ih =>
    obtain ⟨between, worked⟩ := run_work (.joining (n :: batch) broken) counted joined pool n
    have first := worked.quiet (Step.join rfl (isRunning_work pool n))
    obtain ⟨joined', rest⟩ := ih (between ++ [n]) _ (pool.work n)
    exact ⟨joined', first.trans rest⟩

/-- Batches are joined until none is left, and the wait ends. -/
theorem run_waitFrom (joined : List Nat) (broken : Nat) (pool : TaskPool) :
    ∃ last counted', Run ⟨pool, [], .joining [] broken, joined, counted⟩ [] last ∧
      Step last (some (pool.waitFrom broken).1)
        ⟨(pool.waitFrom broken).2, [], .idle, [], counted'⟩ := by
  fun_induction TaskPool.waitFrom generalizing joined with
  | case1 broken pool none_left =>
    -- The program sees that no job is left, and reads the counter.
    have seen := (Run.refl _).quiet
      (@Step.seeEmpty ⟨pool, [], .joining [] broken, joined, counted⟩ broken rfl none_left)
    exact ⟨_, _, seen, Step.leave rfl⟩
  | case2 broken pool left ih =>
    have taken := (Run.refl _).quiet
      (@Step.takeBatch ⟨pool, [], .joining [] broken, joined, counted⟩ broken rfl left)
    obtain ⟨between, batchJoined⟩ := run_joinAll counted joined pool.tracked broken pool.handOver
    obtain ⟨last, counted', rest, ends⟩ := ih between
    exact ⟨last, counted', (taken.trans batchJoined).trans rest, ends⟩

end Turns

/-- **A whole wait of the program is a run.** -/
theorem run_waitIdle {scene : Scene} (idle : scene.waiting = .idle)
    (unspawned : scene.spawning = []) :
    ∃ last after, Run scene [] last ∧ Step last (some scene.pool.waitIdle.1) after ∧
      after.pool = scene.pool.waitIdle.2 := by
  obtain ⟨pool, spawning, waiting, joined, counted⟩ := scene
  obtain rfl : waiting = .idle := idle
  obtain rfl : spawning = [] := unspawned
  have begun := (Run.refl _).quiet
    (@Step.beginWait ⟨pool, [], .idle, joined, counted⟩ ⟨rfl, by simp⟩)
  obtain ⟨last, counted', rest, ends⟩ := run_waitFrom counted joined 0 pool
  exact ⟨last, _, begun.trans rest, ends, rfl⟩

end Scene

open Scene in
/-- **Every broken job is counted by exactly one wait, and a wait leaves nothing behind.** Take any
sequence of steps. Where a wait ends, no job is tracked, and every job that was ever started has
ended. The number it gives is that of the broken jobs that no earlier wait has counted, so that all
waits together have counted each broken job once; after it, no job is uncounted. From a scene in
which nobody waits or is about to track a job, such a wait is the one that `TaskPool.waitIdle`
makes. -/
theorem wait_counts_each_broken_job_once {results : List Nat} {before : Scene}
    (run : Run fresh results before) :
    (∀ result after, Step before (some result) after →
      after.pool.tracked = [] ∧
      (∀ n < after.pool.jobs.length, ∃ ending, after.pool.jobs[n]? = some (.ended ending)) ∧
      (∀ first given, Run first given before → Remembers first after) ∧
      result = (after.brokenJobs.filter fun n => n ∉ before.counted).length ∧
      results.sum + result = after.brokenJobs.length ∧
      ∀ n, n ∈ after.counted ↔ n < after.pool.jobs.length) ∧
    (before.waiting = .idle → before.spawning = [] →
      ∃ last after, Run before [] last ∧ Step last (some before.pool.waitIdle.1) after ∧
        after.pool = before.pool.waitIdle.2) := by
  have accounted := run.accounted accounted_fresh
  refine ⟨?_, run_waitIdle⟩
  intro result after ends
  cases ends with
  | leave waits =>
    rename_i broken
    have joined := accounted.perm_of_leaving waits
    have tallied := accounted.tallied
    have uncounted := accounted.length_uncounted waits
    refine ⟨(accounted.settled broken waits).1, ?_, ?_, ?_, ?_, ?_⟩
    · intro n here
      exact exists_ending here (accounted.isRunning_of_leaving waits n)
    · intro first given earlier
      exact (earlier.step (Step.leave waits)).remembers
    · change _ = (before.brokenJobs.filter fun n => n ∉ before.counted).length
      rw [uncounted, tallied, waits, Waiting.broken, Nat.add_comm]
    · have total : before.brokenJobs.length
          = before.joined.countP before.pool.isBroken
            + before.counted.countP before.pool.isBroken := by
        rw [brokenJobs, ← List.countP_eq_length_filter, ← joined.countP_eq, List.countP_append]
      change results.sum + _ = before.brokenJobs.length
      rw [total, tallied, waits, Waiting.broken, run.sum_results]
      omega
    · intro n
      exact joined.mem_iff.trans List.mem_range

open Scene in
/-- One job breaks and is taken out when somebody asks how many are left; another adds a job that
breaks. The wait that follows gives both. -/
theorem wait_counts_taken_and_added :
    ∃ before last after,
      Run fresh [] before ∧ before.waiting = .idle ∧ before.spawning = [] ∧
      before.pool.tracked = [1] ∧ before.pool.brokenTaken = 1 ∧
      Run before [] last ∧ Step last (some 2) after ∧ after.pool.tracked = [] ∧
      after.brokenJobs.length = 2 := by
  have started : Run fresh []
      ⟨⟨[.running (.mk [] .broken)], [], 0⟩, [(.program, 0)], .idle, [], []⟩ :=
    (Run.refl _).quiet (Step.start .program _ ⟨rfl, by simp [fresh]⟩)
  have tracked : Run fresh [] ⟨⟨[.running (.mk [] .broken)], [0], 0⟩, [], .idle, [], []⟩ :=
    started.quiet (Step.track .program 0 List.mem_cons_self)
  have ended : Run fresh [] ⟨⟨[.ended .broken], [0], 0⟩, [], .idle, [], []⟩ :=
    tracked.quiet (Step.finish 0 .broken ⟨rfl, by simp⟩)
  have taken : Run fresh [] ⟨⟨[.ended .broken], [], 1⟩, [], .idle, [0], []⟩ :=
    ended.quiet (Step.pending .program ⟨rfl, by simp⟩)
  have startedAgain : Run fresh []
      ⟨⟨[.ended .broken, .running (.mk [.mk [] .broken] .normal)], [], 1⟩, [(.program, 1)], .idle,
        [0], []⟩ :=
    taken.quiet (Step.start .program _ ⟨rfl, by simp⟩)
  have before : Run fresh []
      ⟨⟨[.ended .broken, .running (.mk [.mk [] .broken] .normal)], [1], 1⟩, [], .idle, [0], []⟩ :=
    startedAgain.quiet (Step.track .program 1 List.mem_cons_self)
  have given : (TaskPool.waitIdle
      ⟨[.ended .broken, .running (.mk [.mk [] .broken] .normal)], [1], 1⟩).1 = 2 := by cbv
  obtain ⟨last, after, waited, ends, -⟩ := (wait_counts_each_broken_job_once before).2 rfl rfl
  rw [given] at ends
  obtain ⟨untracked, -, -, -, total, -⟩ :=
    (wait_counts_each_broken_job_once (before.trans waited)).1 2 after ends
  exact ⟨_, last, after, before, rfl, rfl, rfl, rfl, waited, ends, untracked, total.symm⟩

end ReactiveScript
