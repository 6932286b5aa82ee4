/-! # Jobs that run beside the program

A pool of jobs: jobs are started, run to an end in any order, and may start further jobs while they
run. The pool keeps track of the jobs that were started until somebody has joined them. Jobs that
have ended are joined and taken out from time to time; how many of them broke is kept until somebody
waits for the pool to become idle. -/

namespace ReactiveScript

/-- How a job ends. -/
inductive Ending where
  | normal
  | broken
deriving DecidableEq, Repr

/-- What a job does: it adds jobs to the pool, and then ends. -/
inductive Job where
  | mk (adds : List Job) (ending : Ending)

/-- The jobs that a job adds while it runs. -/
def Job.adds : Job → List Job
  | .mk adds _ => adds

/-- How a job ends. -/
def Job.ending : Job → Ending
  | .mk _ ending => ending

/-- How far a job has come. -/
inductive Progress where
  | running (job : Job)
  | ended (ending : Ending)

/-- The jobs of a program. A job is known by its place among the jobs that were ever started. -/
structure TaskPool where
  /-- Every job that was started, in the order in which they were. -/
  jobs : List Progress
  /-- The jobs that were not taken out yet, in the order in which they came. -/
  tracked : List Nat
  /-- How many broken jobs were taken out since the last wait. -/
  brokenTaken : Nat

mutual

/-- How many jobs a job stands for, itself and all that it adds, an added one counting for two: it
has to be run, and to be joined. -/
def Job.weight : Job → Nat
  | .mk adds _ => weightOfAll adds + 1

/-- How much work some added jobs are. -/
def weightOfAll : List Job → Nat
  | [] => 0
  | job :: jobs => job.weight + 1 + weightOfAll jobs

end

/-- How much a job that has come so far still has to do. -/
def Progress.weight : Progress → Nat
  | .running job => job.weight
  | .ended _ => 0

/-- How much some jobs that have come so far still have to do. -/
def Progress.weightOfAll : List Progress → Nat
  | [] => 0
  | progress :: rest => progress.weight + weightOfAll rest

namespace TaskPool

/-- The pool without jobs. -/
def empty : TaskPool := ⟨[], [], 0⟩

/-- Whether a job is still running. -/
def isRunning (pool : TaskPool) (n : Nat) : Bool :=
  match pool.jobs[n]? with
  | some (.running _) => true
  | _ => false

/-- Whether a job has broken. -/
def isBroken (pool : TaskPool) (n : Nat) : Bool :=
  match pool.jobs[n]? with
  | some (.ended .broken) => true
  | _ => false

/-- The pool after the ended jobs are taken out. -/
def reap (pool : TaskPool) : TaskPool :=
  { pool with
    tracked := pool.tracked.filter pool.isRunning
    brokenTaken := pool.brokenTaken + pool.tracked.countP pool.isBroken }

/-- The pool after a job is started, which nobody keeps track of yet. -/
def launch (pool : TaskPool) (job : Job) : TaskPool :=
  { pool with jobs := pool.jobs ++ [.running job] }

/-- The pool after it has begun to keep track of a job, which takes out the ended ones first. -/
def track (pool : TaskPool) (n : Nat) : TaskPool :=
  let reaped := pool.reap
  { reaped with tracked := reaped.tracked ++ [n] }

/-- The pool after a job is added: the job is started, and then kept track of. -/
def spawn (pool : TaskPool) (job : Job) : TaskPool :=
  (pool.launch job).track pool.jobs.length

/-- How many jobs are left after the ended ones are taken out. -/
def pending (pool : TaskPool) : Nat × TaskPool :=
  let reaped := pool.reap
  (reaped.tracked.length, reaped)

/-- The pool after a job has ended. -/
def finish (pool : TaskPool) (n : Nat) (ending : Ending) : TaskPool :=
  { pool with jobs := pool.jobs.set n (.ended ending) }

/-- The pool after a job had the time to end: it has added its jobs, and has ended. -/
def work (pool : TaskPool) (n : Nat) : TaskPool :=
  match pool.jobs[n]? with
  | some (.running job) => (job.adds.foldl spawn pool).finish n job.ending
  | _ => pool

/-- The pool without the jobs that it keeps track of. -/
def handOver (pool : TaskPool) : TaskPool := { pool with tracked := [] }

/-- The pool after the number of broken jobs that were taken out was read and set back. -/
def clearBroken (pool : TaskPool) : TaskPool := { pool with brokenTaken := 0 }

/-- Joins the jobs of a batch one after the other, each when it has ended; gives how many of them
broke, besides those counted before. -/
def joinAll : List Nat → Nat → TaskPool → Nat × TaskPool
  | [], broken, pool => (broken, pool)
  | n :: batch, broken, pool =>
    let ended := pool.work n
    joinAll batch (if ended.isBroken n then broken + 1 else broken) ended

/-- How much there is to do until no job is left to run or to join. -/
def load (pool : TaskPool) : Nat := Progress.weightOfAll pool.jobs + pool.tracked.length

/-! ## What each change does to the load -/

theorem load_reap_le (pool : TaskPool) : pool.reap.load ≤ pool.load :=
  Nat.add_le_add_left (List.length_filter_le pool.isRunning pool.tracked) _

theorem weightOfAll_concat (jobs : List Progress) (job : Job) :
    Progress.weightOfAll (jobs ++ [.running job]) = Progress.weightOfAll jobs + job.weight := by
  induction jobs with
  | nil => simp [Progress.weightOfAll, Progress.weight]
  | cons first jobs ih => simp [Progress.weightOfAll, ih, Nat.add_assoc]

theorem load_spawn_le (pool : TaskPool) (job : Job) :
    (pool.spawn job).load ≤ pool.load + (job.weight + 1) := by
  have kept : ((pool.launch job).reap.tracked).length ≤ pool.tracked.length :=
    List.length_filter_le (pool.launch job).isRunning pool.tracked
  have started : Progress.weightOfAll (pool.launch job).jobs
      = Progress.weightOfAll pool.jobs + job.weight :=
    weightOfAll_concat pool.jobs job
  simp only [load, spawn, track, reap, List.length_append, List.length_singleton] at kept ⊢
  omega

/-- Adding jobs only adds running jobs after those that there were. -/
theorem jobs_foldl_spawn (added : List Job) (pool : TaskPool) :
    (added.foldl spawn pool).jobs = pool.jobs ++ added.map .running := by
  induction added generalizing pool with
  | nil => simp
  | cons job added ih =>
    rw [List.foldl_cons, ih]
    simp [spawn, track, reap, launch]

theorem load_foldl_spawn_le (added : List Job) (pool : TaskPool) :
    (added.foldl spawn pool).load ≤ pool.load + weightOfAll added := by
  induction added generalizing pool with
  | nil => simp [weightOfAll]
  | cons job added ih =>
    have first := load_spawn_le pool job
    have rest := ih (pool.spawn job)
    simp only [List.foldl_cons, weightOfAll]
    omega

/-- A job that ends has nothing left to do. -/
theorem weightOfAll_set {jobs : List Progress} {n : Nat} {job : Job} (ending : Ending)
    (running : jobs[n]? = some (.running job)) :
    Progress.weightOfAll (jobs.set n (.ended ending)) + job.weight
      = Progress.weightOfAll jobs := by
  induction jobs generalizing n with
  | nil => simp at running
  | cons first jobs ih =>
    cases n with
    | zero =>
      obtain rfl : first = .running job := by simpa using running
      simp [Progress.weightOfAll, Progress.weight, Nat.add_comm]
    | succ n =>
      have rest := ih (by simpa using running)
      simp only [List.set_cons_succ, Progress.weightOfAll]
      omega

/-- A running job does some of its work when it has the time to end. -/
theorem load_work_lt {pool : TaskPool} {n : Nat} (running : pool.isRunning n = true) :
    (pool.work n).load < pool.load := by
  unfold isRunning at running
  split at running
  · rename_i job found
    obtain ⟨adds, ending⟩ := job
    have here : n < pool.jobs.length := (List.getElem?_eq_some_iff.mp found).1
    have still : (adds.foldl spawn pool).jobs[n]? = some (.running (.mk adds ending)) := by
      rw [jobs_foldl_spawn, List.getElem?_append_left here, found]
    have added := load_foldl_spawn_le adds pool
    have ended := weightOfAll_set ending still
    simp only [work, found, finish, load, Job.adds, Job.ending, Job.weight] at added ended ⊢
    omega
  · exact absurd running (by decide)

theorem load_work_le (pool : TaskPool) (n : Nat) : (pool.work n).load ≤ pool.load := by
  by_cases running : pool.isRunning n = true
  · exact Nat.le_of_lt (load_work_lt running)
  · unfold work
    split
    · rename_i found
      exact absurd (by simp [isRunning, found]) running
    · exact Nat.le_refl _

theorem load_joinAll_le (batch : List Nat) (broken : Nat) (pool : TaskPool) :
    (joinAll batch broken pool).2.load ≤ pool.load := by
  induction batch generalizing broken pool with
  | nil => exact Nat.le_refl _
  | cons n batch ih => exact Nat.le_trans (ih _ _) (load_work_le pool n)

theorem load_foldl_work_le (batch : List Nat) (pool : TaskPool) :
    (batch.foldl work pool).load ≤ pool.load := by
  induction batch generalizing pool with
  | nil => exact Nat.le_refl _
  | cons n batch ih => exact Nat.le_trans (ih _) (load_work_le pool n)

/-- Whatever a pool keeps track of after the ended jobs are taken out is running. -/
theorem isRunning_of_mem_reap {pool : TaskPool} {n : Nat} (tracked : n ∈ pool.reap.tracked) :
    pool.reap.isRunning n = true :=
  (List.mem_filter.mp tracked).2

/-! ## Waiting -/

/-- Joins batch after batch until no job is left; gives how many jobs broke, besides those counted
before. -/
def waitFrom (broken : Nat) (pool : TaskPool) : Nat × TaskPool :=
  if pool.tracked = [] then (broken + pool.brokenTaken, pool.clearBroken)
  else
    waitFrom (joinAll pool.tracked broken pool.handOver).1
      (joinAll pool.tracked broken pool.handOver).2
termination_by pool.load
decreasing_by
  rename_i some_tracked
  have joined := load_joinAll_le pool.tracked broken pool.handOver
  have handed : pool.handOver.load + pool.tracked.length = pool.load := by simp [load, handOver]
  have := List.length_pos_iff.mpr some_tracked
  omega

/-- Waits until no job is left; gives how many jobs broke since the last wait. -/
def waitIdle (pool : TaskPool) : Nat × TaskPool := pool.waitFrom 0

/-- Looks at the pool until no job is left, without asking which broke. Between two looks every job
that the pool keeps track of has the time to end. -/
def drain (pool : TaskPool) : Nat × TaskPool :=
  if pool.reap.tracked = [] then pool.pending
  else drain (pool.reap.tracked.foldl work pool.reap)
termination_by pool.load
decreasing_by
  rename_i some_tracked
  obtain ⟨n, batch, found⟩ := List.exists_cons_of_ne_nil some_tracked
  have running : pool.reap.isRunning n = true := isRunning_of_mem_reap (by simp [found])
  have first := load_work_lt running
  have rest := load_foldl_work_le batch (pool.reap.work n)
  have reaped := load_reap_le pool
  rw [found, List.foldl_cons]
  omega

end TaskPool

end ReactiveScript
