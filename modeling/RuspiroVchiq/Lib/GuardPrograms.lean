import RuspiroVchiq.Lib.LabelledRun
import Mathlib.Logic.Relation
import Mathlib.Logic.Function.Basic

/-!
# Tasks that share readers-writer locks

A task runs a list of operations on locks. A request that has to wait keeps the
task at its operation until the lock is granted. An attempt does not wait: where
the lock is taken, the rest of the program is skipped. Programs may be started
again and again, by any number of tasks.

Two rules are proved. What the programs hold at each of their requests is
kept along every run. There is no circular wait where the waiting tasks
can be ranked so that each waits only for higher ones.

On one core a request that has to wait spins for ever: whoever holds the lock is
suspended meanwhile. There a piece of a program is run at once against the guards of
the suspended tasks. Pieces that give back what they take pass without a trace, and
they can be nested.
-/

namespace RuspiroVchiq.Lib.GuardPrograms

set_option autoImplicit false

inductive Mode where
  | shared
  | exclusive
  deriving DecidableEq, Repr

/-- Two guards of one lock that cannot be held at the same time. -/
def Mode.Conflicts (one other : Mode) : Prop := one = .exclusive ∨ other = .exclusive

instance (one other : Mode) : Decidable (one.Conflicts other) :=
  inferInstanceAs (Decidable (_ ∨ _))

inductive GuardOp (Lock : Type*) where
  | acquire (lock : Lock) (mode : Mode)
  | attempt (lock : Lock) (mode : Mode)
  | release (lock : Lock)
  deriving DecidableEq, Repr

structure TaskState (Lock : Type*) where
  held : List (Lock × Mode)
  todo : List (GuardOp Lock)
  waiting : Bool

def TaskState.idle {Lock : Type*} : TaskState Lock := ⟨[], [], false⟩

section Steps

variable {Lock Task : Type*}

/-- Some task holds the lock in a mode that excludes the given one. -/
def Taken (tasks : Task → TaskState Lock) (lock : Lock) (mode : Mode) : Prop :=
  ∃ task other, (lock, other) ∈ (tasks task).held ∧ mode.Conflicts other

/-- The task has asked for a lock the other one holds. -/
def WaitsFor (tasks : Task → TaskState Lock) (task other : Task) : Prop :=
  ∃ lock mode rest held, (tasks task).waiting = true ∧
    (tasks task).todo = .acquire lock mode :: rest ∧
    (lock, held) ∈ (tasks other).held ∧ mode.Conflicts held

def CircularWait (tasks : Task → TaskState Lock) : Prop :=
  ∃ task, Relation.TransGen (WaitsFor tasks) task task

variable [DecidableEq Lock] [DecidableEq Task]

/-- The guards behind the drop of the one of the lock. -/
def giveBack (lock : Lock) (held : List (Lock × Mode)) : List (Lock × Mode) :=
  held.eraseP fun guard => guard.1 = lock

inductive GuardLabel (Task : Type*) where
  | started (task : Task)
  | requested (task : Task)
  | granted (task : Task)
  | entered (task : Task)
  | missed (task : Task)
  | released (task : Task)

inductive GuardStep (programs : List (GuardOp Lock) → Prop) :
    (Task → TaskState Lock) → GuardLabel Task → (Task → TaskState Lock) → Prop where
  | started {tasks : Task → TaskState Lock} {program : List (GuardOp Lock)} (task : Task)
      (idle : (tasks task).todo = []) (known : programs program) :
      GuardStep programs tasks (.started task)
        (Function.update tasks task ⟨(tasks task).held, program, false⟩)
  | requested {tasks : Task → TaskState Lock} {lock : Lock} {mode : Mode}
      {rest : List (GuardOp Lock)} (task : Task)
      (next : (tasks task).todo = .acquire lock mode :: rest)
      (running : (tasks task).waiting = false) :
      GuardStep programs tasks (.requested task)
        (Function.update tasks task { tasks task with waiting := true })
  | granted {tasks : Task → TaskState Lock} {lock : Lock} {mode : Mode}
      {rest : List (GuardOp Lock)} (task : Task)
      (next : (tasks task).todo = .acquire lock mode :: rest)
      (asked : (tasks task).waiting = true) (free : ¬Taken tasks lock mode) :
      GuardStep programs tasks (.granted task)
        (Function.update tasks task ⟨(lock, mode) :: (tasks task).held, rest, false⟩)
  | entered {tasks : Task → TaskState Lock} {lock : Lock} {mode : Mode}
      {rest : List (GuardOp Lock)} (task : Task)
      (next : (tasks task).todo = .attempt lock mode :: rest) (free : ¬Taken tasks lock mode) :
      GuardStep programs tasks (.entered task)
        (Function.update tasks task ⟨(lock, mode) :: (tasks task).held, rest, false⟩)
  | missed {tasks : Task → TaskState Lock} {lock : Lock} {mode : Mode}
      {rest : List (GuardOp Lock)} (task : Task)
      (next : (tasks task).todo = .attempt lock mode :: rest) (taken : Taken tasks lock mode) :
      GuardStep programs tasks (.missed task)
        (Function.update tasks task ⟨(tasks task).held, [], false⟩)
  | released {tasks : Task → TaskState Lock} {lock : Lock} {rest : List (GuardOp Lock)}
      (task : Task) (next : (tasks task).todo = .release lock :: rest) :
      GuardStep programs tasks (.released task)
        (Function.update tasks task ⟨giveBack lock (tasks task).held, rest, false⟩)

/-- A task waits at a request. -/
def Asking (task : TaskState Lock) : Prop :=
  task.waiting = true → ∃ lock mode rest, task.todo = .acquire lock mode :: rest

theorem guard_step_asking {programs : List (GuardOp Lock) → Prop}
    {before after : Task → TaskState Lock} {label : GuardLabel Task}
    (asking : ∀ task, Asking (before task)) (step : GuardStep programs before label after)
    (task : Task) : Asking (after task) := by
  have updated : ∀ changed state, Asking state →
      Asking (Function.update before changed state task) := by
    intro changed state fits
    by_cases same : task = changed
    · subst same
      rw [Function.update_self]
      exact fits
    · rw [Function.update_of_ne same]
      exact asking task
  cases step with
  | requested changed next _ => exact updated changed _ fun _ => ⟨_, _, _, next⟩
  | started changed _ _ | granted changed _ _ _ | entered changed _ _ | missed changed _ _
  | released changed _ => exact updated changed _ fun waiting => nomatch waiting

/-- A task that waits has waited before or has just asked. -/
theorem guard_step_waiting {programs : List (GuardOp Lock) → Prop}
    {before after : Task → TaskState Lock} {label : GuardLabel Task}
    (step : GuardStep programs before label after) {task : Task}
    (waiting : (after task).waiting = true) :
    after task = before task ∨
      label = .requested task ∧ after task = { before task with waiting := true } := by
  have updated : ∀ changed state, TaskState.waiting state = false →
      (Function.update before changed state task).waiting = true →
      Function.update before changed state task = before task := by
    intro changed state running waits
    by_cases same : task = changed
    · subst same
      rw [Function.update_self, running] at waits
      simp at waits
    · rw [Function.update_of_ne same]
  cases step with
  | requested changed _ _ =>
      by_cases same : task = changed
      · subst same
        exact .inr ⟨rfl, Function.update_self ..⟩
      · exact .inl (Function.update_of_ne same ..)
  | started changed _ _ | granted changed _ _ _ | entered changed _ _ | missed changed _ _
  | released changed _ => exact .inl (updated changed _ rfl waiting)

/-- The program asks for a lock only with permitted guards in its hands, attempts a
lock with none, and ends without any. -/
def Disciplined (permitted : List (Lock × Mode) → Lock → Mode → Prop) :
    List (Lock × Mode) → List (GuardOp Lock) → Prop
  | held, [] => held = []
  | held, .acquire lock mode :: rest =>
      permitted held lock mode ∧ Disciplined permitted ((lock, mode) :: held) rest
  | held, .attempt lock mode :: rest =>
      held = [] ∧ Disciplined permitted ((lock, mode) :: held) rest
  | held, .release lock :: rest => Disciplined permitted (giveBack lock held) rest

theorem guard_step_disciplined {programs : List (GuardOp Lock) → Prop}
    {permitted : List (Lock × Mode) → Lock → Mode → Prop}
    (known : ∀ program, programs program → Disciplined permitted [] program)
    {before after : Task → TaskState Lock} {label : GuardLabel Task}
    (disciplined : ∀ task, Disciplined permitted (before task).held (before task).todo)
    (step : GuardStep programs before label after) (task : Task) :
    Disciplined permitted (after task).held (after task).todo := by
  -- a step follows one clause of the discipline and touches one task
  have updated : ∀ changed state, Disciplined permitted (TaskState.held state) state.todo →
      Disciplined permitted (Function.update before changed state task).held
        (Function.update before changed state task).todo := by
    intro changed state fits
    by_cases same : task = changed
    · subst same
      rw [Function.update_self]
      exact fits
    · rw [Function.update_of_ne same]
      exact disciplined task
  cases step with
  | started changed idle program =>
      apply updated
      have empty := disciplined changed
      rw [idle] at empty
      rw [show (before changed).held = [] from empty]
      exact known _ program
  | requested changed _ _ => exact updated changed _ (disciplined changed)
  | granted changed next _ _ =>
      apply updated
      have fits := disciplined changed
      rw [next] at fits
      exact fits.2
  | entered changed next _ =>
      apply updated
      have fits := disciplined changed
      rw [next] at fits
      exact fits.2
  | missed changed next _ =>
      apply updated
      have fits := disciplined changed
      rw [next] at fits
      exact fits.1
  | released changed next =>
      apply updated
      have fits := disciplined changed
      rw [next] at fits
      exact fits

end Steps

section OneCore

variable {Lock Other : Type*}

/-- The operation on the locks of a larger system. -/
def GuardOp.map (into : Lock → Other) : GuardOp Lock → GuardOp Other
  | .acquire lock mode => .acquire (into lock) mode
  | .attempt lock mode => .attempt (into lock) mode
  | .release lock => .release (into lock)

variable [DecidableEq Lock]

/-- One of the guards excludes a further one. -/
def excludes (guards : List (Lock × Mode)) (lock : Lock) (mode : Mode) : Bool :=
  guards.any fun guard => guard.1 = lock ∧ mode.Conflicts guard.2

@[simp] theorem excludes_nil (lock : Lock) (mode : Mode) : excludes [] lock mode = false := rfl

@[simp] theorem excludes_cons (guard : Lock × Mode) (guards : List (Lock × Mode)) (lock : Lock)
    (mode : Mode) :
    excludes (guard :: guards) lock mode =
      (decide (guard.1 = lock ∧ mode.Conflicts guard.2) || excludes guards lock mode) :=
  rfl

theorem excludes_absent {guards : List (Lock × Mode)} {lock : Lock}
    (absent : ∀ guard ∈ guards, guard.1 ≠ lock) (mode : Mode) :
    excludes guards lock mode = false := by
  rw [excludes, List.any_eq_false]
  intro guard member
  simp [absent guard member]

theorem excludes_shared {guards : List (Lock × Mode)}
    (shared : ∀ guard ∈ guards, guard.2 = .shared) (lock : Lock) :
    excludes guards lock .shared = false := by
  rw [excludes, List.any_eq_false]
  intro guard member
  simp [Mode.Conflicts, shared guard member]

/-- The guards a task has at the end of a piece of its program; `none` if it spins. -/
def runGuards (others : List (Lock × Mode)) :
    List (Lock × Mode) → List (GuardOp Lock) → Option (List (Lock × Mode))
  | held, [] => some held
  | held, .acquire lock mode :: rest =>
      if excludes (held ++ others) lock mode then none
      else runGuards others ((lock, mode) :: held) rest
  | held, .attempt lock mode :: rest =>
      if excludes (held ++ others) lock mode then some held
      else runGuards others ((lock, mode) :: held) rest
  | held, .release lock :: rest => runGuards others (giveBack lock held) rest

/-- The piece neither spins nor leaves a guard behind. -/
def Passes (others held : List (Lock × Mode)) (ops : List (GuardOp Lock)) : Prop :=
  ∀ rest, runGuards others held (ops ++ rest) = runGuards others held rest

theorem Passes.nil (others held : List (Lock × Mode)) : Passes others held [] :=
  fun _ => rfl

theorem Passes.runs {others held : List (Lock × Mode)} {ops : List (GuardOp Lock)}
    (passes : Passes others held ops) : runGuards others held ops = some held := by
  rw [← List.append_nil ops, passes, runGuards]

theorem Passes.append {others held : List (Lock × Mode)} {first second : List (GuardOp Lock)}
    (early : Passes others held first) (late : Passes others held second) :
    Passes others held (first ++ second) := by
  intro rest
  rw [List.append_assoc, early, late]

/-- What runs under a guard passes with it. -/
theorem Passes.nest {others held : List (Lock × Mode)} {lock : Lock} {mode : Mode}
    {body : List (GuardOp Lock)} (free : excludes (held ++ others) lock mode = false)
    (inside : Passes others ((lock, mode) :: held) body) :
    Passes others held (.acquire lock mode :: body ++ [.release lock]) := by
  intro rest
  simp only [List.cons_append, List.append_assoc, runGuards, free, Bool.false_eq_true, if_false,
    inside _, List.nil_append, giveBack]
  rw [List.eraseP_cons_of_pos (by simp)]

theorem Passes.brief {others held : List (Lock × Mode)} {lock : Lock} {mode : Mode}
    (free : excludes (held ++ others) lock mode = false) :
    Passes others held [.acquire lock mode, .release lock] :=
  Passes.nest free (Passes.nil _ _)

/-- An attempt at a free lock goes on, at a taken one it skips the rest. -/
theorem attempt_passes {others : List (Lock × Mode)} {lock : Lock} {mode : Mode}
    {body : List (GuardOp Lock)} (inside : Passes others [(lock, mode)] body) :
    runGuards others [] (.attempt lock mode :: body ++ [.release lock]) = some [] := by
  simp only [List.cons_append, runGuards]
  split_ifs
  · rfl
  · rw [inside]
    simp [runGuards, giveBack]

end OneCore

/-- Along the edges of a cycle a rank would rise for ever. -/
theorem no_cycle_of_rank {Node : Type*} {edge : Node → Node → Prop} (rank : Node → Nat)
    (rises : ∀ first second third, edge first second → edge second third →
      rank first < rank second) (start : Node) : ¬Relation.TransGen edge start start := by
  have rising : ∀ last, Relation.TransGen edge start last → ∀ next, edge last next →
      rank start < rank last := by
    intro last path
    induction path with
    | single first =>
        intro next later
        exact rises start _ next first later
    | tail _ middle ih =>
        intro next later
        exact Nat.lt_trans (ih _ middle) (rises _ _ next middle later)
  intro cycle
  obtain ⟨next, first, _⟩ := Relation.TransGen.head'_iff.mp cycle
  exact Nat.lt_irrefl _ (rising start cycle next first)

end RuspiroVchiq.Lib.GuardPrograms
