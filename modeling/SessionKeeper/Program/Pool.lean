import SessionKeeper.Program.Basic

/-!
# Pools of programs

Programs that run side by side over one world. A move takes one of them one step further, if its
step is not blocked; a schedule is a list of moves. `settle` is the schedule of a single thread that
goes through the tasks in their order and takes each as far as it goes. Some steps take their time:
the tasks that ask for them are left waiting, and are served one by one.
-/

namespace SessionKeeper

/-- A program of a pool: not begun, on its way, or finished. What it is may depend on the world in
which it begins. -/
inductive Task (I : Interface) (W α : Type) where
  | waiting (start : W → Program I α)
  | running (program : Program I α)
  | finished (result : α)

namespace Task

variable {I : Interface} {α W : Type}

/-- The result of a task that has finished. -/
def result? : Task I W α → Option α
  | .finished a => some a
  | _ => none

/-- One step of a program, or nothing if it is blocked. -/
def stepProgram (h : Handler I W) : Program I α → W → Option (Task I W α × W)
  | .done a, w => some (.finished a, w)
  | .ask step resume, w =>
    if h.isBlocked step w then none
    else
      match h.answer step w with
      | (answer, w) => some (.running (resume answer), w)

/-- One move of a task, or nothing if it is blocked or has finished. -/
def move (h : Handler I W) : Task I W α → W → Option (Task I W α × W)
  | .waiting start, w => some (.running (start w), w)
  | .running p, w => stepProgram h p w
  | .finished _, _ => none

/-- Takes a program as far as it goes before it is blocked or asks for a step that takes time. -/
def advanceProgram (h : Handler I W) (isSlow : I.Step → W → Bool) :
    Program I α → W → Task I W α × W
  | .done a, w => (.finished a, w)
  | .ask step resume, w =>
    if h.isBlocked step w || isSlow step w then (.running (.ask step resume), w)
    else
      match h.answer step w with
      | (answer, w) => advanceProgram h isSlow (resume answer) w

/-- Takes a task as far as it goes before it is blocked or asks for a step that takes time. -/
def advance (h : Handler I W) (isSlow : I.Step → W → Bool) : Task I W α → W → Task I W α × W
  | .waiting start, w => advanceProgram h isSlow (start w) w
  | .running p, w => advanceProgram h isSlow p w
  | .finished a, w => (.finished a, w)

/-- Whether a task asks for a step that takes time. -/
def isWaiting (isSlow : I.Step → W → Bool) : Task I W α → W → Bool
  | .running (.ask step _), w => isSlow step w
  | _, _ => false

end Task

/-- Tasks and the world they share. -/
structure Pool (I : Interface) (W α : Type) where
  tasks : List (Task I W α)
  world : W

namespace Pool

variable {I : Interface} {α W : Type}

/-- Moves the task of an index. A move that is not possible changes nothing. -/
def move (h : Handler I W) (i : Nat) (p : Pool I W α) : Pool I W α :=
  match p.tasks[i]? with
  | none => p
  | some task =>
    match task.move h p.world with
    | none => p
    | some (task, world) => ⟨p.tasks.set i task, world⟩

/-- The pool after the moves of a schedule. -/
def run (h : Handler I W) (schedule : List Nat) (p : Pool I W α) : Pool I W α :=
  schedule.foldl (fun p i => p.move h i) p

/-- Takes every task as far as it goes, one after another. -/
def sweepTasks (h : Handler I W) (isSlow : I.Step → W → Bool) :
    List (Task I W α) → W → List (Task I W α) × W
  | [], w => ([], w)
  | task :: tasks, w =>
    match task.advance h isSlow w with
    | (task, w) =>
      match sweepTasks h isSlow tasks w with
      | (tasks, w) => (task :: tasks, w)

/-- The results of the tasks, if all have finished. -/
def results? (tasks : List (Task I W α)) : Option (List α) :=
  tasks.mapM Task.result?

/-- The tasks that ask for steps that take time, those that have waited longest first. -/
def lineUp (isSlow : I.Step → W → Bool) (line : List Nat) (p : Pool I W α) : List Nat :=
  line ++ (List.range p.tasks.length).filter fun i =>
    !line.contains i && p.tasks[i]?.any fun task => task.isWaiting isSlow p.world

/-- Sweeps through the tasks until all have finished, at most `fuel` times. Between two sweeps the
first task in line is served. When there is none the world goes on by itself. -/
def settle (h : Handler I W) (isSlow : I.Step → W → Bool) (between : W → W) :
    Nat → List Nat → List (Task I W α) → W → Option (List α) × W
  | 0, _, tasks, w => (results? tasks, w)
  | fuel + 1, line, tasks, w =>
    match sweepTasks h isSlow tasks w with
    | (tasks, w) =>
      match results? tasks with
      | some results => (some results, w)
      | none =>
        match lineUp isSlow line ⟨tasks, w⟩ with
        | [] => settle h isSlow between fuel [] tasks (between w)
        | i :: line =>
          match move h i ⟨tasks, w⟩ with
          | ⟨tasks, w⟩ => settle h isSlow between fuel line tasks w

end Pool

end SessionKeeper
