import SessionKeeper.Proofs.Program.Guard
import SessionKeeper.Proofs.Program.Steps

/-!
# Two groups of programs in one pool

What the moves of a pool do, turn by turn. If the turns of one group of programs go the same way in
two worlds that are related, and those of the other group leave that relation alone, then the other
group might as well never have moved. The two worlds need not even be handled alike, as long as no
step of the group can tell.
-/

namespace SessionKeeper

variable {I : Interface} {α W : Type}

/-! ## Traces -/

/-- The turn that a move of a task takes, if it takes one. -/
def Task.turn? (h : Handler I W) : Task I W α → W → Option (Turn I)
  | .running (.ask step _), w =>
    if h.isBlocked step w then none else some ⟨step, (h.answer step w).1⟩
  | _, _ => none

namespace Pool

/-- The turn that the move of an index takes, if it takes one. -/
def turn? (h : Handler I W) (i : Nat) (p : Pool I W α) : Option (Turn I) :=
  p.tasks[i]?.bind fun task => task.turn? h p.world

/-- The turns that the moves of a schedule take, each with the index of the task. -/
def trace (h : Handler I W) : List Nat → Pool I W α → List (Nat × Turn I)
  | [], _ => []
  | i :: schedule, p => (p.turn? h i).toList.map (i, ·) ++ trace h schedule (p.move h i)

/-- The turns of a schedule all have a property. -/
def All (h : Handler I W) (allowed : Turn I → Prop) (schedule : List Nat) (p : Pool I W α) : Prop :=
  ∀ t ∈ p.trace h schedule, allowed t.2

theorem all_cons {h : Handler I W} {allowed : Turn I → Prop} {i : Nat} {schedule : List Nat}
    {p : Pool I W α} (hall : p.All h allowed (i :: schedule)) :
    (∀ turn, p.turn? h i = some turn → allowed turn) ∧ (p.move h i).All h allowed schedule := by
  refine ⟨fun turn hturn => hall (i, turn) ?_, fun t ht => hall t (List.mem_append_right _ ht)⟩
  exact List.mem_append_left _ (by simp [hturn])

/-- What stands at an index after a task was replaced. -/
theorem task_of_set {tasks : List (Task I W α)} {i j : Nat} {task t : Task I W α}
    (h : (tasks.set i task)[j]? = some t) : i = j ∧ t = task ∨ i ≠ j ∧ tasks[j]? = some t := by
  by_cases hij : i = j
  · subst hij
    obtain ⟨hi, ht⟩ := List.getElem?_eq_some_iff.mp h
    exact .inl ⟨rfl, by rw [← ht, List.getElem_set_self]⟩
  · exact .inr ⟨hij, by rwa [List.getElem?_set_ne hij] at h⟩

theorem length_move (h : Handler I W) (i : Nat) (p : Pool I W α) :
    (p.move h i).tasks.length = p.tasks.length := by
  rw [move]
  split
  next => rfl
  next =>
    split
    next => rfl
    next => exact List.length_set

theorem length_run (h : Handler I W) (schedule : List Nat) (p : Pool I W α) :
    (p.run h schedule).tasks.length = p.tasks.length := by
  induction schedule generalizing p with
  | nil => rfl
  | cons i schedule ih => exact (ih _).trans (length_move h i p)

end Pool

/-! ## Tasks within steps -/

/-- What is left of a task is made of certain steps. -/
inductive Task.Within (P : I.Step → Prop) : Task I W α → Prop
  | waiting {start : W → Program I α} {op : Program I α} (hstart : ∀ w, start w = op)
      (hop : op.Within P) : Within P (.waiting start)
  | running {op : Program I α} (hop : op.Within P) : Within P (.running op)
  | finished (a : α) : Within P (.finished a)

/-! ## One group alone -/

/-- A pool in which all programs move, and one in which those of one group do. The programs of the
group have come as far in both; they are made of some steps, and all others of other steps. -/
structure Pool.Apart (R : W → W → Prop) (group : Nat → Bool) (mine others : I.Step → Prop)
    (p q : Pool I W α) : Prop where
  tasks : ∀ i, group i = true → p.tasks[i]? = q.tasks[i]?
  mine : ∀ i task, group i = true → p.tasks[i]? = some task → task.Within mine
  others : ∀ i task, group i = false → p.tasks[i]? = some task → task.Within others
  world : R p.world q.world

/-- Steps of a group that go the same way in related worlds, and steps of others that leave the
relation alone, as long as the turns in the first world are allowed. -/
structure Handler.Separates (h k : Handler I W) (R : W → W → Prop) (allowed : Turn I → Prop)
    (mine others : I.Step → Prop) : Prop where
  blocked : ∀ step v w, mine step → R v w → h.isBlocked step v = k.isBlocked step w
  answer : ∀ step v w, mine step → R v w → h.isBlocked step v = false →
    allowed ⟨step, (h.answer step v).1⟩ →
    (h.answer step v).1 = (k.answer step w).1 ∧ R (h.answer step v).2 (k.answer step w).2
  unnoticed : ∀ step v w, others step → R v w → allowed ⟨step, (h.answer step v).1⟩ →
    R (h.answer step v).2 w

variable {h k : Handler I W} {R : W → W → Prop} {allowed : Turn I → Prop}
  {mine others : I.Step → Prop} {group : Nat → Bool} {p q : Pool I W α}

namespace Handler.Separates

/-- A move of the group goes the same way in related worlds. -/
theorem move (hsep : h.Separates k R allowed mine others) {task : Task I W α} {v w : W}
    (htask : task.Within mine) (hR : R v w)
    (hallowed : ∀ turn, task.turn? h v = some turn → allowed turn) :
    (task.move h v = none ∧ task.move k w = none) ∨
      ∃ (task' : Task I W α) (v' w' : W), task.move h v = some (task', v') ∧
        task.move k w = some (task', w') ∧ task'.Within mine ∧ R v' w' := by
  cases htask with
  | @waiting start op hstart hop =>
      refine .inr ⟨.running op, v, w, ?_, ?_, .running hop, hR⟩
      · rw [Task.move, hstart]
      · rw [Task.move, hstart]
  | finished a => exact .inl ⟨rfl, rfl⟩
  | running hop =>
      cases hop with
      | done a => exact .inr ⟨.finished a, v, w, rfl, rfl, .finished a, hR⟩
      | @ask step resume hstep hrest =>
          simp only [Task.move, Task.stepProgram, Task.turn?] at hallowed ⊢
          rw [← hsep.blocked step v w hstep hR]
          split
          next => exact .inl ⟨rfl, rfl⟩
          next hopen =>
            -- the answers are the same on both sides, so what is left of the task is too
            rw [if_neg hopen] at hallowed
            rw [Bool.not_eq_true] at hopen
            obtain ⟨hanswer, hnext⟩ := hsep.answer step v w hstep hR hopen (hallowed _ rfl)
            exact .inr ⟨_, _, _, rfl, by rw [hanswer], .running (hrest _), hnext⟩

/-- A move of the others is not noticed. -/
theorem move_unnoticed (hsep : h.Separates k R allowed mine others) {task : Task I W α} {v w : W}
    (htask : task.Within others) (hR : R v w)
    (hallowed : ∀ turn, task.turn? h v = some turn → allowed turn) :
    task.move h v = none ∨
      ∃ (task' : Task I W α) (v' : W), task.move h v = some (task', v') ∧
        task'.Within others ∧ R v' w := by
  cases htask with
  | @waiting start op hstart hop =>
      exact .inr ⟨.running op, v, by rw [Task.move, hstart], .running hop, hR⟩
  | finished a => exact .inl rfl
  | running hop =>
      cases hop with
      | done a => exact .inr ⟨.finished a, v, rfl, .finished a, hR⟩
      | @ask step resume hstep hrest =>
          simp only [Task.move, Task.stepProgram, Task.turn?] at hallowed ⊢
          split
          next => exact .inl rfl
          next hopen =>
            rw [if_neg hopen] at hallowed
            exact .inr ⟨_, _, rfl, .running (hrest _),
              hsep.unnoticed step v w hstep hR (hallowed _ rfl)⟩

end Handler.Separates

namespace Pool.Apart

theorem start {ops : List (Program I α)} {w : W} (hR : R w w)
    (hmine : ∀ i op, ops[i]? = some op → group i = true → op.Within mine)
    (hothers : ∀ i op, ops[i]? = some op → group i = false → op.Within others) :
    (Pool.start ops w).Apart R group mine others (.start ops w) := by
  have htask {i : Nat} {task : Task I W α} (ht : (Pool.start ops w).tasks[i]? = some task) :
      ∃ op, ops[i]? = some op ∧ task = .waiting fun _ => op := by
    rw [Pool.start, List.getElem?_map, Option.map_eq_some_iff] at ht
    obtain ⟨op, hop, rfl⟩ := ht
    exact ⟨op, hop, rfl⟩
  refine ⟨fun _ _ => rfl, fun i task hi ht => ?_, fun i task hi ht => ?_, hR⟩
  · obtain ⟨op, hop, rfl⟩ := htask ht
    exact .waiting (fun _ => rfl) (hmine i op hop hi)
  · obtain ⟨op, hop, rfl⟩ := htask ht
    exact .waiting (fun _ => rfl) (hothers i op hop hi)

/-- What is made of other steps stays so when a task is replaced by one of its own kind. -/
theorem within_set {P : I.Step → Prop} {tasks : List (Task I W α)} {i j : Nat}
    {task' t : Task I W α}
    (hset : (tasks.set i task')[j]? = some t) (htask' : i = j → task'.Within P)
    (hold : tasks[j]? = some t → t.Within P) : t.Within P := by
  rcases Pool.task_of_set hset with ⟨hij, rfl⟩ | ⟨-, ht⟩
  · exact htask' hij
  · exact hold ht

/-- A move of the group is made in both pools. -/
theorem move (hpq : p.Apart R group mine others q) (hsep : h.Separates k R allowed mine others)
    {i : Nat} (hi : group i = true) (hallowed : ∀ turn, p.turn? h i = some turn → allowed turn) :
    (p.move h i).Apart R group mine others (q.move k i) := by
  have htasks := hpq.tasks i hi
  cases htask : p.tasks[i]? with
  | none =>
      rw [htask] at htasks
      simp only [Pool.move, htask, ← htasks]
      exact hpq
  | some task =>
      rw [htask] at htasks
      simp only [Pool.turn?, htask, Option.bind_some] at hallowed
      rcases hsep.move (hpq.mine i task hi htask) hpq.world hallowed with
        ⟨hp, hq⟩ | ⟨task', v, w, hp, hq, hwithin, hR⟩
      · simp only [Pool.move, htask, ← htasks, hp, hq]
        exact hpq
      · simp only [Pool.move, htask, ← htasks, hp, hq]
        refine ⟨fun j hj => ?_, fun j t hj ht => within_set ht (fun _ => hwithin) (hpq.mine j t hj),
          fun j t hj ht => within_set ht ?_ (hpq.others j t hj), hR⟩
        · by_cases hij : i = j
          · subst hij
            rw [List.getElem?_set_self', List.getElem?_set_self', htask, htasks]
          · rw [List.getElem?_set_ne hij, List.getElem?_set_ne hij]
            exact hpq.tasks j hj
        · rintro rfl
          exact absurd (hi.symm.trans hj) (by decide)

/-- A move of the others is made in the first pool only. -/
theorem move_others (hpq : p.Apart R group mine others q)
    (hsep : h.Separates k R allowed mine others) {i : Nat} (hi : group i = false)
    (hallowed : ∀ turn, p.turn? h i = some turn → allowed turn) :
    (p.move h i).Apart R group mine others q := by
  cases htask : p.tasks[i]? with
  | none =>
      simp only [Pool.move, htask]
      exact hpq
  | some task =>
      simp only [Pool.turn?, htask, Option.bind_some] at hallowed
      rcases hsep.move_unnoticed (hpq.others i task hi htask) hpq.world hallowed with
        hp | ⟨task', v, hp, hwithin, hR⟩
      · simp only [Pool.move, htask, hp]
        exact hpq
      · simp only [Pool.move, htask, hp]
        have hne {j : Nat} (hj : group j = true) : i ≠ j := by
          rintro rfl
          exact absurd (hj.symm.trans hi) (by decide)
        refine ⟨fun j hj => ?_, fun j t hj ht => within_set ht (fun hij => absurd hij (hne hj))
          (hpq.mine j t hj), fun j t hj ht => within_set ht (fun _ => hwithin)
          (hpq.others j t hj), hR⟩
        rw [List.getElem?_set_ne (hne hj)]
        exact hpq.tasks j hj

/-- A schedule does to the group what its own moves in the schedule do. -/
theorem run (hpq : p.Apart R group mine others q) (hsep : h.Separates k R allowed mine others)
    {schedule : List Nat} (hall : p.All h allowed schedule) :
    (p.run h schedule).Apart R group mine others (q.run k (schedule.filter group)) := by
  induction schedule generalizing p q with
  | nil => exact hpq
  | cons i schedule ih =>
      obtain ⟨hturn, hrest⟩ := all_cons hall
      cases hi : group i with
      | true =>
          rw [List.filter_cons_of_pos hi]
          exact ih (hpq.move hsep hi hturn) hrest
      | false =>
          rw [List.filter_cons_of_neg (by simp [hi])]
          exact ih (hpq.move_others hsep hi hturn) hrest

end Pool.Apart

/-! ## Handlers that act alike -/

/-- Handlers that act alike on certain steps, in all worlds that these steps lead to. -/
structure Handler.Agrees (h k : Handler I W) (P : I.Step → Prop) (invariant : W → Prop) : Prop where
  blocked : ∀ step w, P step → invariant w → h.isBlocked step w = k.isBlocked step w
  answer : ∀ step w, P step → invariant w → h.answer step w = k.answer step w
  keeps : ∀ step w, P step → invariant w → h.isBlocked step w = false →
    invariant (h.answer step w).2

/-- Under handlers that act alike on the steps of its programs, a pool does the same. -/
theorem Handler.Agrees.pool_run_eq {P : I.Step → Prop} {invariant : W → Prop}
    (hagrees : h.Agrees k P invariant) {ops : List (Program I α)} (hops : ∀ op ∈ ops, op.Within P)
    {w : W} (hw : invariant w) (schedule : List Nat) :
    (Pool.start ops w).run h schedule = (Pool.start ops w).run k schedule := by
  have hsep : h.Separates k (fun v w => v = w ∧ invariant v) (fun _ => True) P fun _ => False := by
    refine ⟨?_, ?_, fun _ _ _ hfalse => hfalse.elim⟩
    · rintro step v _ hstep ⟨rfl, hv⟩
      exact hagrees.blocked step v hstep hv
    · rintro step v _ hstep ⟨rfl, hv⟩ hopen -
      rw [← hagrees.answer step v hstep hv]
      exact ⟨rfl, rfl, hagrees.keeps step v hstep hv hopen⟩
  have hstart : (Pool.start ops w).Apart (fun v w => v = w ∧ invariant v) (fun _ => true) P
      (fun _ => False) (.start ops w) :=
    .start ⟨rfl, hw⟩ (fun i op hop _ => hops op (List.mem_of_getElem? hop)) nofun
  have hall : (Pool.start ops w).All h (fun _ => True) schedule := fun _ _ => trivial
  have hrun := hstart.run hsep hall
  rw [List.filter_true] at hrun
  have htasks := List.ext_getElem? fun i => hrun.tasks i rfl
  have hworld := hrun.world.1
  generalize (Pool.start ops w).run h schedule = p at htasks hworld ⊢
  cases p
  cases htasks
  cases hworld
  rfl

/-- So does a program that is run to its end, if the handlers act alike in all worlds. -/
theorem Program.Within.run_eq {P : I.Step → Prop}
    (hagrees : ∀ step w, P step → h.answer step w = k.answer step w) {p : Program I α}
    (hp : p.Within P) (w : W) : p.run h w = p.run k w := by
  induction hp generalizing w with
  | done a => rfl
  | ask hstep _ ih => rw [run_ask, run_ask, hagrees _ w hstep, ih]

end SessionKeeper
