import Mathlib.Data.List.Nodup
import SessionKeeper.Program.Pool

/-!
# Programs that take turns by a guard

Programs of a pool that take a guard first and give it back last are run one after another, however
their moves are interleaved: the one that has the guard is the only one that can move, but for moves
that touch nothing. So the pool does what the programs do when they are run in the order in which
they took the guard.
-/

namespace SessionKeeper

variable {I : Interface} {α W : Type} {h : Handler I W}

/-- Runs programs one after another, each to its end. -/
def Program.runAll (h : Handler I W) : List (Program I α) → W → List α × W
  | [], w => ([], w)
  | p :: ps, w => ((p.run h w).1 :: (runAll h ps (p.run h w).2).1, (runAll h ps (p.run h w).2).2)

theorem Program.runAll_append (ps qs : List (Program I α)) (w : W) :
    runAll h (ps ++ qs) w = ((runAll h ps w).1 ++ (runAll h qs (runAll h ps w).2).1,
      (runAll h qs (runAll h ps w).2).2) := by
  induction ps generalizing w with
  | nil => rfl
  | cons p ps ih => rw [List.cons_append, runAll, ih, runAll, List.cons_append]

/-- The pool of programs that have not begun. -/
def Pool.start (ops : List (Program I α)) (w : W) : Pool I W α :=
  ⟨ops.map fun op => .waiting fun _ => op, w⟩

/-- A guard among the steps of a handler: some steps take it, some give it back, and who wants to
take it while it is held has to wait. Nothing else has to wait, or changes whether it is held. -/
structure Guard (h : Handler I W) where
  takes : I.Step → Bool
  gives : I.Step → Bool
  isHeld : W → Bool
  isBlocked_eq : ∀ step w, h.isBlocked step w = (takes step && isHeld w)
  isHeld_answer : ∀ step w, isHeld (h.answer step w).2 =
    if takes step then true else if gives step then false else isHeld w

namespace Guard

variable (G : Guard h)

/-- A program that neither takes the guard nor gives it back. -/
inductive Quiet {β : Type} : Program I β → Prop
  | done (b : β) : Quiet (.done b)
  | ask {step : I.Step} {resume : I.Answer step → Program I β} (htakes : G.takes step = false)
      (hgives : G.gives step = false) (hrest : ∀ answer, Quiet (resume answer)) :
      Quiet (.ask step resume)

/-- A program that has the guard, and gives it back with its last step. -/
inductive Inside : Program I α → Prop
  | last {step : I.Step} {resume : I.Answer step → Program I α} (htakes : G.takes step = false)
      (hgives : G.gives step = true) (hdone : ∀ answer, ∃ a, resume answer = .done a) :
      Inside (.ask step resume)
  | ask {step : I.Step} {resume : I.Answer step → Program I α} (htakes : G.takes step = false)
      (hgives : G.gives step = false) (hrest : ∀ answer, Inside (resume answer)) :
      Inside (.ask step resume)

/-- A program that asks for nothing, or takes the guard first and gives it back last. -/
inductive Outside : Program I α → Prop
  | done (a : α) : Outside (.done a)
  | ask {step : I.Step} {resume : I.Answer step → Program I α} (htakes : G.takes step = true)
      (hrest : ∀ answer, Inside G (resume answer)) : Outside (.ask step resume)

variable {G}

theorem Quiet.pure {β : Type} (b : β) : G.Quiet (pure b) :=
  .done b

theorem Quiet.perform {step : I.Step} (htakes : G.takes step = false)
    (hgives : G.gives step = false) : G.Quiet (Program.perform step) :=
  .ask htakes hgives fun _ => .done _

theorem Quiet.bind {β γ : Type} {p : Program I β} {f : β → Program I γ} (hp : G.Quiet p)
    (hf : ∀ b, G.Quiet (f b)) : G.Quiet (p >>= f) := by
  induction hp with
  | done b => exact hf b
  | ask htakes hgives _ ih => exact .ask htakes hgives ih

theorem Quiet.inside {β : Type} {p : Program I β} {f : β → Program I α} (hp : G.Quiet p)
    (hf : ∀ b, G.Inside (f b)) : G.Inside (p >>= f) := by
  induction hp with
  | done b => exact hf b
  | ask htakes hgives _ ih => exact .ask htakes hgives ih

theorem Inside.map {β : Type} {p : Program I α} (f : α → β) (hp : G.Inside p) :
    G.Inside (p >>= fun a => pure (f a)) := by
  induction hp with
  | last htakes hgives hdone =>
      refine .last htakes hgives fun answer => ?_
      obtain ⟨a, ha⟩ := hdone answer
      exact ⟨f a, by rw [ha]; rfl⟩
  | ask htakes hgives _ ih => exact .ask htakes hgives ih

theorem Outside.map {β : Type} {p : Program I α} (f : α → β) (hp : G.Outside p) :
    G.Outside (p >>= fun a => pure (f a)) := by
  cases hp with
  | done a => exact .done (f a)
  | ask htakes hrest => exact .ask htakes fun answer => (hrest answer).map f

/-! ## Who took the guard -/

variable (G)

/-- Whether the move of an index takes the guard. -/
def takesNext (p : Pool I W α) (i : Nat) : Bool :=
  match p.tasks[i]? with
  | some (.running (.ask step _)) => G.takes step && !G.isHeld p.world
  | _ => false

/-- The indices of the programs that take the guard under a schedule, in the order in which they
take it. -/
def takers : List Nat → Pool I W α → List Nat
  | [], _ => []
  | i :: schedule, p =>
    if G.takesNext p i then i :: takers schedule (p.move h i) else takers schedule (p.move h i)

/-- The indices of the programs that have given the guard back, and then of the one that has it. -/
def turns (past : List (Nat × α)) (holder : Option Nat) : List Nat :=
  past.map Prod.fst ++ holder.toList

/-- How far the program of an index has come: it has not taken the guard yet, it has it, or it has
given it back and its result is settled. -/
inductive Stage (past : List (Nat × α)) (holder : Option Nat) (i : Nat) (op : Program I α) :
    Task I W α → Prop
  | waiting {start : W → Program I α} (hnew : i ∉ turns past holder) (hstart : ∀ w, start w = op) :
      Stage past holder i op (.waiting start)
  | begun (hnew : i ∉ turns past holder) : Stage past holder i op (.running op)
  | idle {a : α} (hnew : i ∉ turns past holder) (hop : op = .done a) :
      Stage past holder i op (.finished a)
  | inside {q : Program I α} (hholder : holder = some i) : Stage past holder i op (.running q)
  | through {a : α} (hpast : (i, a) ∈ past) : Stage past holder i op (.running (.done a))
  | finished {a : α} (hpast : (i, a) ∈ past) : Stage past holder i op (.finished a)

/-- The world is where the programs of the past lead, or where the one that has the guard comes to
on its way from there. -/
inductive Standing (ops : List (Program I α)) (w₀ : W) (past : List (Nat × α))
    (tasks : List (Task I W α)) : Option Nat → W → Prop
  | free {w : W} (hruns : Program.runAll h ((past.map Prod.fst).filterMap (ops[·]?)) w₀ =
      (past.map Prod.snd, w)) (hfree : G.isHeld w = false) : Standing ops w₀ past tasks none w
  | held {i : Nat} {op q : Program I α} {v w : W} (hop : ops[i]? = some op)
      (htask : tasks[i]? = some (.running q)) (hinside : G.Inside q)
      (hruns : Program.runAll h ((past.map Prod.fst).filterMap (ops[·]?)) w₀ =
        (past.map Prod.snd, v))
      (hrest : q.run h w = op.run h v) (hheld : G.isHeld w = true) :
      Standing ops w₀ past tasks (some i) w

/-- The pool stands as if its programs were run one after another. -/
structure Serial (ops : List (Program I α)) (w₀ : W) (past : List (Nat × α)) (holder : Option Nat)
    (p : Pool I W α) : Prop where
  length : p.tasks.length = ops.length
  nodup : (turns past holder).Nodup
  bound : ∀ i ∈ turns past holder, i < ops.length
  stage : ∀ i op, ops[i]? = some op →
    ∃ task, p.tasks[i]? = some task ∧ Stage past holder i op task
  standing : G.Standing ops w₀ past p.tasks holder p.world

variable {G} {ops : List (Program I α)} {w₀ : W} {past : List (Nat × α)} {holder : Option Nat}

/-! ## Who has the guard -/

/-- While nobody has the guard, the world is where the programs of the past lead. -/
theorem Serial.standing_free {p : Pool I W α} (hp : G.Serial ops w₀ past none p) :
    Program.runAll h ((past.map Prod.fst).filterMap (ops[·]?)) w₀ =
      (past.map Prod.snd, p.world) ∧ G.isHeld p.world = false := by
  cases hp.standing with
  | free hruns hfree => exact ⟨hruns, hfree⟩

/-- The one that has the guard is still inside, and what is left of its program leads where the
whole program leads from the end of the past. -/
theorem Serial.standing_held {p : Pool I W α} {i : Nat}
    (hp : G.Serial ops w₀ past (some i) p) :
    ∃ op q v, ops[i]? = some op ∧ p.tasks[i]? = some (.running q) ∧ G.Inside q ∧
      Program.runAll h ((past.map Prod.fst).filterMap (ops[·]?)) w₀ = (past.map Prod.snd, v) ∧
      q.run h p.world = op.run h v ∧ G.isHeld p.world = true := by
  cases hp.standing with
  | held hop htask hinside hruns hrest hheld =>
      exact ⟨_, _, _, hop, htask, hinside, hruns, hrest, hheld⟩

/-- Nobody has the guard while it is free. -/
theorem Serial.holder_eq_none {p : Pool I W α} (hp : G.Serial ops w₀ past holder p)
    (hfree : G.isHeld p.world = false) : holder = none := by
  cases holder with
  | none => rfl
  | some i =>
      obtain ⟨_, _, _, -, -, -, -, -, hheld⟩ := hp.standing_held
      exact absurd (hheld.symm.trans hfree) nofun

theorem ne_holder_of_not_mem {i : Nat} (hnew : i ∉ turns past holder) : holder ≠ some i := by
  rintro rfl
  exact hnew (by simp [turns])

theorem ne_holder_of_mem {i : Nat} {a : α} (hnodup : (turns past holder).Nodup)
    (hpast : (i, a) ∈ past) : holder ≠ some i := by
  rintro rfl
  exact (List.nodup_append.mp hnodup).2.2 i (List.mem_map_of_mem hpast) i (by simp) rfl

/-! ## One move -/

theorem move_of_task {p : Pool I W α} {i : Nat} {task task' : Task I W α} {w : W}
    (htask : p.tasks[i]? = some task) (hmove : task.move h p.world = some (task', w)) :
    p.move h i = ⟨p.tasks.set i task', w⟩ := by
  simp [Pool.move, htask, hmove]

theorem move_of_stuck {p : Pool I W α} {i : Nat} {task : Task I W α}
    (htask : p.tasks[i]? = some task) (hmove : task.move h p.world = none) : p.move h i = p := by
  simp [Pool.move, htask, hmove]

/-- A step that does not take the guard does not have to wait. -/
theorem move_running {p : Pool I W α} {i : Nat} {step : I.Step}
    {resume : I.Answer step → Program I α}
    (htask : p.tasks[i]? = some (.running (.ask step resume)))
    (hopen : (G.takes step && G.isHeld p.world) = false) :
    p.move h i = ⟨p.tasks.set i (.running (resume (h.answer step p.world).1)),
      (h.answer step p.world).2⟩ := by
  refine move_of_task htask ?_
  simp [Task.move, Task.stepProgram, G.isBlocked_eq, hopen]

theorem lt_of_task {p : Pool I W α} {i : Nat} {task : Task I W α}
    (htask : p.tasks[i]? = some task) : i < p.tasks.length :=
  (List.getElem?_eq_some_iff.mp htask).1

/-- A program keeps its stage when another one takes the guard or gives it back. -/
theorem Stage.of_turns {i j : Nat} {op : Program I α} {task : Task I W α}
    {past' : List (Nat × α)} {holder' : Option Nat} (hstage : Stage past holder j op task)
    (hij : i ≠ j) (hpast : ∀ b ∈ past, b ∈ past')
    (hturns : ∀ k ∈ turns past' holder', k ∈ turns past holder ∨ k = i)
    (hholder : holder ≠ some j) : Stage past' holder' j op task := by
  have hnew (h : j ∉ turns past holder) : j ∉ turns past' holder' := by
    intro hmem
    rcases hturns j hmem with hold | heq
    · exact h hold
    · exact hij heq.symm
  cases hstage with
  | waiting hwaits hstart => exact .waiting (hnew hwaits) hstart
  | begun hwaits => exact .begun (hnew hwaits)
  | idle hwaits hop => exact .idle (hnew hwaits) hop
  | inside hholds => exact absurd hholds hholder
  | through hmem => exact .through (hpast _ hmem)
  | finished hmem => exact .finished (hpast _ hmem)

/-- The other programs keep their stages if one is replaced. -/
theorem Serial.stage_set {p : Pool I W α} (hp : G.Serial ops w₀ past holder p) {i : Nat}
    {task : Task I W α} (hi : i < p.tasks.length) {past' : List (Nat × α)}
    {holder' : Option Nat} (htask : ∀ op, ops[i]? = some op → Stage past' holder' i op task)
    (hother : ∀ j (op : Program I α) (task : Task I W α), i ≠ j → Stage past holder j op task →
      Stage past' holder' j op task) :
    ∀ j op, ops[j]? = some op →
      ∃ t, (p.tasks.set i task)[j]? = some t ∧ Stage past' holder' j op t := by
  intro j op hop
  by_cases hij : i = j
  · subst hij
    exact ⟨task, List.getElem?_set_self hi, htask op hop⟩
  · obtain ⟨t, ht, hstage⟩ := hp.stage j op hop
    exact ⟨t, (List.getElem?_set_ne hij).trans ht, hother j op t hij hstage⟩

/-- A move that touches nothing, of a program that does not have the guard. -/
theorem Serial.shift {p : Pool I W α} (hp : G.Serial ops w₀ past holder p) {i : Nat}
    {task : Task I W α} (hi : i < p.tasks.length) (hholder : holder ≠ some i)
    (htask : ∀ op, ops[i]? = some op → Stage past holder i op task) :
    G.Serial ops w₀ past holder ⟨p.tasks.set i task, p.world⟩ := by
  refine ⟨by rw [List.length_set]; exact hp.length, hp.nodup, hp.bound,
    hp.stage_set hi htask fun _ _ _ _ hstage => hstage, ?_⟩
  have hstanding := hp.standing
  generalize p.world = w at hstanding
  cases hstanding with
  | free hruns hfree => exact .free hruns hfree
  | held hop hq hinside hruns hrest hheld =>
      refine .held hop ?_ hinside hruns hrest hheld
      rw [List.getElem?_set_ne fun hij => hholder (congrArg some hij.symm)]
      exact hq

/-- A program takes the guard. -/
theorem Serial.take {p : Pool I W α} (hp : G.Serial ops w₀ past none p) {i : Nat} {step : I.Step}
    {resume : I.Answer step → Program I α} (hop : ops[i]? = some (.ask step resume))
    (hnew : i ∉ turns past none) (htask : p.tasks[i]? = some (.running (.ask step resume)))
    (htakes : G.takes step = true) (hrest : ∀ answer, G.Inside (resume answer)) :
    G.Serial ops w₀ past (some i) (p.move h i) := by
  have hi := lt_of_task htask
  obtain ⟨hruns, hfree⟩ := hp.standing_free
  rw [move_running htask (by rw [hfree, Bool.and_false])]
  refine ⟨by rw [List.length_set]; exact hp.length, ?_, ?_, ?_, ?_⟩
  · have hnodup := hp.nodup
    simp only [turns, Option.toList_none, List.append_nil] at hnodup hnew
    simp only [turns, Option.toList_some]
    refine List.nodup_append.mpr ⟨hnodup, List.nodup_singleton i, fun a ha b hb => ?_⟩
    rw [List.mem_singleton.mp hb]
    rintro rfl
    exact hnew ha
  · intro k hk
    rcases List.mem_append.mp hk with hold | hi'
    · exact hp.bound k (List.mem_append_left _ hold)
    · obtain rfl := List.mem_singleton.mp hi'
      exact (List.getElem?_eq_some_iff.mp hop).1
  · refine hp.stage_set hi (fun _ _ => .inside rfl) fun j op task hij hstage => ?_
    exact hstage.of_turns hij (fun _ hb => hb) (fun k hk => by simpa [turns] using hk) nofun
  · refine .held hop (List.getElem?_set_self hi) (hrest _) hruns rfl ?_
    rw [G.isHeld_answer, htakes, if_pos rfl]

/-- A step of the program that has the guard. -/
theorem Serial.advance {p : Pool I W α} {i : Nat} (hp : G.Serial ops w₀ past (some i) p)
    {step : I.Step} {resume : I.Answer step → Program I α}
    (htask : p.tasks[i]? = some (.running (.ask step resume))) (htakes : G.takes step = false)
    (hgives : G.gives step = false) (hrest : ∀ answer, G.Inside (resume answer)) :
    G.Serial ops w₀ past (some i) (p.move h i) := by
  have hi := lt_of_task htask
  rw [move_running htask (by rw [htakes, Bool.false_and])]
  refine ⟨by rw [List.length_set]; exact hp.length, hp.nodup, hp.bound,
    hp.stage_set hi (fun _ _ => .inside rfl) fun _ _ _ _ hstage => hstage, ?_⟩
  obtain ⟨op, q, v, hop, hq, -, hruns, hfinish, hheld⟩ := hp.standing_held
  obtain rfl : .ask step resume = q := Task.running.inj (Option.some.inj (htask.symm.trans hq))
  refine .held hop (List.getElem?_set_self hi) (hrest _) hruns ?_ ?_
  · -- running the step is by definition running what its answer resumes
    exact hfinish
  · rw [G.isHeld_answer, htakes, hgives]
    exact hheld

/-- The program that has the guard gives it back. -/
theorem Serial.give {p : Pool I W α} {i : Nat} (hp : G.Serial ops w₀ past (some i) p)
    {step : I.Step} {resume : I.Answer step → Program I α}
    (htask : p.tasks[i]? = some (.running (.ask step resume))) (htakes : G.takes step = false)
    (hgives : G.gives step = true) (hdone : ∀ answer, ∃ a, resume answer = .done a) :
    ∃ a, G.Serial ops w₀ (past ++ [(i, a)]) none (p.move h i) := by
  have hi := lt_of_task htask
  obtain ⟨a, ha⟩ := hdone (h.answer step p.world).1
  refine ⟨a, ?_⟩
  rw [move_running htask (by rw [htakes, Bool.false_and]), ha]
  -- the one that had the guard becomes the last of the past, so the order stays as it is
  have hturns : turns (past ++ [(i, a)]) none = turns past (some i) := by simp [turns]
  refine ⟨by rw [List.length_set]; exact hp.length, hturns ▸ hp.nodup, hturns ▸ hp.bound, ?_, ?_⟩
  · refine hp.stage_set hi (fun _ _ => .through (by simp)) fun j op task hij hstage => ?_
    exact hstage.of_turns hij (fun b hb => List.mem_append_left _ hb)
      (fun k hk => .inl (hturns ▸ hk)) fun heq => hij (Option.some.inj heq)
  · obtain ⟨op, q, v, hop, hq, -, hruns, hfinish, -⟩ := hp.standing_held
    obtain rfl : .ask step resume = q := Task.running.inj (Option.some.inj (htask.symm.trans hq))
    rw [Program.run_ask, ha, Program.run_done] at hfinish
    refine .free ?_ ?_
    · rw [List.map_append, List.filterMap_append, Program.runAll_append, hruns, List.map_append]
      simp [hop, Program.runAll, ← hfinish]
    · rw [G.isHeld_answer, htakes, hgives]
      rfl

/-- A program that has not taken the guard yet moves: it begins, ends without asking for anything,
takes the guard if it is free, or waits for it. -/
theorem Serial.move_begun {p : Pool I W α} (hp : G.Serial ops w₀ past holder p) {i : Nat}
    {op : Program I α} (hop : ops[i]? = some op) (houtside : G.Outside op)
    (hnew : i ∉ turns past holder) (htask : p.tasks[i]? = some (.running op)) :
    ∃ holder', G.Serial ops w₀ past holder' (p.move h i) ∧
      turns past holder' = turns past holder ++ if G.takesNext p i then [i] else [] := by
  cases houtside with
  | done a =>
      rw [move_of_task htask rfl]
      refine ⟨holder, hp.shift (lt_of_task htask) (ne_holder_of_not_mem hnew) ?_, ?_⟩
      · intro op' hop'
        obtain rfl := Option.some.inj (hop.symm.trans hop')
        exact .idle hnew rfl
      · simp [takesNext, htask]
  | @ask step resume htakes hrest =>
      by_cases hheld : G.isHeld p.world = true
      · have hstuck : (Task.running (Program.ask step resume)).move h p.world = none := by
          simp [Task.move, Task.stepProgram, G.isBlocked_eq, htakes, hheld]
        rw [move_of_stuck htask hstuck]
        exact ⟨holder, hp, by simp [takesNext, htask, hheld]⟩
      · rw [Bool.not_eq_true] at hheld
        obtain rfl := hp.holder_eq_none hheld
        refine ⟨some i, hp.take hop hnew htask htakes hrest, ?_⟩
        simp [takesNext, htask, htakes, hheld, turns]

/-- The program that has the guard moves. -/
theorem Serial.move_inside {p : Pool I W α} {i : Nat} (hp : G.Serial ops w₀ past (some i) p) :
    ∃ past' holder', G.Serial ops w₀ past' holder' (p.move h i) ∧
      turns past' holder' = turns past (some i) ++ if G.takesNext p i then [i] else [] := by
  obtain ⟨op, q, v, hop, htask, hinside, -⟩ := hp.standing_held
  cases hinside with
  | last htakes hgives hdone =>
      obtain ⟨a, hnext⟩ := hp.give htask htakes hgives hdone
      exact ⟨_, _, hnext, by simp [takesNext, htask, htakes, turns]⟩
  | ask htakes hgives hrest =>
      exact ⟨_, _, hp.advance htask htakes hgives hrest, by simp [takesNext, htask, htakes]⟩

/-- Every move leaves the pool as if its programs were run one after another. -/
theorem Serial.move {p : Pool I W α} (hops : ∀ op ∈ ops, G.Outside op)
    (hp : G.Serial ops w₀ past holder p) (i : Nat) :
    ∃ past' holder', G.Serial ops w₀ past' holder' (p.move h i) ∧
      turns past' holder' = turns past holder ++ if G.takesNext p i then [i] else [] := by
  cases htask : p.tasks[i]? with
  | none =>
      refine ⟨past, holder, ?_, by simp [takesNext, htask]⟩
      rw [Pool.move, htask]
      exact hp
  | some task =>
      have hi : i < ops.length := hp.length ▸ lt_of_task htask
      have hop : ops[i]? = some ops[i] := List.getElem?_eq_getElem hi
      obtain ⟨task', htask', hstage⟩ := hp.stage i _ hop
      obtain rfl := Option.some.inj (htask.symm.trans htask')
      -- the stage of the index says which move it makes
      cases hstage with
      | waiting hnew hstart =>
          rw [move_of_task htask rfl]
          refine ⟨past, holder, hp.shift (lt_of_task htask) (ne_holder_of_not_mem hnew) ?_,
            by simp [takesNext, htask]⟩
          intro op hop'
          obtain rfl := Option.some.inj (hop.symm.trans hop')
          rw [hstart]
          exact .begun hnew
      | begun hnew =>
          obtain ⟨holder', hnext⟩ :=
            hp.move_begun hop (hops _ (List.getElem_mem hi)) hnew htask
          exact ⟨past, holder', hnext⟩
      | idle hnew hidle =>
          rw [move_of_stuck htask rfl]
          exact ⟨past, holder, hp, by simp [takesNext, htask]⟩
      | inside hholder =>
          subst hholder
          exact hp.move_inside
      | through hpast =>
          rw [move_of_task htask rfl]
          exact ⟨past, holder,
            hp.shift (lt_of_task htask) (ne_holder_of_mem hp.nodup hpast) fun _ _ =>
              .finished hpast, by simp [takesNext, htask]⟩
      | finished hpast =>
          rw [move_of_stuck htask rfl]
          exact ⟨past, holder, hp, by simp [takesNext, htask]⟩

/-! ## Whole schedules -/

/-- Under every schedule the pool stands as if its programs were run one after another, in the order
in which they took the guard. -/
theorem Serial.run {p : Pool I W α} (hops : ∀ op ∈ ops, G.Outside op)
    (hp : G.Serial ops w₀ past holder p) (schedule : List Nat) :
    ∃ past' holder', G.Serial ops w₀ past' holder' (p.run h schedule) ∧
      turns past' holder' = turns past holder ++ G.takers schedule p := by
  induction schedule generalizing past holder p with
  | nil => exact ⟨past, holder, hp, (List.append_nil _).symm⟩
  | cons i schedule ih =>
      obtain ⟨past₁, holder₁, hnext, hturns₁⟩ := hp.move hops i
      obtain ⟨past₂, holder₂, hlast, hturns₂⟩ := ih hnext
      refine ⟨past₂, holder₂, hlast, hturns₂.trans ?_⟩
      rw [hturns₁, takers]
      split <;> simp

theorem serial_start (ops : List (Program I α)) {w : W} (hfree : G.isHeld w = false) :
    G.Serial ops w [] none (.start ops w) := by
  refine ⟨List.length_map _, List.nodup_nil, nofun, fun i op hop => ?_, .free rfl hfree⟩
  refine ⟨.waiting fun _ => op, ?_, .waiting (by simp [turns]) fun _ => rfl⟩
  simp [Pool.start, hop]

/-! ## Pools that have finished -/

theorem tasks_of_results {tasks : List (Task I W α)} {results : List α}
    (hresults : Pool.results? tasks = some results) : tasks = results.map .finished := by
  induction tasks generalizing results with
  | nil =>
      obtain rfl : [] = results := by simpa [Pool.results?] using hresults
      rfl
  | cons task tasks ih =>
      simp only [Pool.results?, List.mapM_cons, Option.bind_eq_bind, Option.bind_eq_some_iff,
        Option.pure_def, Option.some.injEq] at hresults
      obtain ⟨a, ha, rest, hrest, rfl⟩ := hresults
      obtain rfl : task = .finished a := by
        cases task <;> simp_all [Task.result?]
      rw [List.map_cons, ← ih hrest]

/-- Programs that ask for nothing give their results in any world. -/
theorem runAll_idle {results : List α} {order : List Nat}
    (hidle : ∀ i ∈ order, ∃ a, ops[i]? = some (.done a) ∧ results[i]? = some a) (w : W) :
    Program.runAll h (order.filterMap (ops[·]?)) w = (order.filterMap (results[·]?), w) := by
  induction order with
  | nil => rfl
  | cons i order ih =>
      obtain ⟨a, hop, hresult⟩ := hidle i List.mem_cons_self
      rw [List.filterMap_cons_some hop, List.filterMap_cons_some hresult, Program.runAll,
        Program.run_done, ih fun j hj => hidle j (List.mem_cons_of_mem _ hj)]

theorem filterMap_results {results : List α}
    (hpast : ∀ b ∈ past, results[b.1]? = some b.2) :
    (past.map Prod.fst).filterMap (results[·]?) = past.map Prod.snd := by
  induction past with
  | nil => rfl
  | cons b past ih =>
      rw [List.map_cons, List.filterMap_cons_some (hpast b List.mem_cons_self), List.map_cons,
        ih fun c hc => hpast c (List.mem_cons_of_mem _ hc)]

/-- Once all programs have finished, each has either had the guard or asked for nothing. -/
theorem Serial.result {p : Pool I W α} (hp : G.Serial ops w₀ past none p) {results : List α}
    (htasks : p.tasks = results.map .finished) {i : Nat} {op : Program I α}
    (hop : ops[i]? = some op) :
    ∃ a, results[i]? = some a ∧ ((i, a) ∈ past ∨ i ∉ past.map Prod.fst ∧ op = .done a) := by
  obtain ⟨task, htask, hstage⟩ := hp.stage i op hop
  rw [htasks, List.getElem?_map, Option.map_eq_some_iff] at htask
  obtain ⟨a, ha, rfl⟩ := htask
  refine ⟨a, ha, ?_⟩
  cases hstage with
  | idle hnew hidle => exact .inr ⟨by simpa [turns] using hnew, hidle⟩
  | finished hpast => exact .inl hpast

/-- The results and the world are those of an order that goes on from the one in which the guard was
taken. -/
theorem Serial.settled {p : Pool I W α} (hp : G.Serial ops w₀ past holder p) {results : List α}
    (hresults : Pool.results? p.tasks = some results) :
    ∃ order : List Nat, order.Perm (List.range ops.length) ∧ turns past holder <+: order ∧
      Program.runAll h (order.filterMap (ops[·]?)) w₀ =
        (order.filterMap (results[·]?), p.world) := by
  have htasks := tasks_of_results hresults
  obtain rfl : holder = none := by
    cases holder with
    | none => rfl
    | some i =>
        obtain ⟨_, _, _, -, htask, -⟩ := hp.standing_held
        simp [htasks] at htask
  have hnodup : (past.map Prod.fst).Nodup := by simpa [turns] using hp.nodup
  have hbound : ∀ i ∈ past.map Prod.fst, i < ops.length := fun i hi =>
    hp.bound i (List.mem_append_left _ hi)
  have hpast : ∀ b ∈ past, results[b.1]? = some b.2 := by
    intro b hb
    have hi := hbound b.1 (List.mem_map_of_mem hb)
    obtain ⟨a, ha, hmem | ⟨hnew, -⟩⟩ := hp.result htasks (List.getElem?_eq_getElem hi)
    · have hb' : (b.1, a) = b := List.inj_on_of_nodup_map hnodup hmem hb rfl
      rw [← hb']
      exact ha
    · exact absurd (List.mem_map_of_mem hb) hnew
  -- who never took the guard asked for nothing, so it may as well come last
  let rest := (List.range ops.length).filter fun i => i ∉ past.map Prod.fst
  have hrest : ∀ i ∈ rest, ∃ a, ops[i]? = some (.done a) ∧ results[i]? = some a := by
    intro i hi
    obtain ⟨hrange, hnew⟩ := List.mem_filter.mp hi
    have hop := List.getElem?_eq_getElem (List.mem_range.mp hrange)
    obtain ⟨a, ha, hmem | ⟨-, hidle⟩⟩ := hp.result htasks hop
    · exact absurd (List.mem_map_of_mem hmem) (of_decide_eq_true hnew)
    · exact ⟨a, hidle ▸ hop, ha⟩
  refine ⟨past.map Prod.fst ++ rest, ?_, ?_, ?_⟩
  · refine (List.perm_ext_iff_of_nodup ?_ List.nodup_range).mpr fun i => ?_
    · refine List.nodup_append.mpr ⟨hnodup, List.nodup_range.filter _, fun i hi j hj => ?_⟩
      rintro rfl
      exact of_decide_eq_true (List.mem_filter.mp hj).2 hi
    · by_cases hi : i ∈ past.map Prod.fst
      · simp [hi, hbound i hi]
      · simp [rest, hi]
  · exact ⟨rest, by simp [turns]⟩
  · rw [List.filterMap_append, List.filterMap_append, Program.runAll_append, hp.standing_free.1,
      runAll_idle hrest, filterMap_results hpast]

/-- Programs that take turns by a guard are serializable: however their moves are interleaved, if
all of them finish then their results and the world are those of running them one after another,
first in the order in which they took the guard. -/
theorem serializable (G : Guard h) {ops : List (Program I α)} (hops : ∀ op ∈ ops, G.Outside op)
    {w : W} (hfree : G.isHeld w = false) (schedule : List Nat) {results : List α}
    (hresults : Pool.results? ((Pool.start ops w).run h schedule).tasks = some results) :
    ∃ order : List Nat, order.Perm (List.range ops.length) ∧
      G.takers schedule (.start ops w) <+: order ∧
      Program.runAll h (order.filterMap (ops[·]?)) w =
        (order.filterMap (results[·]?), ((Pool.start ops w).run h schedule).world) := by
  obtain ⟨past, holder, hlast, hturns⟩ := (serial_start ops hfree).run hops schedule
  obtain ⟨order, hperm, hprefix, hruns⟩ := hlast.settled hresults
  rw [hturns] at hprefix
  exact ⟨order, hperm, hprefix, hruns⟩

/-- From one state in which the guard is free to another, the world is led by the programs that take
the guard in between, run one after another. -/
theorem world_of_free (G : Guard h) {ops : List (Program I α)} (hops : ∀ op ∈ ops, G.Outside op)
    {w : W} (hfree : G.isHeld w = false) (earlier later : List Nat) {p : Pool I W α}
    (hp : (Pool.start ops w).run h earlier = p) (hbefore : G.isHeld p.world = false)
    (hafter : G.isHeld (p.run h later).world = false) :
    (p.run h later).world =
      (Program.runAll h ((G.takers later p).filterMap (ops[·]?)) p.world).2 := by
  subst hp
  obtain ⟨past, holder, hmiddle, -⟩ := (serial_start ops hfree).run hops earlier
  obtain rfl := hmiddle.holder_eq_none hbefore
  obtain ⟨past', holder', hlast, hturns⟩ := hmiddle.run hops later
  obtain rfl := hlast.holder_eq_none hafter
  -- the later past goes on from the earlier one, whose programs led to the earlier world
  have hruns := congrArg Prod.snd hlast.standing_free.1
  rw [turns, turns, Option.toList_none, List.append_nil, List.append_nil] at hturns
  rw [hturns, List.filterMap_append, Program.runAll_append, hmiddle.standing_free.1] at hruns
  exact hruns.symm

end Guard

end SessionKeeper
