import SessionKeeper.Proofs.Api.Requests
import SessionKeeper.Proofs.Preference.Accesses
import SessionKeeper.Proofs.Preference.Mode
import SessionKeeper.Proofs.Program.Apart
import SessionKeeper.Proofs.Store.Separate

/-!
# Toggles at the same time

Toggles take no turns: each reads the mode and writes the other one, and others may come in between.
The mode that is stored in the end is the first one flipped as often as the writes build on each
other. A toggle that is overtaken between its read and its write takes back what was written there.
-/

namespace SessionKeeper

namespace Preference

/-! ## One toggle -/

variable {σ : Type}

/-- How far a toggle has come, by its own read and write among those of the past. -/
inductive Stage (first : ColorMode) (past : List Access) (i : Nat) :
    Task clientSteps (World σ) (Except StoreError ColorMode) → Prop
  | waiting {start : World σ → Operation (Except StoreError ColorMode)}
      (hstart : ∀ w, start w = toggle) (hread : .read i ∉ past) (hwrite : .write i ∉ past) :
      Stage first past i (.waiting start)
  | begun (hread : .read i ∉ past) (hwrite : .write i ∉ past) : Stage first past i (.running toggle)
  | chosen {op : Operation ColorMode} (hread : .read i ∈ past) (hwrite : .write i ∉ past)
      (hop : Gives (ColorMode.toggled^[(flips past).found i] first) op) :
      Stage first past i (.running (op.bind fun mode => storing mode.toggled))
  | written {result : Except StoreError ColorMode} {op : Operation (Except StoreError ColorMode)}
      (hwrite : .write i ∈ past) (hop : Gives result op) : Stage first past i (.running op)
  | finished (hwrite : .write i ∈ past) (result : Except StoreError ColorMode) :
      Stage first past i (.finished result)

/-- What others do to the store leaves a toggle where it is. -/
theorem Stage.append {first : ColorMode} {past : List Access} {i : Nat} {access : Access}
    {task : Task clientSteps (World σ) (Except StoreError ColorMode)}
    (h : Stage first past i task) (hne : access.toggle ≠ i) :
    Stage first (past ++ [access]) i task := by
  have hread : .read i ∈ past ++ [access] ↔ .read i ∈ past := by
    cases access <;> simp_all [Access.toggle, eq_comm]
  have hwrite : .write i ∈ past ++ [access] ↔ .write i ∈ past := by
    cases access <;> simp_all [Access.toggle, eq_comm]
  cases h with
  | waiting hstart hr hw => exact .waiting hstart (mt hread.mp hr) (mt hwrite.mp hw)
  | begun hr hw => exact .begun (mt hread.mp hr) (mt hwrite.mp hw)
  | chosen hr hw hop =>
      refine .chosen (hread.mpr hr) (mt hwrite.mp hw) ?_
      rwa [found_append_of_ne hne]
  | written hw hop => exact .written (hwrite.mpr hw) hop
  | finished hw => exact .finished (hwrite.mpr hw) _

/-! ## Reads and writes -/

/-- The read or write that a turn of a toggle is. -/
def Access.of? : Nat × Turn clientSteps → Option Access
  | (i, ⟨.get _, _⟩) => some (.read i)
  | (i, ⟨.set _ _, _⟩) => some (.write i)
  | _ => none

/-- The toggles of a pool, and the world they share. -/
abbrev Toggles (σ : Type) := Pool clientSteps (World σ) (Except StoreError ColorMode)

variable [Store σ]

/-- The read or write that a move makes, if it makes one. -/
def accessOf (i : Nat) (p : Toggles σ) : Option Access :=
  (p.turn? (clientHandler σ) i).bind fun turn => Access.of? (i, turn)

/-- The reads and writes that the moves of a schedule make. -/
def accesses (schedule : List Nat) (p : Toggles σ) : List Access :=
  (p.trace (clientHandler σ) schedule).filterMap Access.of?

theorem accesses_cons (i : Nat) (schedule : List Nat) (p : Toggles σ) :
    accesses (i :: schedule) p =
      (accessOf i p).toList ++ accesses schedule (p.move (clientHandler σ) i) := by
  rw [accesses, Pool.trace, List.filterMap_append, accessOf]
  cases p.turn? (clientHandler σ) i with
  | none => rfl
  | some turn =>
      simp only [Option.toList_some, List.map_cons, List.map_nil, Option.bind_some]
      cases h : Access.of? (i, turn) <;> simp [h, accesses]

theorem accessOf_of_task {i : Nat} {p : Toggles σ}
    {task : Task clientSteps (World σ) (Except StoreError ColorMode)}
    (htask : p.tasks[i]? = some task) :
    accessOf i p =
      (task.turn? (clientHandler σ) p.world).bind fun turn => Access.of? (i, turn) := by
  rw [accessOf, Pool.turn?, htask, Option.bind_some]

/-! ## The invariant -/

/-- A pool of toggles after some reads and writes: the stored mode is the first one flipped as often
as they build on each other. -/
structure Standing [FaithfulStore σ] (first : ColorMode) (past : List Access) (p : Toggles σ) :
    Prop where
  regular : Regular past
  bound : ∀ i ∈ writers past, i < p.tasks.length
  stage : ∀ i task, p.tasks[i]? = some task → Stage first past i task
  mode : stored p.world.store = ColorMode.toggled^[(flips past).stored] first
  sound : FaithfulStore.Sound p.world.store

namespace Standing

variable [FaithfulStore σ] {first : ColorMode} {past : List Access} {p : Toggles σ} {i : Nat}
  {task : Task clientSteps (World σ) (Except StoreError ColorMode)}

/-- What a move of one toggle has to show. The others stay where they are. -/
theorem put (hp : Standing first past p) (access : Option Access)
    (haccess : ∀ a ∈ access, a.toggle = i) (hi : i < p.tasks.length) {v : World σ}
    (hregular : Regular (past ++ access.toList))
    (hstage : Stage first (past ++ access.toList) i task)
    (hmode : stored v.store =
      ColorMode.toggled^[(flips (past ++ access.toList)).stored] first)
    (hsound : FaithfulStore.Sound v.store) :
    Standing first (past ++ access.toList) ⟨p.tasks.set i task, v⟩ where
  regular := hregular
  bound := by
    intro j hj
    rw [List.length_set]
    rw [mem_writers, List.mem_append, Option.mem_toList] at hj
    rcases hj with hj | hj
    · exact hp.bound j (mem_writers.mpr hj)
    · rwa [← haccess _ hj] at hi
  stage := by
    intro j t ht
    rcases Pool.task_of_set ht with ⟨rfl, rfl⟩ | ⟨hij, ht⟩
    · exact hstage
    · cases access with
      | none => simpa using hp.stage j t ht
      | some a => exact (hp.stage j t ht).append fun ha => hij ((haccess a rfl).symm.trans ha)
  mode := hmode
  sound := hsound

/-- A toggle makes a move that leaves the store alone. -/
theorem idle (hp : Standing first past p) (htask : p.tasks[i]? = some task)
    (haccess : accessOf i p = none)
    {task' : Task clientSteps (World σ) (Except StoreError ColorMode)} {v : World σ}
    (hmove : task.move (clientHandler σ) p.world = some (task', v))
    (hstage : Stage first past i task') (hstore : v.store = p.world.store) :
    Standing first (past ++ (accessOf i p).toList) (p.move (clientHandler σ) i) := by
  rw [haccess, Guard.move_of_task htask hmove]
  refine hp.put none nofun (Guard.lt_of_task htask) ?_ ?_ ?_ (hstore ▸ hp.sound)
  · simpa using hp.regular
  · simpa using hstage
  · simpa [hstore] using hp.mode

/-- A toggle reads the mode. -/
theorem read (hp : Standing first past p) (hi : i < p.tasks.length) (hread : .read i ∉ past)
    (hwrite : .write i ∉ past) {op : Operation ColorMode}
    (hop : Gives (stored p.world.store) op) :
    Standing first (past ++ [.read i])
      ⟨p.tasks.set i (.running (op.bind fun mode => storing mode.toggled)), p.world⟩ := by
  refine hp.put (some (.read i)) (by simp [Access.toggle]) hi
    (hp.regular.read hread hwrite) ?_ ?_ hp.sound
  · refine .chosen (by simp) (by simpa using hwrite) ?_
    rw [Option.toList_some, flips_append_read]
    simpa [← hp.mode] using hop
  · rw [Option.toList_some, flips_append_read]
    exact hp.mode

/-- A toggle writes the mode. -/
theorem write (hp : Standing first past p) (hi : i < p.tasks.length) (hread : .read i ∈ past)
    (hwrite : .write i ∉ past) {next : ColorMode}
    (hnext : next = (ColorMode.toggled^[(flips past).found i] first).toggled)
    (hok : (Store.set ColorMode.key next.render p.world.store).result = .ok ())
    {result : Except StoreError ColorMode} {op : Operation (Except StoreError ColorMode)}
    (hop : Gives result op) :
    Standing first (past ++ [.write i]) ⟨p.tasks.set i (.running op),
      (p.world.change (Store.set ColorMode.key next.render p.world.store)).2⟩ := by
  refine hp.put (some (.write i)) (by simp [Access.toggle]) hi
    (hp.regular.write hread hwrite) (.written (by simp) hop) ?_
    (FaithfulStore.sound_set hp.sound hok)
  rw [Option.toList_some, flips_append_write, Function.iterate_succ_apply', ← hnext, stored]
  change modeOf (Store.get _ (Store.set _ _ _).store) = next
  rw [FaithfulStore.get_set hp.sound hok, modeOf, ColorMode.parse_render]
  rfl

/-- Every move of a pool of toggles leaves it standing, with the read or write that it made. -/
theorem move (hp : Standing first past p) (i : Nat)
    (hok : ∀ turn, p.turn? (clientHandler σ) i = some turn → turn.isFailedCall = false) :
    Standing first (past ++ (accessOf i p).toList) (p.move (clientHandler σ) i) := by
  cases htask : p.tasks[i]? with
  | none =>
      have hnone : accessOf i p = none := by simp [accessOf, Pool.turn?, htask]
      rw [hnone, Option.toList_none, List.append_nil, Pool.move, htask]
      exact hp
  | some task =>
      have hi : i < p.tasks.length := Guard.lt_of_task htask
      have haccess := accessOf_of_task htask
      rw [Pool.turn?, htask, Option.bind_some] at hok
      cases hp.stage i task htask with
      | waiting hstart hread hwrite =>
          refine hp.idle htask haccess rfl ?_ rfl
          rw [hstart]
          exact .begun hread hwrite
      | begun hread hwrite =>
          obtain ⟨resume, hload, hresume⟩ := exists_load_eq
          rw [toggle_eq, hload, Program.bind_ask] at htask haccess
          rw [haccess, Guard.move_of_task htask rfl]
          exact hp.read hi hread hwrite (hresume _)
      | chosen hread hwrite hop =>
          cases hop with
          | now =>
              -- the mode is written from what was read, not from what is stored by now
              obtain ⟨next, hnext⟩ :
                ∃ next, next = (ColorMode.toggled^[(flips past).found i] first).toggled := ⟨_, rfl⟩
              obtain ⟨resume, hstoring, hresume⟩ := exists_storing_eq next
              rw [Program.bind_done, ← hnext, hstoring] at htask haccess hok
              have hset : (Store.set ColorMode.key next.render p.world.store).result = .ok () :=
                Turn.set_eq_ok (hok _ rfl)
              rw [haccess, Guard.move_of_task htask rfl]
              rw [← hset] at hresume
              exact hp.write hi hread hwrite hnext hset hresume
          | later event => exact hp.idle htask haccess rfl (.chosen hread hwrite .now) rfl
      | written hwrite hop =>
          cases hop with
          | now => exact hp.idle htask haccess rfl (.finished hwrite _) rfl
          | later event => exact hp.idle htask haccess rfl (.written hwrite .now) rfl
      | finished hwrite result =>
          rw [haccess, Guard.move_of_stuck htask rfl]
          simpa [Task.turn?] using hp

/-- A whole schedule leaves the pool standing, with the reads and writes that it made. -/
theorem run (hp : Standing first past p) {schedule : List Nat}
    (hall : p.All (clientHandler σ) (fun turn => turn.isFailedCall = false) schedule) :
    Standing first (past ++ accesses schedule p) (p.run (clientHandler σ) schedule) := by
  induction schedule generalizing past p with
  | nil =>
      rw [show accesses [] p = [] from rfl, List.append_nil]
      exact hp
  | cons i schedule ih =>
      obtain ⟨hok, hrest⟩ := Pool.all_cons hall
      rw [accesses_cons, ← List.append_assoc]
      exact ih (hp.move i hok) hrest

end Standing

/-- Toggles that are about to begin. -/
theorem standing_start [FaithfulStore σ] (n : Nat) {w : World σ}
    (hsound : FaithfulStore.Sound w.store) :
    Standing (stored w.store) [] (.start (List.replicate n toggle) w) where
  regular := .nil
  bound i hi := absurd hi List.not_mem_nil
  stage := by
    intro i task htask
    rw [Pool.start, List.getElem?_map, Option.map_eq_some_iff] at htask
    obtain ⟨op, hop, rfl⟩ := htask
    exact .waiting (fun _ => List.eq_of_mem_replicate (List.mem_of_getElem? hop))
      List.not_mem_nil List.not_mem_nil
  mode := rfl
  sound := hsound

/-- Once all toggles have finished, each has written. -/
theorem Standing.length_writers [FaithfulStore σ] {first : ColorMode} {past : List Access}
    {p : Toggles σ} (hp : Standing first past p) {results : List (Except StoreError ColorMode)}
    (hresults : Pool.results? p.tasks = some results) :
    (writers past).length = p.tasks.length := by
  have htasks := Guard.tasks_of_results hresults
  have hperm : (writers past).Perm (List.range p.tasks.length) := by
    refine (List.perm_ext_iff_of_nodup hp.regular.nodup_writers List.nodup_range).mpr fun i => ?_
    rw [List.mem_range]
    refine ⟨hp.bound i, fun hi => mem_writers.mpr ?_⟩
    have hstage := hp.stage i _ (List.getElem?_eq_getElem hi)
    simp only [htasks, List.getElem_map] at hstage
    cases hstage with
    | finished hwrite => exact hwrite
  rw [hperm.length_eq, List.length_range]

/-- How many flips are kept when the moves of a schedule are made: those that the mode builds on
which is stored in the end. -/
def kept (schedule : List Nat) (p : Toggles σ) : Nat :=
  (flips (accesses schedule p)).stored

/-- Toggles run at the same time, over a store that does not fail, and in any order of their reads
and writes. When all have finished, the mode is the first one flipped as often as flips were kept,
and all of them were kept exactly if no toggle was overtaken between its read and its write. So the
mode is the one that as many toggles one after another would have left exactly if an even number of
flips was lost. -/
theorem flipped_of_toggles [FaithfulStore σ] {n : Nat} {w : World σ}
    (hsound : FaithfulStore.Sound w.store) {schedule : List Nat} {p : Toggles σ}
    (hp : p = .start (List.replicate n toggle) w)
    (hall : p.All (clientHandler σ) (fun turn => turn.isFailedCall = false) schedule)
    {results : List (Except StoreError ColorMode)}
    (hresults : Pool.results? (p.run (clientHandler σ) schedule).tasks = some results) :
    (load.run (p.run (clientHandler σ) schedule).world).1 =
        ColorMode.toggled^[kept schedule p] (load.run w).1 ∧
      kept schedule p ≤ n ∧
      (kept schedule p = n ↔ ¬Overtaken (accesses schedule p)) ∧
      ((load.run (p.run (clientHandler σ) schedule).world).1 =
          ColorMode.toggled^[n] (load.run w).1 ↔ kept schedule p % 2 = n % 2) := by
  subst hp
  have hlast := (standing_start n hsound).run hall
  rw [List.nil_append] at hlast
  have hlength := hlast.length_writers hresults
  have hn : (Pool.start (List.replicate n toggle) w).tasks.length = n := by simp [Pool.start]
  rw [Pool.length_run, hn] at hlength
  have hcount := hlast.regular.counted
  have hle := hcount.stored_le
  have heq := hcount.stored_eq_iff
  rw [hlength] at hle heq
  simp only [load_run, hlast.mode]
  exact ⟨rfl, hle, heq, ColorMode.iterate_toggled_eq_iff ..⟩

namespace Sample

/-- Toggles of a client that was just started. -/
def toggles (n : Nat) (store : σ) : Toggles σ :=
  .start (List.replicate n toggle) (.start store .unreachable)

/-- The first two toggles both read before they write. The third one comes after them. -/
def overlap : List Nat :=
  [0, 0, 1, 1] ++ List.replicate 4 0 ++ List.replicate 4 1 ++ List.replicate 6 2

/-- A store whose file is still to be made. -/
def unfiled : FileStore :=
  ⟨⟨"storage.json"⟩, .empty⟩

end Sample

/-- Of three flips one is lost. -/
theorem flipped_of_toggles_of_overlap :
    kept Sample.overlap (Sample.toggles 3 MemoryStore.new) = 2 ∧
      Overtaken (accesses Sample.overlap (Sample.toggles 3 MemoryStore.new)) ∧
      (load.run ((Sample.toggles 3 MemoryStore.new).run (clientHandler MemoryStore)
        Sample.overlap).world).1 = .light := by
  have hworks : ∀ t ∈ (Sample.toggles 3 MemoryStore.new).trace (clientHandler MemoryStore)
      Sample.overlap, t.2.isFailedCall = false := by
    decide +kernel
  have hresults : Pool.results? ((Sample.toggles 3 MemoryStore.new).run
      (clientHandler MemoryStore) Sample.overlap).tasks =
        some [.ok .dark, .ok .dark, .ok .light] := by
    decide +kernel
  have hkept : kept Sample.overlap (Sample.toggles 3 MemoryStore.new) = 2 := by decide +kernel
  obtain ⟨hmode, -, hiff, -⟩ :=
    flipped_of_toggles (p := Sample.toggles 3 MemoryStore.new) trivial rfl hworks hresults
  rw [hkept] at hmode hiff
  refine ⟨hkept, ?_, hmode⟩
  exact not_not.mp fun hnever => absurd (hiff.mpr hnever) (by decide)

/-- Two toggles of a file that both read before they write are done, and no call of the store has
failed, but the mode is not the first one flipped twice. -/
theorem toggle_lost_of_overlap :
    (∀ t ∈ (Sample.toggles 2 Sample.unfiled).trace (clientHandler FileStore) Sample.overlap,
        t.2.isFailedCall = false) ∧
      Pool.results? ((Sample.toggles 2 Sample.unfiled).run (clientHandler FileStore)
        Sample.overlap).tasks = some [.ok .dark, .ok .dark] ∧
      (load.run ((Sample.toggles 2 Sample.unfiled).run (clientHandler FileStore)
        Sample.overlap).world).1 ≠
          ColorMode.toggled^[2] (load.run (Sample.toggles 2 Sample.unfiled).world).1 := by
  refine ⟨?_, ?_, ?_⟩ <;> decide +kernel

end Preference

end SessionKeeper
