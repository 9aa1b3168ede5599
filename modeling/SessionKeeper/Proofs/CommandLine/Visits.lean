import SessionKeeper.Proofs.CommandLine.Commands

/-!
# Visits

One run of the program after another on the same machine. Each run is a new process that knows
nothing but what is stored; as long as the storage file works, the runs are those of the account
behind it.
-/

namespace SessionKeeper.CommandLine

/-- A run of the program: where it takes place, its arguments, what is typed, and what stands
between it and the server. -/
structure Visit where
  environment : Environment
  arguments : List String
  input : ByteArray
  terminal : Option (List Char)
  network : Http.Network
  deriving DecidableEq

namespace Visit

/-- The console that is there when the run begins. -/
def console (v : Visit) : Console :=
  .start v.input v.terminal

/-- The command that the arguments ask for. -/
def command? (v : Visit) : Option Command :=
  match Request.ofArguments v.arguments with
  | .ok (.invoke i) => some i.command
  | _ => none

end Visit

namespace Machine

/-- How the run begins. -/
def receive (m : Machine) (v : Visit) : Launch :=
  { m with network := v.network }.launch v.environment v.arguments v.console

/-- What the run comes to. -/
def visit (m : Machine) (v : Visit) : Completion :=
  { m with network := v.network }.run v.environment v.arguments v.console

/-- What runs come to that find what the one before left behind. -/
def visits (m : Machine) : List Visit → List Completion
  | [] => []
  | v :: visits => m.visit v :: (m.visit v).machine.visits visits

end Machine

/-- A process gets under way over the storage file, and none of its accesses to the file fails. -/
def Launch.isSmooth (path : Path) : Launch → Bool
  | .finished _ _ => false
  | .running action p =>
    p.world.store.medium = .file path &&
      (Program.turns processHandler (ExceptT.run action) p).all fun turn => !isFailedAccess turn

/-- Every run that is given a command carries it out over the storage file at the path, and no
access to the file fails. -/
def Machine.isSmooth (path : Path) (m : Machine) : List Visit → Bool
  | [] => true
  | v :: visits =>
    (v.command? = none || (m.receive v).isSmooth path) &&
      (m.visit v).machine.isSmooth path visits

/-- What runs come to is what an account makes of them. A run without a command leaves the account
as it is. Any other one sends one request at most, and the next run is about what the command and
the answer make of the account; what there is to print about the account is printed without a
failure, and is all that becomes of the console. -/
inductive Account.Explains : Account → List Visit → List Completion → Prop
  | done (a : Account) : Explains a [] []
  | idle {a : Account} {v : Visit} {visits : List Visit} {c : Completion}
      {completions : List Completion} (hcommand : v.command? = none)
      (hrest : a.Explains visits completions) : Explains a (v :: visits) (c :: completions)
  | next {a : Account} {v : Visit} {visits : List Visit} {c : Completion}
      {completions : List Completion} {command : Command} {answer? : Option Http.Answer}
      (hcommand : v.command? = some command)
      (hanswer : c.exchanges.map Exchange.answer = answer?.toList)
      (hprints : ∀ text, a.prints command = some text →
        c.exitCode = 0 ∧ c.console = v.console.print text)
      (hrest : (a.after v.console answer? command).Explains visits completions) :
      Explains a (v :: visits) (c :: completions)

/-! ## One run -/

/-- A process that gets under way carries out the command of its arguments, with nothing in memory
and nothing printed. -/
theorem Machine.launch_running {m : Machine} {e : Environment} {arguments : List String}
    {console : Console} {action : Action Unit} {p : Process}
    (h : m.launch e arguments console = .running action p) :
    ∃ i c medium opening, Request.ofArguments arguments = .ok (.invoke i) ∧
      action = i.command.action c ∧ p = m.boot medium opening console := by
  unfold launch at h
  split at h
  next => cases h
  next => cases h
  next => cases h
  next i hrequest =>
    unfold prepare at h
    split at h
    next => cases h
    next =>
      split at h
      next => cases h
      next c _ =>
        obtain ⟨haction, hprocess⟩ := Launch.running.inj h
        exact ⟨i, c, _, _, hrequest, haction.symm, hprocess.symm⟩

/-- A run comes to what its process has in the end. -/
theorem Machine.visit_of_running {m : Machine} {v : Visit} {action : Action Unit} {p : Process}
    (h : m.receive v = .running action p) :
    m.visit v = (action.run p).2.complete (action.run p).1 :=
  run_of_running h

/-- The account is stored in the storage file of a machine. -/
def Machine.Keeps (path : Path) (m : Machine) (a : Account) : Prop :=
  ∃ entries : Entries, (FileStore.mk path m.tree).contents = .ok entries ∧ a.Holds entries.get?

namespace Machine.Keeps

variable {path : Path} {m : Machine} {a : Account} {v : Visit}

/-- Where there is no storage file, nobody is signed in. -/
theorem of_absent (habsent : m.tree.readText path = .error .notFound) :
    m.Keeps path .new := by
  refine ⟨.empty, ?_, Account.holds_new⟩
  rw [FileStore.contents, habsent]
  rfl

/-- Without a command nothing becomes of the machine. -/
theorem visit_of_no_command (h : m.Keeps path a) (hcommand : v.command? = none) :
    (m.visit v).machine.Keeps path a := by
  rw [visit, run]
  split
  next => exact h
  next action p hlaunch =>
    obtain ⟨i, c, medium, opening, hrequest, -, -⟩ := launch_running hlaunch
    rw [Visit.command?, hrequest] at hcommand
    cases hcommand

/-- What a new process has before it: what is stored, and an untouched console. -/
theorem ledgerOf (h : m.Keeps path a) {p : Process} {medium : Medium} {opening : Event}
    {console : Console} (hp : p = m.boot medium opening console)
    (hmedium : p.world.store.medium = .file path) :
    ∃ u : Ledger, Ledger.Of path p u ∧ a.Begins u ∧ u.console = console := by
  obtain ⟨entries, hcontents, hholds⟩ := h
  subst hp
  exact ⟨⟨entries.get?, none, [], console⟩, ⟨hmedium, ⟨entries, hcontents, rfl⟩, rfl, rfl, rfl⟩,
    ⟨hholds, rfl, rfl⟩, rfl⟩

/-- A run that is not disturbed is one of the account. -/
theorem visit_of_isSmooth (h : m.Keeps path a) {command : Command}
    (hcommand : v.command? = some command) (hsmooth : (m.receive v).isSmooth path = true) :
    ∃ answer?, (m.visit v).exchanges.map Exchange.answer = answer?.toList ∧
      (∀ text, a.prints command = some text →
        (m.visit v).exitCode = 0 ∧ (m.visit v).console = v.console.print text) ∧
      (m.visit v).machine.Keeps path (a.after v.console answer? command) := by
  cases hreceive : m.receive v with
  | finished code console =>
      rw [hreceive] at hsmooth
      cases hsmooth
  | running action p =>
      rw [hreceive, Launch.isSmooth, Bool.and_eq_true, decide_eq_true_eq] at hsmooth
      obtain ⟨hmedium, hturns⟩ := hsmooth
      obtain ⟨i, c, medium, opening, hrequest, rfl, hp⟩ := launch_running hreceive
      obtain rfl : i.command = command := by
        rw [Visit.command?, hrequest] at hcommand
        exact Option.some.inj hcommand
      have hkept : Keeps path { m with network := v.network } a := h
      obtain ⟨u, hof, hbegins, hconsole⟩ := hkept.ledgerOf hp hmedium
      obtain ⟨w, hleads, hw⟩ := Action.leads_run hof fun turn hturn => by
        simpa using List.all_eq_true.mp hturns turn hturn
      obtain ⟨hprints, answer?, hanswer, hholds⟩ := Account.follows_of_leads hbegins hleads
      rw [hconsole] at hprints hholds
      rw [visit_of_running hreceive]
      refine ⟨answer?, ?_, ?_, ?_⟩
      · exact (congrArg _ hw.exchanges).trans hanswer
      · intro text htext
        obtain ⟨hresult, hprinted⟩ := hprints text htext
        refine ⟨?_, ?_⟩
        · rw [Process.complete, hresult]
          rfl
        · rw [Process.complete, hresult, hw.console, hprinted]
          exact Console.complain_nothing ..
      · obtain ⟨entries, hcontents, hentries⟩ := hw.filed
        exact ⟨entries, hcontents, hentries ▸ hholds⟩

end Machine.Keeps

/-! ## Runs one after another -/

theorem Machine.Keeps.explains {path : Path} {m : Machine} {a : Account} (h : m.Keeps path a)
    {visits : List Visit} (hsmooth : m.isSmooth path visits = true) :
    a.Explains visits (m.visits visits) := by
  induction visits generalizing m a with
  | nil => exact .done a
  | cons v visits ih =>
      rw [isSmooth, Bool.and_eq_true, Bool.or_eq_true, decide_eq_true_eq] at hsmooth
      obtain ⟨hfirst, hrest⟩ := hsmooth
      cases hcommand : v.command? with
      | none => exact .idle hcommand (ih (h.visit_of_no_command hcommand) hrest)
      | some command =>
          have hreceived : (m.receive v).isSmooth path = true := by
            rcases hfirst with hnone | hreceived
            · rw [hcommand] at hnone
              cases hnone
            · exact hreceived
          obtain ⟨answer?, hanswer, hprints, hkept⟩ := h.visit_of_isSmooth hcommand hreceived
          exact .next hcommand hanswer hprints (ih hkept hrest)

/-- From an absent storage file on, the runs of the program are those of an account with nobody
signed in at first and the mode that is preferred initially. -/
theorem Machine.explains_visits (path : Path) (m : Machine) (visits : List Visit)
    (habsent : m.tree.readText path = .error .notFound)
    (hsmooth : m.isSmooth path visits = true) :
    Account.new.Explains visits (m.visits visits) :=
  (Keeps.of_absent habsent).explains hsmooth

/-- Runs in which a user signs in, and asks who is signed in. -/
def Visit.signInAndAsk : List Visit :=
  [{  environment := ⟨.empty, ⟨"/home/eve"⟩⟩
      arguments := ["login", "--email", "eve@x.io"]
      input := .empty
      terminal := some "secret\n".toList
      network := .peer [.answer 200 "\x7b\"token\":\"t\"\x7d".toUTF8 true] },
    { environment := ⟨.empty, ⟨"/home/eve"⟩⟩
      arguments := ["status"]
      input := .empty
      terminal := none
      network := .unreachable }]

/-- The second run prints who has signed in by the first one. -/
theorem Machine.output_signInAndAsk :
    (Machine.visits ⟨.empty, .empty, .unreachable⟩ Visit.signInAndAsk).map
        (fun c => (c.exitCode, c.console.output)) =
      [(0, "\nAuthenticating...\nSigned in as eve@x.io\n"),
        (0, "Signed in as eve@x.io\n  email: eve@x.io\n  id:    1\n  stored session: yes\n")] := by
  decide +kernel

/-- The runs of a user on a machine on which there is nothing yet. -/
theorem Machine.explains_visits_signInAndAsk :
    FileTree.empty.readText ⟨"/home/eve/.local/share/alleasy/storage.json"⟩ = .error .notFound ∧
      Machine.isSmooth ⟨"/home/eve/.local/share/alleasy/storage.json"⟩
        ⟨.empty, .empty, .unreachable⟩ Visit.signInAndAsk = true ∧
      Account.new.Explains Visit.signInAndAsk
        (Machine.visits ⟨.empty, .empty, .unreachable⟩ Visit.signInAndAsk) ∧
      (Machine.visits ⟨.empty, .empty, .unreachable⟩ Visit.signInAndAsk).map
          (fun c => (c.exitCode, c.console.output)) =
        [(0, "\nAuthenticating...\nSigned in as eve@x.io\n"),
          (0, "Signed in as eve@x.io\n  email: eve@x.io\n  id:    1\n  stored session: yes\n")] := by
  have habsent : FileTree.empty.readText ⟨"/home/eve/.local/share/alleasy/storage.json"⟩ =
      .error .notFound := by
    decide +kernel
  have hsmooth : Machine.isSmooth ⟨"/home/eve/.local/share/alleasy/storage.json"⟩
      ⟨.empty, .empty, .unreachable⟩ Visit.signInAndAsk = true := by
    decide +kernel
  exact ⟨habsent, hsmooth, explains_visits _ _ _ habsent hsmooth, output_signInAndAsk⟩

end SessionKeeper.CommandLine
