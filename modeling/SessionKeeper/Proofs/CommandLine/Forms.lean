import Mathlib.Control.Monad.Basic
import SessionKeeper.CommandLine.Run
import SessionKeeper.Proofs.Api.Attempts
import SessionKeeper.Proofs.Session

/-!
# Forms of the command line

What a command that sends credentials makes of its options and of what is typed. The form is filled
in after the stored session was taken into memory, whatever was stored, and checked before anything
else is done: with a problem the run ends there, and without one it comes down to a single request
with what was checked.
-/

namespace SessionKeeper

/-! ## Blanks -/

namespace Text

theorem all_dropWhile_isBlank (cs : List Char) :
    (cs.dropWhile isBlank).all isBlank = cs.all isBlank := by
  conv_rhs => rw [← List.takeWhile_append_dropWhile (p := isBlank) (l := cs), List.all_append,
    List.all_takeWhile, Bool.true_and]

/-- Trimming leaves something of a text with anything but blanks. -/
theorem allBlank_trim (s : String) : allBlank (trim s) = allBlank s := by
  rw [allBlank, trim, String.toList_ofList, trimChars, List.all_reverse, all_dropWhile_isBlank,
    List.all_reverse, all_dropWhile_isBlank, allBlank]

end Text

namespace CommandLine

/-! ## What is filled in -/

/-- A command that sends credentials, with the options that it was given. -/
inductive Entrance
  | login (email? : Option String)
  | register (name? email? : Option String)
  deriving DecidableEq, Repr

/-- The command itself. -/
def Entrance.command : Entrance → Command
  | .login email? => .login email?
  | .register name? email? => .register name? email?

/-- The form of a command, filled in. -/
inductive Form
  | login (form : LoginForm)
  | register (form : RegisterForm)
  deriving DecidableEq, Repr

namespace Form

/-- The problems of the form. -/
def problems : Form → List FormError
  | .login form => form.validate
  | .register form => form.validate

/-- The credentials in the form. -/
def credentials : Form → Credentials
  | .login form => ⟨form.email, form.password⟩
  | .register form => ⟨form.email, form.password⟩

/-- The name in the form, if it asks for one. -/
def name? : Form → Option String
  | .login _ => none
  | .register form => some form.name

/-- Where the credentials are sent. -/
def path : Form → String
  | .login _ => "/login"
  | .register _ => "/register"

end Form

/-- A reading of the console. Nothing more is read after something could not be. -/
abbrev Reading (α : Type) := StateT Console Option α

namespace Reading

/-- What a console gives, if it could be read. -/
def of (read : Console → Except IoError String × Console) : Reading String := fun console =>
  (read console).1.toOption.map (·, (read console).2)

/-- The value that was given, or a line of the input. -/
def field : Option String → Reading String
  | some text => pure text
  | none => of Console.readLine

/-- A password that is typed. -/
def typed : Reading String :=
  of Console.readPassword

end Reading

open Reading in
/-- How the form of a command is filled in. -/
def Entrance.reading : Entrance → Reading Form
  | .login email? => do
    let email ← field email?
    let password ← typed
    return .login ⟨email, password⟩
  | .register name? email? => do
    let name ← field name?
    let email ← field email?
    let password ← typed
    let confirmation ← typed
    return .register ⟨name, email, password, confirmation⟩

/-- The form of a command, unless something that it asks for cannot be read. -/
def Entrance.form? (entrance : Entrance) (console : Console) : Option Form :=
  (entrance.reading console).map Prod.fst

/-! ## Running actions -/

namespace Action

variable {α β : Type}

theorem run_bind (x : Action α) (f : α → Action β) (p : Process) :
    (x >>= f).run p = match x.run p with
      | (.ok a, q) => (f a).run q
      | (.error e, q) => (.error e, q) := by
  rw [run, ExceptT.run_bind, Program.bind_eq_bind, Program.run_bind, ← run]
  cases hx : x.run p with
  | mk result q => cases result <;> rfl

theorem run_step_bind (s : ProcessStep) (f : s.Answer → Action α) (p : Process) :
    (step s >>= f).run p = (f (s.answer p).1).run (s.answer p).2 :=
  run_bind (step s) f p

theorem run_demand {ε : Type} (failure : ε → Failure) (result : Except ε α) (p : Process) :
    (demand failure result).run p = (result.mapError failure, p) := by
  cases result <;> rfl

end Action

/-! ## Asking -/

/-- The same is left to be read on both consoles. -/
structure Alike (c d : Console) : Prop where
  input : c.input = d.input
  terminal : c.terminal = d.terminal

/-- An action asks for what a reading reads: it gives the value that is read or fails if there is
none, and does nothing but print on its way. -/
def Asks {α : Type} (x : Action α) (reading : Reading α) : Prop :=
  ∀ (p : Process) (console : Console), Alike p.console console →
    (∃ a c d, reading console = some (a, d) ∧ x.run p = (.ok a, { p with console := c }) ∧
      Alike c d ∧ c.errors = p.console.errors) ∨
    ∃ e c, reading console = none ∧ x.run p = (.error e, { p with console := c }) ∧
      c.errors = p.console.errors

namespace Asks

open SessionKeeper.CommandLine.Action (ask orAsk askPassword say)

variable {α β : Type}

theorem pure (a : α) : Asks (pure a) (pure a) := fun p console hconsole =>
  .inl ⟨a, p.console, console, rfl, rfl, hconsole, rfl⟩

theorem bind {x : Action α} {f : α → Action β} {reading : Reading α} {rest : α → Reading β}
    (hx : Asks x reading) (hf : ∀ a, Asks (f a) (rest a)) : Asks (x >>= f) (reading >>= rest) := by
  intro p console hconsole
  have hread (r : Option (α × Console)) (hr : reading console = r) :
      (reading >>= rest) console = r.bind fun (a, d) => rest a d := by
    rw [← hr]
    rfl
  rcases hx p console hconsole with ⟨a, c, d, hd, hrun, halike, herrors⟩ | ⟨e, c, hd, hrun, herrors⟩
  · rw [hread _ hd, Action.run_bind, hrun]
    rcases hf a { p with console := c } d halike with
      ⟨b, c', d', hd', hrun', halike', herrors'⟩ | ⟨e, c', hd', hrun', herrors'⟩
    · exact .inl ⟨b, c', d', hd', hrun', halike', herrors'.trans herrors⟩
    · exact .inr ⟨e, c', hd', hrun', herrors'.trans herrors⟩
  · -- whatever else would be asked for is not asked any more
    rw [hread _ hd, Action.run_bind, hrun]
    exact .inr ⟨e, c, rfl, rfl, herrors⟩

/-- Something is asked for with one step. -/
theorem of_read {x : Action String} {read : Console → Except IoError String × Console}
    (hx : ∀ p, ∃ c, Alike p.console c ∧ c.errors = p.console.errors ∧
      x.run p = ((read c).1.mapError Failure.ofIo, { p with console := (read c).2 }))
    (hread : ∀ c d, Alike c d → (read c).1 = (read d).1 ∧ Alike (read c).2 (read d).2 ∧
      (read c).2.errors = c.errors) : Asks x (Reading.of read) := by
  intro p console hconsole
  obtain ⟨c, hc, herrors, hrun⟩ := hx p
  obtain ⟨hresult, halike, hsame⟩ :=
    hread c console ⟨hc.input.symm.trans hconsole.input, hc.terminal.symm.trans hconsole.terminal⟩
  rw [hrun, Reading.of, hresult]
  cases hvalue : (read console).1 with
  | ok value =>
      exact .inl ⟨value, _, _, rfl, by simp only [Except.mapError], halike, hsame.trans herrors⟩
  | error e =>
      exact .inr ⟨Failure.ofIo e, _, rfl, by simp only [Except.mapError], hsame.trans herrors⟩

theorem orAsk (label : String) (given : Option String) :
    Asks (orAsk label given) (Reading.field given) := by
  cases given with
  | some text => exact .pure text
  | none =>
      refine of_read (fun p => ⟨p.console.print label, ⟨rfl, rfl⟩, rfl, ?_⟩) fun c d h => ?_
      · rw [Action.orAsk, ask, say, Action.run_step_bind, Action.run_step_bind]
        exact Action.run_demand ..
      · simp only [Console.readLine, h.input]
        split
        next => exact ⟨rfl, ⟨rfl, h.terminal⟩, rfl⟩
        next => exact ⟨rfl, ⟨rfl, h.terminal⟩, rfl⟩

theorem askPassword (label : String) : Asks (askPassword label) Reading.typed := by
  refine of_read (fun p => ⟨p.console, ⟨rfl, rfl⟩, rfl, ?_⟩) fun c d h => ?_
  · rw [Action.askPassword, Action.run_step_bind]
    exact Action.run_demand ..
  · simp only [Console.readPassword, h.terminal]
    split
    next => exact ⟨rfl, h, rfl⟩
    next => exact ⟨rfl, ⟨h.input, rfl⟩, rfl⟩

end Asks

/-! ## The parts of a command -/

open SessionKeeper.CommandLine.Action

/-- Asks for what is missing in the form. -/
def Entrance.askForm : Entrance → Action Form
  | .login email? => do
    let email ← orAsk "Email: " email?
    let password ← askPassword "Password: "
    return .login ⟨email, password⟩
  | .register name? email? => do
    let name ← orAsk "Name: " name?
    let email ← orAsk "Email: " email?
    let password ← askPassword "Password: "
    let confirmation ← askPassword "Confirm password: "
    return .register ⟨name, email, password, confirmation⟩

theorem Entrance.asks_askForm (entrance : Entrance) : Asks entrance.askForm entrance.reading := by
  cases entrance with
  | login email? =>
      exact .bind (.orAsk _ _) fun email => .bind (.askPassword _) fun password => .pure _
  | register name? email? =>
      exact .bind (.orAsk _ _) fun name => .bind (.orAsk _ _) fun email =>
        .bind (.askPassword _) fun password => .bind (.askPassword _) fun confirmation => .pure _

namespace Form

/-- What is printed while the credentials are on their way. -/
def banner : Form → String
  | .login _ => "\nAuthenticating...\n"
  | .register _ => "\nCreating account...\n"

/-- Sends the credentials, and keeps the session that is granted. -/
def enter (c : ApiClient) : Form → Operation (Except Error Session)
  | .login form => Manager.signIn c ⟨form.email, form.password⟩
  | .register form =>
    Manager.registerUser c ⟨form.email, form.password⟩ (some (Text.trim form.name))

/-- What is printed about a session that was granted. -/
def greeting (session : Session) : Form → String
  | .login _ => s!"Signed in as {session.displayName}\n"
  | .register _ => s!"Welcome, {session.displayName}! (user id {session.id})\n"

/-- What is done with a form that has no problems. -/
def submit (c : ApiClient) (form : Form) : Action Unit := do
  say form.banner
  let session ← demand Failure.ofManager (← perform (form.enter c))
  say (form.greeting session)

end Form

/-- A command that sends credentials takes the stored session into memory, has its form filled in,
checks it and submits it. -/
theorem Entrance.action_eq (c : ApiClient) (entrance : Entrance) :
    entrance.command.action c = (do
      let _ ← restore
      let form ← entrance.askForm
      checkForm form.problems
      form.submit c) := by
  cases entrance with
  | login email? =>
      simp only [command, Command.action, CommandLine.login, askForm, bind_assoc, pure_bind]
      simp only [Form.problems, Form.submit, Form.banner, Form.enter, Form.greeting]
  | register name? email? =>
      simp only [command, Command.action, CommandLine.register, askForm, bind_assoc, pure_bind]
      simp only [Form.problems, Form.submit, Form.banner, Form.enter, Form.greeting]

/-! ## What becomes of a form -/

/-- Taking the stored session into memory succeeds whatever is stored, gives what a bootstrap found
and affects nothing else. -/
theorem run_restore (p : Process) : ∃ session w,
    restore.run p = (.ok session, { p with world := w }) ∧ p.world.Unaffected w ∧
      session = (Manager.bootstrap.run p.world).1.toOption.join ∧
      w.session = (Manager.bootstrap.run p.world).2.session := by
  have hlooked := Manager.unaffected_bootstrap p.world
  rw [restore, Action.run_bind, Action.run_perform]
  generalize Manager.bootstrap.run p.world = answered at hlooked ⊢
  obtain ⟨result, w⟩ := answered
  cases result with
  | ok session => exact ⟨session, w, rfl, hlooked, rfl, rfl⟩
  | error e =>
      -- a session that cannot be taken into memory is reported, and counts as none
      have hreported : (Operation.report .debug "No usable stored session"
          [("error", e.message)]).Within ClientStep.Looks := .perform rfl
      refine ⟨none, _, ?_, hlooked.trans (hreported.unaffected w), rfl, rfl⟩
      dsimp only
      rw [Action.run_bind, Action.run_perform]
      rfl

/-- A command comes to nothing if its form cannot be filled in, and otherwise to checking the form
and submitting it. What was done before has affected nothing but the console. -/
theorem Entrance.run_action (c : ApiClient) (entrance : Entrance) (p : Process) :
    ∃ console w, console.errors = p.console.errors ∧ p.world.Unaffected w ∧
      ((entrance.form? p.console = none ∧
          ∃ e, (entrance.command.action c).run p = (.error e, ⟨console, w⟩)) ∨
        ∃ form, entrance.form? p.console = some form ∧ (entrance.command.action c).run p =
          (checkForm form.problems >>= fun _ => form.submit c).run ⟨console, w⟩) := by
  obtain ⟨session, w, hrestore, hunaffected, -⟩ := run_restore p
  rw [entrance.action_eq, Action.run_bind, hrestore]
  dsimp only
  rw [Action.run_bind, Entrance.form?]
  rcases entrance.asks_askForm { p with world := w } p.console ⟨rfl, rfl⟩ with
    ⟨form, console, rest, hread, hrun, -, herrors⟩ | ⟨e, console, hread, hrun, herrors⟩
  · rw [hread, hrun]
    exact ⟨console, w, herrors, hunaffected, .inr ⟨form, rfl, rfl⟩⟩
  · rw [hread, hrun]
    exact ⟨console, w, herrors, hunaffected, .inl ⟨rfl, e, rfl⟩⟩

namespace Form

/-- What is printed about the problems of the form, each on a line of its own. -/
def listing (form : Form) : String :=
  String.join (form.problems.map fun e => s!"  - {e.message}\n")

/-- The failure of a form with problems. -/
def failure (form : Form) : Failure :=
  .plain s!"Please correct the {form.problems.length} problem(s) above"

variable {c : ApiClient} {form : Form} {p : Process} {w : World Storage}

theorem render_failure (form : Form) : form.failure.render =
    s!"Error: Please correct the {form.problems.length} problem(s) above\n" := by
  change "Error: " ++ ("Please correct the " ++ toString form.problems.length ++
    " problem(s) above") ++ "" ++ "\n" = "Error: Please correct the " ++
      toString form.problems.length ++ " problem(s) above\n"
  have hfront : "Error: Please correct the " = "Error: " ++ "Please correct the " := rfl
  have hback : " problem(s) above\n" = " problem(s) above" ++ "\n" := rfl
  rw [hfront, hback, String.append_empty]
  simp only [String.append_assoc]

theorem run_checkForm_of_problems (h : form.problems ≠ []) (p : Process) :
    (checkForm form.problems).run p =
      (.error form.failure, { p with console := p.console.complain form.listing }) := by
  rw [checkForm.eq_2 _ fun hnone => h hnone, complain, Action.run_step_bind]
  rfl

/-- Submitting a form posts its credentials. -/
theorem posted_enter (c : ApiClient) (form : Form) (w : World Storage) :
    c.Posted form.path form.credentials.toValue.compact w ((form.enter c).run w).2 := by
  cases form with
  | login form => exact Manager.posted_signIn ..
  | register form => exact Manager.posted_registerUser ..

/-- The name in a form without problems is not blank. -/
theorem not_blank_of_name (h : form.problems = []) {name : String}
    (hname : form.name? = some name) : Text.allBlank name = false := by
  cases form with
  | login form => cases hname
  | register form =>
      obtain rfl : form.name = name := Option.some.inj hname
      by_contra hblank
      rw [Bool.not_eq_false] at hblank
      rw [problems, RegisterForm.validate, if_pos hblank] at h
      cases h

/-- A session that was granted is stored under the name of the form, without the blanks around
it. -/
theorem stored_of_enter {path : Path} (hmedium : w.store.medium = .file path) {s : Session}
    (h : ((form.enter c).run w).1 = .ok s) :
    s.name = form.name?.map Text.trim ∧
      Store.get Session.key ((form.enter c).run w).2.store = .ok (some s.render) := by
  cases form with
  | login form =>
      obtain ⟨⟨response, rfl⟩, hstored⟩ :=
        Manager.stored_of_entry (fun _ => rfl) (fun _ => rfl) hmedium h
      exact ⟨rfl, hstored⟩
  | register form =>
      obtain ⟨⟨response, rfl⟩, hstored⟩ :=
        Manager.stored_of_entry (fun _ => rfl) (fun _ => rfl) hmedium h
      exact ⟨rfl, hstored⟩

/-- Submitting a form does what entering does, and succeeds if a session was granted only. -/
theorem run_submit (c : ApiClient) (form : Form) (p : Process) :
    ((form.submit c).run p).2.world = ((form.enter c).run p.world).2 ∧
      (((form.submit c).run p).1 = .ok () → ∃ s, ((form.enter c).run p.world).1 = .ok s) := by
  rw [submit, say, Action.run_step_bind, Action.run_bind, Action.run_perform]
  dsimp only [ProcessStep.answer]
  rw [Action.run_bind, Action.run_demand]
  cases hentered : ((form.enter c).run p.world).1 with
  | ok session => exact ⟨rfl, fun _ => ⟨session, rfl⟩⟩
  | error e => exact ⟨rfl, nofun⟩

end Form

/-! ## Runs -/

theorem exitCode_eq_zero {result : Except Failure Unit} :
    exitCode result = 0 ↔ result = .ok () := by
  cases result with
  | ok _ => exact ⟨fun _ => rfl, fun _ => rfl⟩
  | error f => exact ⟨nofun, nofun⟩

/-- The URLs of the requests that a run attempted. -/
def Machine.attempts (m : Machine) (e : Environment) (arguments : List String)
    (console : Console) : List String :=
  match m.launch e arguments console with
  | .finished _ _ => []
  | .running action p => (action.run p).2.world.attempts

/-- The settings of an invocation make a client and select the storage file at a path. -/
def Machine.Selects (m : Machine) (e : Environment) (i : Invocation) (c : ApiClient)
    (path : Path) : Prop :=
  ∃ settings, findSettings m.tree e i.backend = .ok settings ∧ ApiClient.new settings = .ok c ∧
    settings.medium e = .file path

/-- A form was refused: its problems were printed in order, and their number, nothing was attempted
or sent, and the machine is as it was. -/
structure Refused (m : Machine) (console : Console) (form : Form) (attempts : List String)
    (done : Completion) : Prop where
  exitCode : done.exitCode = 1
  errors : done.console.errors = console.errors ++ form.listing ++
    s!"Error: Please correct the {form.problems.length} problem(s) above\n"
  attempts : attempts = []
  exchanges : done.exchanges = []
  machine : done.machine = m

/-- A form was submitted: one request was attempted, to where credentials of this kind are sent. The
credentials of the form were posted there, unless there is nowhere to send a request for this URL.
If the run succeeded then a session is stored under the name of the form without the blanks around
it, which leaves something of it. -/
structure Submitted (c : ApiClient) (path : Path) (form : Form) (attempts : List String)
    (done : Completion) : Prop where
  attempts : attempts = [c.urlText form.path]
  exchanges :
    (∃ target token answer, Url.parse (c.urlText form.path) = .ok target ∧
      done.exchanges =
        [⟨c.request .post target token (some form.credentials.toValue.compact), answer⟩]) ∨
    done.exchanges = [] ∧ ∀ target token, Url.parse (c.urlText form.path) = .ok target →
      (c.request .post target token
        (some form.credentials.toValue.compact)).url.isSendable = false
  stored : done.exitCode = 0 → ∃ text s,
    Store.get Session.key (FileStore.mk path done.machine.tree) = .ok (some text) ∧
      Session.parse text = .ok s ∧ s.name = form.name?.map Text.trim ∧
      ∀ name, s.name = some name → Text.allBlank name = false

/-- A new process has attempted and sent nothing. -/
theorem Machine.traffic_boot (m : Machine) (medium : Medium) (settings : Settings)
    (console : Console) : (m.boot medium settings.opening console).world.attempts = [] ∧
      (m.boot medium settings.opening console).world.exchanges = [] :=
  ⟨rfl, rfl⟩

namespace Entrance

variable {m : Machine} {medium : Medium} {settings : Settings} {console : Console}

theorem unsent_of_unasked (c : ApiClient) {entrance : Entrance} {p : Process}
    (hp : p = m.boot medium settings.opening console) (hform : entrance.form? console = none) :
    ((entrance.command.action c).run p).2.world.attempts = [] ∧
      ((entrance.command.action c).run p).2.world.exchanges = [] := by
  subst hp
  obtain ⟨hattempts, hexchanges⟩ := m.traffic_boot medium settings console
  obtain ⟨console', w, -, hunaffected, ⟨-, e, hrun⟩ | ⟨form, hsome, -⟩⟩ :=
    entrance.run_action c (m.boot medium settings.opening console)
  · rw [hrun]
    exact ⟨hunaffected.traffic.attempts.trans hattempts,
      hunaffected.traffic.exchanges.trans hexchanges⟩
  · cases hform.symm.trans hsome

theorem refused_of_problems (c : ApiClient) {entrance : Entrance} {form : Form} {p : Process}
    (hp : p = m.boot medium settings.opening console) (hform : entrance.form? console = some form)
    (hproblems : form.problems ≠ []) :
    Refused m console form ((entrance.command.action c).run p).2.world.attempts
      (((entrance.command.action c).run p).2.complete
        ((entrance.command.action c).run p).1) := by
  subst hp
  obtain ⟨hattempts, hexchanges⟩ := m.traffic_boot medium settings console
  obtain ⟨console', w, herrors, hunaffected, ⟨hnone, -⟩ | ⟨form', hsome, hrun⟩⟩ :=
    entrance.run_action c (m.boot medium settings.opening console)
  · cases hform.symm.trans hnone
  · obtain rfl : form = form' := Option.some.inj (hform.symm.trans hsome)
    rw [hrun, Action.run_bind, form.run_checkForm_of_problems hproblems]
    exact {
      exitCode := rfl
      errors := by
        rw [← form.render_failure, show console.errors = console'.errors from herrors.symm]
        rfl
      attempts := hunaffected.traffic.attempts.trans hattempts
      exchanges := hunaffected.traffic.exchanges.trans hexchanges
      machine := by
        simp only [Process.complete, hunaffected.store, hunaffected.network]
        rfl }

theorem submitted_of_no_problems (c : ApiClient) {entrance : Entrance} {form : Form} {p : Process}
    {path : Path} (hp : p = m.boot (.file path) settings.opening console)
    (hform : entrance.form? console = some form) (hproblems : form.problems = []) :
    Submitted c path form ((entrance.command.action c).run p).2.world.attempts
      (((entrance.command.action c).run p).2.complete
        ((entrance.command.action c).run p).1) := by
  subst hp
  obtain ⟨hattempts, hexchanges⟩ := m.traffic_boot (.file path) settings console
  obtain ⟨console', w, -, hunaffected, ⟨hnone, -⟩ | ⟨form', hsome, hrun⟩⟩ :=
    entrance.run_action c (m.boot (.file path) settings.opening console)
  · cases hform.symm.trans hnone
  · obtain rfl : form = form' := Option.some.inj (hform.symm.trans hsome)
    rw [hrun, hproblems, checkForm, pure_bind]
    -- nothing was attempted before, so the one request of the form is the only one
    have hposted := (form.posted_enter c w).behind hunaffected.traffic
    have hmedium : w.store.medium = .file path := by
      rw [hunaffected.store]
      rfl
    have hkept := (Storage.medium_run (form.enter c) w).trans hmedium
    obtain ⟨hworld, hentered⟩ := form.run_submit c ⟨console', w⟩
    refine ⟨?_, ?_, fun hsuccess => ?_⟩
    · rw [hworld, hposted.attempts, hattempts, List.nil_append]
    · rw [Process.complete, hworld]
      simpa only [hexchanges, List.nil_append] using hposted.exchanges
    · obtain ⟨s, hs⟩ := hentered (exitCode_eq_zero.mp hsuccess)
      obtain ⟨hname, hstored⟩ := form.stored_of_enter hmedium hs
      refine ⟨s.render, s, ?_, Session.parse_render s, hname, fun name hnamed => ?_⟩
      · rw [Storage.get_of_file hkept] at hstored
        rw [Process.complete, hworld]
        exact hstored
      · rw [hname, Option.map_eq_some_iff] at hnamed
        obtain ⟨typed, htyped, rfl⟩ := hnamed
        rw [Text.allBlank_trim]
        exact form.not_blank_of_name hproblems htyped

end Entrance

namespace Machine

variable {m : Machine} {e : Environment} {arguments : List String} {console : Console}

theorem attempts_of_running {action : Action Unit} {p : Process}
    (h : m.launch e arguments console = .running action p) :
    m.attempts e arguments console = (action.run p).2.world.attempts := by
  rw [attempts, h]

theorem launch_of_request {i : Invocation}
    (hrequest : Request.ofArguments arguments = .ok (.invoke i)) :
    m.launch e arguments console = m.prepare (EnvironmentFile.load e m.tree) i console := by
  rw [launch, hrequest]

theorem prepare_of_selects {i : Invocation} {c : ApiClient} {path : Path}
    (h : m.Selects e i c path) (console : Console) : ∃ settings, m.prepare e i console =
      .running (i.command.action c) (m.boot (.file path) (Settings.opening settings) console) := by
  obtain ⟨settings, hsettings, hclient, hmedium⟩ := h
  refine ⟨settings, ?_⟩
  unfold prepare
  rw [hsettings]
  dsimp only
  rw [hclient]
  dsimp only
  rw [hmedium]

/-- Preparing a command ends the run or comes to a new process. -/
theorem prepare_cases (m : Machine) (e : Environment) (i : Invocation) (console : Console) :
    (∃ code console', m.prepare e i console = .finished code console') ∨
      ∃ c medium settings p, p = m.boot medium (Settings.opening settings) console ∧
        m.prepare e i console = .running (i.command.action c) p := by
  unfold prepare
  split
  next => exact .inl ⟨_, _, rfl⟩
  next =>
    split
    next => exact .inl ⟨_, _, rfl⟩
    next => exact .inr ⟨_, _, _, _, rfl, rfl⟩

/-- The command line sends nothing for a form that is not valid. Only a valid form leads a command
to attempt a request; with problems it is refused, and without any it is submitted, once. -/
theorem sends_valid_forms_only (m : Machine) (e : Environment) (arguments : List String)
    (console : Console) {i : Invocation} {entrance : Entrance}
    (hrequest : Request.ofArguments arguments = .ok (.invoke i))
    (hcommand : i.command = entrance.command) :
    ((m.attempts e arguments console ≠ [] ∨ (m.run e arguments console).exchanges ≠ []) →
        ∃ form, entrance.form? console = some form ∧ form.problems = []) ∧
      ∀ c path form, m.Selects (EnvironmentFile.load e m.tree) i c path →
        entrance.form? console = some form →
        (form.problems ≠ [] → Refused m console form (m.attempts e arguments console)
          (m.run e arguments console)) ∧
        (form.problems = [] → Submitted c path form (m.attempts e arguments console)
          (m.run e arguments console)) := by
  have hlaunch : m.launch e arguments console =
      m.prepare (EnvironmentFile.load e m.tree) i console := launch_of_request hrequest
  refine ⟨fun hsent => ?_, fun c path form hselects hform => ?_⟩
  · obtain ⟨code, console', hprepare⟩ | ⟨c, medium, settings, p, hp, hprepare⟩ :=
      m.prepare_cases (EnvironmentFile.load e m.tree) i console
    · rw [attempts, run, hlaunch, hprepare] at hsent
      exact (hsent.elim (· rfl) (· rfl)).elim
    · rw [attempts_of_running (hlaunch.trans hprepare), run_of_running (hlaunch.trans hprepare),
        hcommand] at hsent
      cases hform : entrance.form? console with
      | none =>
          obtain ⟨hattempts, hexchanges⟩ := Entrance.unsent_of_unasked c hp hform
          exact (hsent.elim (· hattempts) (· hexchanges)).elim
      | some form =>
          refine ⟨form, rfl, ?_⟩
          by_contra hproblems
          have hrefused := Entrance.refused_of_problems c hp hform hproblems
          exact hsent.elim (· hrefused.attempts) (· hrefused.exchanges)
  · obtain ⟨settings, hprepare⟩ := prepare_of_selects hselects console
    obtain ⟨p, hp⟩ : ∃ p, p = m.boot (.file path) settings.opening console := ⟨_, rfl⟩
    rw [← hp] at hprepare
    rw [attempts_of_running (hlaunch.trans hprepare), run_of_running (hlaunch.trans hprepare),
      hcommand]
    exact ⟨Entrance.refused_of_problems c hp hform, Entrance.submitted_of_no_problems c hp hform⟩

/-- Two runs to register somebody whose name is given with blanks around it: one in which the
password is typed well, and one in which it is not. -/
theorem sends_valid_forms_only_register :
    let m : Machine := ⟨.empty, .empty, .peer [.answer 200 "\x7b\"token\":\"t\"\x7d".toUTF8 true]⟩
    let e : Environment := ⟨.empty, ⟨"/home/eve"⟩⟩
    let arguments := ["register", "--name", " Eve ", "--email", "eve@x.io"]
    let i : Invocation := ⟨none, .register (some " Eve ") (some "eve@x.io")⟩
    let c : ApiClient := ⟨"https://reqres.in/api", "reqres-free-v1", .proxy⟩
    let path : Path := ⟨"/home/eve/.local/share/alleasy/storage.json"⟩
    let typed := Console.start .empty (some "secret\nsecret\n".toList)
    let mistyped := Console.start .empty (some "short\nsecret\n".toList)
    Request.ofArguments arguments = .ok (.invoke i) ∧
      m.Selects (EnvironmentFile.load e m.tree) i c path ∧
      (m.run e arguments typed).exitCode = 0 ∧
      Submitted c path (.register ⟨" Eve ", "eve@x.io", "secret", "secret"⟩)
        (m.attempts e arguments typed) (m.run e arguments typed) ∧
      Refused m mistyped (.register ⟨" Eve ", "eve@x.io", "short", "secret"⟩)
        (m.attempts e arguments mistyped) (m.run e arguments mistyped) := by
  intro m e arguments i c path typed mistyped
  have hrequest : Request.ofArguments arguments = .ok (.invoke i) := by
    decide +kernel
  have hcommand : i.command = (Entrance.register (some " Eve ") (some "eve@x.io")).command := rfl
  have hselects : m.Selects (EnvironmentFile.load e m.tree) i c path :=
    ⟨.initial, by decide +kernel, by decide +kernel, by decide +kernel⟩
  have hsends (console : Console) (form : Form) :=
    (sends_valid_forms_only m e arguments console hrequest hcommand).2 c path form hselects
  refine ⟨hrequest, hselects, by decide +kernel, ?_, ?_⟩
  · exact (hsends typed _ (by decide +kernel)).2 (by decide +kernel)
  · exact (hsends mistyped _ (by decide +kernel)).1 (by decide +kernel)

end Machine

end CommandLine

end SessionKeeper
