import SessionKeeper.Proofs.CommandLine.Forms
import SessionKeeper.Proofs.Noninterference.Veil

/-!
# What the command line shows

The command line never shows a token. Two runs with the same arguments, variables and typed lines,
on machines that differ only in the tokens of stored sessions and of the answers to sign-ins and
registrations, print the same and end with the same code. The wording of an error may differ only
where the decoder refuses the text that a token stands in, for it says how far it came.
-/

namespace SessionKeeper

open Program

/-! ## Files that are not the storage file -/

namespace FileTree

variable {t u : FileTree}

/-- Trees that are the same but for the storage files, each of which holds the same texts in both
trees but for the tokens of sessions, or cannot be read in either. -/
def Veiled (verbatim : Prop) (t u : FileTree) : Prop :=
  t.SameBut StorageFile.fileName.text (Likeness.veil.readable verbatim).rel u

/-- Two sessions that are shown alike may be stored in the place of one another. -/
theorem veiled_put_session {verbatim : Prop} (t : FileTree) {l : Location}
    (hl : l.getLast? = some StorageFile.fileName.text) (entries : Entries) {s s' : Session}
    (h : s.ShownAlike s') :
    (t.put l (.file (Entries.render (entries.insert Session.key s.render)).toUTF8)).Veiled verbatim
      (t.put l (.file (Entries.render (entries.insert Session.key s'.render)).toUTF8)) :=
  sameBut_put (Likeness.veil.readable verbatim).refl t hl
    ((Likeness.veil.readable verbatim).documents
      ((SortedMap.Alike.refl .same entries).insert h.render))

namespace Veiled

variable {verbatim : Prop}

theorem load_environment (h : t.Veiled verbatim u) (e : Environment) :
    EnvironmentFile.load e t = EnvironmentFile.load e u := by
  have hfind : EnvironmentFile.find? t = EnvironmentFile.find? u := by
    rw [EnvironmentFile.find?, EnvironmentFile.find?, h.alike.working, EnvironmentFile.candidates,
      List.findSome?_map, List.findSome?_map]
    congr 1
    funext n
    have hother : (u.working.take n ++ [EnvironmentFile.fileName]).getLast? ≠
        some StorageFile.fileName.text := by
      rw [List.getLast?_concat]
      decide
    simp only [Function.comp, h.others _ hother]
  rw [EnvironmentFile.load, EnvironmentFile.load, hfind]

theorem load_settings (h : t.Veiled verbatim u) (e : Environment) :
    Settings.load t e.settingsPath = Settings.load u e.settingsPath := by
  obtain ⟨dir, hparts⟩ : ∃ dir, e.settingsPath.Parts dir "config.json".toList :=
    Path.exists_parts_join _ ⟨"config.json"⟩ (by decide) (by decide) (by decide)
  rw [Settings.load, Settings.load, h.alike.pathExists_eq, h.readText_eq hparts (by decide)]

end Veiled

end FileTree

namespace CommandLine

/-! ## Actions -/

/-- Processes with the same console, in worlds that cannot be told apart. -/
structure Process.Veiled (verbatim : Prop) (K : Http.Answer → Http.Answer → Prop)
    (p q : Process) : Prop where
  console : p.console = q.console
  world : p.world.Veiled verbatim K q.world

/-- Actions that print the same and come to related values, or both fail. If they are to agree
verbatim, they fail in the same way. -/
def Action.Veiled {α β : Type} (verbatim : Prop) (K : Http.Answer → Http.Answer → Prop)
    (R : α → β → Prop) (x : Action α) (y : Action β) : Prop :=
  Program.Keeps processHandler (Process.Veiled verbatim K) (Parallel (EqIf verbatim) R)
    (ExceptT.run x) (ExceptT.run y)

/-- Answers that two runs of a command may get. -/
def Command.Answered (verbatim : Prop) : Command → Http.Answer → Http.Answer → Prop
  | .login _ => Http.Answer.Veiled verbatim (fun _ _ => True) LoginResponse.parse
  | .register _ _ => Http.Answer.Veiled verbatim RegisterResponse.SameId RegisterResponse.parse
  | _ => fun _ _ => True

namespace Action

variable {α β γ δ : Type} {verbatim : Prop} {K : Http.Answer → Http.Answer → Prop}

namespace Veiled

variable {R : α → β → Prop} {S : γ → δ → Prop}

theorem pure {a : α} {b : β} (hab : R a b) :
    Action.Veiled verbatim K R (Pure.pure a) (Pure.pure b) :=
  Program.Keeps.pure (.ok hab)

theorem bind {x : Action α} {y : Action β} {f : α → Action γ} {g : β → Action δ}
    (hxy : Action.Veiled verbatim K R x y)
    (hfg : ∀ a b, R a b → Action.Veiled verbatim K S (f a) (g b)) :
    Action.Veiled verbatim K S (x >>= f) (y >>= g) := by
  rw [Action.Veiled, ExceptT.run_bind, ExceptT.run_bind]
  refine Program.Keeps.bind hxy fun r s hrs => ?_
  cases hrs with
  | ok h => exact hfg _ _ h
  | error h => exact .pure (.error h)

/-- What comes behind a value that is the same on both sides. -/
theorem next {x y : Action α} {f : α → Action γ} {g : α → Action δ}
    (hxy : Action.Veiled verbatim K Eq x y)
    (hfg : ∀ a, Action.Veiled verbatim K S (f a) (g a)) :
    Action.Veiled verbatim K S (x >>= f) (y >>= g) :=
  hxy.bind fun a _ hab => hab ▸ hfg a

end Veiled

theorem veiled_throw {R : α → β → Prop} {f g : Failure} (h : EqIf verbatim f g) :
    Action.Veiled verbatim K R (throw f) (throw g) :=
  Program.Keeps.pure (.error h)

theorem veiled_perform {R : α → β → Prop} {op : Operation α} {op' : Operation β}
    (h : Operation.Veiled verbatim K R op op') :
    Action.Veiled verbatim K R (perform op) (perform op') := by
  intro p q hpq
  obtain ⟨hresult, hworld⟩ := h p.world q.world hpq.world
  rw [← Action.run, ← Action.run, run_perform, run_perform]
  exact ⟨.ok hresult, hpq.console, hworld⟩

theorem veiled_demand {ε : Type} {R : α → β → Prop} (failure : ε → Failure) {r : Except ε α}
    {s : Except ε β} (h : Parallel (EqIf verbatim) R r s) :
    Action.Veiled verbatim K R (demand failure r) (demand failure s) := by
  cases h with
  | ok h => exact .pure h
  | error h => exact veiled_throw (h.congr failure)

/-! ## The console -/

theorem veiled_say (text : String) : Action.Veiled verbatim K Eq (say text) (say text) :=
  fun _ _ h => ⟨.ok rfl, congrArg (Console.print text) h.console, h.world⟩

theorem veiled_complain (text : String) :
    Action.Veiled verbatim K Eq (complain text) (complain text) :=
  fun _ _ h => ⟨.ok rfl, congrArg (Console.complain text) h.console, h.world⟩

theorem veiled_readLine : Action.Veiled verbatim K Eq (step .readLine) (step .readLine) :=
  fun _ _ h => ⟨.ok (congrArg (fun c => c.readLine.1) h.console),
    congrArg (fun c => c.readLine.2) h.console, h.world⟩

theorem veiled_readPassword (label : String) :
    Action.Veiled verbatim K Eq (step (.readPassword label)) (step (.readPassword label)) :=
  fun _ _ h => ⟨.ok (congrArg (fun c => c.readPassword.1) h.console),
    congrArg (fun c => c.readPassword.2) h.console, h.world⟩

theorem veiled_orAsk (label : String) (given : Option String) :
    Action.Veiled verbatim K Eq (orAsk label given) (orAsk label given) := by
  cases given with
  | some value => exact .pure rfl
  | none =>
      exact (veiled_say label).next fun _ => veiled_readLine.next fun line =>
        veiled_demand _ (.refl .refl (fun _ => rfl) line)

theorem veiled_askPassword (label : String) :
    Action.Veiled verbatim K Eq (askPassword label) (askPassword label) :=
  (veiled_readPassword label).next fun line =>
    veiled_demand _ (.refl .refl (fun _ => rfl) line)

end Action

/-! ## Commands -/

section

open SessionKeeper.CommandLine.Action

variable {verbatim : Prop} {K : Http.Answer → Http.Answer → Prop}

theorem veiled_checkForm (errors : List FormError) :
    Action.Veiled verbatim K Eq (checkForm errors) (checkForm errors) := by
  cases errors with
  | nil => exact .pure rfl
  | cons error errors => exact (veiled_complain _).next fun _ => veiled_throw (.refl _)

theorem veiled_restore :
    Action.Veiled verbatim K (Option.Rel Session.ShownAlike) restore restore := by
  refine (veiled_perform Manager.veiled_bootstrap).bind fun r s hrs => ?_
  cases hrs with
  | ok h => exact .pure h
  | error => exact (veiled_perform Operation.veiled_report).next fun _ => .pure .none

/-- What becomes of a session that the manager was asked for is told alike. -/
theorem veiled_greet {r s : Except Error Session}
    (h : Parallel (EqIf verbatim) Session.ShownAlike r s) {greeting : Session → String}
    (hgreeting : ∀ s t : Session, s.ShownAlike t → greeting s = greeting t) :
    Action.Veiled verbatim K Eq
      (do
        let session ← demand Failure.ofManager r
        say (greeting session))
      (do
        let session ← demand Failure.ofManager s
        say (greeting session)) := by
  refine (veiled_demand _ h).bind fun s t hst => ?_
  rw [hgreeting s t hst]
  exact veiled_say _

theorem veiled_login (c : ApiClient) (email? : Option String) :
    Action.Veiled verbatim (Command.Answered verbatim (.login email?)) Eq (login c email?)
      (login c email?) := by
  refine veiled_restore.bind fun _ _ _ => (veiled_orAsk _ email?).next fun email =>
    (veiled_askPassword _).next fun password => (veiled_checkForm _).next fun _ =>
      (veiled_say _).next fun _ => (veiled_perform (Manager.veiled_signIn c _)).bind fun r s hrs =>
        veiled_greet hrs fun s t hst => ?_
  rw [hst.displayName_eq]

theorem veiled_register (c : ApiClient) (name? email? : Option String) :
    Action.Veiled verbatim (Command.Answered verbatim (.register name? email?)) Eq
      (register c name? email?) (register c name? email?) := by
  refine veiled_restore.bind fun _ _ _ => (veiled_orAsk _ name?).next fun name =>
    (veiled_orAsk _ email?).next fun email => (veiled_askPassword _).next fun password =>
      (veiled_askPassword _).next fun confirmation => (veiled_checkForm _).next fun _ =>
        (veiled_say _).next fun _ =>
          (veiled_perform (Manager.veiled_registerUser c _ _)).bind fun r s hrs =>
            veiled_greet hrs fun s t hst => ?_
  rw [hst.displayName_eq, (Session.shownAlike_iff.mp hst).1]

theorem veiled_logout : Action.Veiled verbatim K Eq logout logout :=
  veiled_restore.bind fun _ _ _ => (veiled_perform Manager.veiled_isSignedIn).next fun _ =>
    (veiled_perform Manager.veiled_signOut).bind fun _ _ hrs =>
      (veiled_demand _ hrs).next fun _ => veiled_say _

theorem veiled_status (asJson : Bool) :
    Action.Veiled verbatim K Eq (status asJson) (status asJson) := by
  refine veiled_restore.bind fun s t hst => ?_
  have hshown : shownSession s = shownSession t := by
    cases hst with
    | none => rfl
    | some h => exact congrArg Session.toValue h
  have hdescribed : describeSession s = describeSession t := by
    cases hst with
    | none => rfl
    | some h =>
        obtain ⟨hid, hemail, -⟩ := Session.shownAlike_iff.mp h
        unfold describeSession
        simp only [h.displayName_eq, hid, hemail]
  rw [hshown, hdescribed]
  split
  next => exact veiled_say _
  next =>
    exact (veiled_say _).next fun _ => (veiled_perform Auth.veiled_isAuthenticated).next fun _ =>
      veiled_say _

theorem veiled_theme (action : ThemeAction) :
    Action.Veiled verbatim K Eq (theme action) (theme action) := by
  cases action with
  | view => exact (veiled_perform Preference.veiled_load).next fun _ => veiled_say _
  | toggle =>
      exact (veiled_perform Preference.veiled_toggle).bind fun _ _ hrs =>
        (veiled_demand _ hrs).next fun _ => veiled_say _
  | set mode =>
      exact (veiled_perform (Preference.veiled_set mode)).bind fun _ _ hrs =>
        (veiled_demand _ hrs).next fun _ => veiled_say _

/-- No command looks behind the veil. -/
theorem Command.veiled_action (c : ApiClient) (command : Command) :
    Action.Veiled verbatim (command.Answered verbatim) Eq (command.action c)
      (command.action c) := by
  cases command with
  | login email? => exact veiled_login c email?
  | register name? email? => exact veiled_register c name? email?
  | logout => exact veiled_logout
  | status asJson => exact veiled_status asJson
  | theme action => exact veiled_theme action

end

/-! ## Runs of the program -/

namespace Machine

/-- Machines that differ only in the tokens of stored sessions, and in the answers that servers
give. -/
structure Veiled (verbatim : Prop) (K : Http.Answer → Http.Answer → Prop) (m n : Machine) :
    Prop where
  tree : m.tree.Veiled verbatim n.tree
  keychain : m.keychain.Alike Likeness.veil n.keychain
  network : m.network.Veiled K n.network

variable {m n : Machine} {verbatim : Prop} {K : Http.Answer → Http.Answer → Prop}

theorem Veiled.boot (h : m.Veiled verbatim K n) (medium : Medium) (opening : Event)
    (console : Console) :
    (m.boot medium opening console).Veiled verbatim K (n.boot medium opening console) :=
  ⟨rfl, ⟨rfl, h.tree.alike, h.keychain, .refl (fun _ _ => .same _ _) _⟩, .none, h.network⟩

theorem Veiled.prepare (h : m.Veiled verbatim K n) (e : Environment) (i : Invocation)
    (console : Console) :
    (∃ code console', m.prepare e i console = .finished code console' ∧
      n.prepare e i console = .finished code console') ∨
    ∃ c p q, m.prepare e i console = .running (i.command.action c) p ∧
      n.prepare e i console = .running (i.command.action c) q ∧ p.Veiled verbatim K q := by
  have hsettings : findSettings m.tree e i.backend = findSettings n.tree e i.backend := by
    unfold findSettings
    rw [h.tree.load_settings]
  unfold Machine.prepare
  rw [hsettings]
  generalize findSettings n.tree e i.backend = found
  cases found with
  | error f =>
      exact .inl ⟨_, _, rfl, rfl⟩
  | ok settings =>
      dsimp only
      generalize ApiClient.new settings = made
      cases made with
      | error error => exact .inl ⟨_, _, rfl, rfl⟩
      | ok c =>
          exact .inr ⟨c, _, _, rfl, rfl, h.boot (settings.medium e) settings.opening console⟩

/-- Runs that end in results of one kind, and verbatim if they are to. -/
theorem complete_eq {p q : Process} (h : p.Veiled verbatim K q)
    {r s : Except Failure Unit} (hrs : Parallel (EqIf verbatim) Eq r s) :
    (p.complete r).exitCode = (q.complete s).exitCode ∧
      (p.complete r).console.output = (q.complete s).console.output ∧
      (verbatim → (p.complete r).console.errors = (q.complete s).console.errors) := by
  rw [Process.complete, Process.complete, h.console]
  cases hrs with
  | ok => exact ⟨rfl, rfl, fun _ => rfl⟩
  | error hfailure =>
      refine ⟨rfl, rfl, fun hverbatim => ?_⟩
      rw [hfailure hverbatim]

/-- The command line never shows a token. Let two machines differ only in the tokens of the sessions
that are stored on them, whatever the layout of the storage file, and in those of the successes that
the server answers to a sign-in or a registration. Runs with the same arguments, variables and
console end with the same code and print the same. They print the same about errors as well, unless
the decoder refuses a storage file or such a success, with different words. -/
theorem shows_no_token (verbatim : Prop) (e : Environment) (arguments : List String)
    (console : Console)
    (h : ∀ i, Request.ofArguments arguments = .ok (.invoke i) →
      m.Veiled verbatim (i.command.Answered verbatim) n) :
    (m.run e arguments console).exitCode = (n.run e arguments console).exitCode ∧
      (m.run e arguments console).console.output = (n.run e arguments console).console.output ∧
      (verbatim → (m.run e arguments console).console.errors =
        (n.run e arguments console).console.errors) := by
  rw [run, run, launch, launch]
  cases hrequest : Request.ofArguments arguments with
  | error error => exact ⟨rfl, rfl, fun _ => rfl⟩
  | ok request =>
      cases request with
      | version => exact ⟨rfl, rfl, fun _ => rfl⟩
      | help level => exact ⟨rfl, rfl, fun _ => rfl⟩
      | invoke i =>
          have hveiled := h i hrequest
          dsimp only
          rw [hveiled.tree.load_environment]
          obtain ⟨code, console', hm, hn⟩ | ⟨c, p, q, hm, hn, hpq⟩ :=
            hveiled.prepare (EnvironmentFile.load e n.tree) i console
          · rw [hm, hn]
            exact ⟨rfl, rfl, fun _ => rfl⟩
          · rw [hm, hn]
            obtain ⟨hresult, hprocess⟩ := i.command.veiled_action c p q hpq
            exact complete_eq hprocess hresult

namespace Sample

/-- A machine on which a session with one token is stored, and whose server grants another. -/
def visited (stored granted : String) : Machine where
  tree := FileTree.empty.put ["storage.json"] (.file (Entries.render
    (SortedMap.empty.insert Session.key
      (Session.render ⟨"7", "eve@x.io", some "Eve", stored⟩))).toUTF8)
  keychain := .empty
  network := .peer [.answer 200 ("\x7b\"token\":\"" ++ granted ++ "\"\x7d").toUTF8 true]

/-- An account whose data are kept at the root. -/
def home : Environment :=
  ⟨SortedMap.empty.insert "ALLEASY_DATA_DIR" "/".toUTF8, ⟨"/home/eve"⟩⟩

/-- A console at which a password is typed twice. -/
def typing : Console :=
  .start .empty (some "secret\nsecret\n".toList)

/-- The arguments of a sign-in. -/
def entry : List String :=
  ["login", "--email", "eve@x.io"]

end Sample

/-- Two users of one address who were given other tokens see the same when they sign in again. -/
theorem shows_no_token_of_login :
    (∀ i, Request.ofArguments Sample.entry = .ok (.invoke i) →
      (Sample.visited "s" "t").Veiled True (i.command.Answered True)
        (Sample.visited "another" "more")) ∧
      ((Sample.visited "s" "t").run Sample.home Sample.entry Sample.typing).console.output =
        ((Sample.visited "another" "more").run Sample.home Sample.entry
          Sample.typing).console.output ∧
      ((Sample.visited "s" "t").run Sample.home Sample.entry Sample.typing).console.output =
        "\nAuthenticating...\nSigned in as eve@x.io\n" := by
  have hrequest : Request.ofArguments Sample.entry =
      .ok (.invoke ⟨none, .login (some "eve@x.io")⟩) := by
    decide +kernel
  have hgranted : LoginResponse.parse (Text.decodeLossy
      ("\x7b\"token\":\"" ++ "t" ++ "\"\x7d").toUTF8) = .ok ⟨"t"⟩ := by
    decide +kernel
  have hgranted' : LoginResponse.parse (Text.decodeLossy
      ("\x7b\"token\":\"" ++ "more" ++ "\"\x7d").toUTF8) = .ok ⟨"more"⟩ := by
    decide +kernel
  have hruns : ∀ i, Request.ofArguments Sample.entry = .ok (.invoke i) →
      (Sample.visited "s" "t").Veiled True (i.command.Answered True)
        (Sample.visited "another" "more") := by
    intro i hi
    rw [hrequest] at hi
    obtain rfl := Request.invoke.inj (Except.ok.inj hi)
    refine ⟨FileTree.veiled_put_session _ rfl _ rfl, .refl _ _, .peer (.cons ?_ .nil)⟩
    refine Http.Response.veiled_answer (by decide) ?_ true
    rw [hgranted, hgranted']
    exact .ok trivial
  have hshown := shows_no_token True Sample.home Sample.entry Sample.typing hruns
  exact ⟨hruns, hshown.2.1, by decide +kernel⟩

namespace Sample

/-- A machine on which nothing is stored, and whose server answers with a token and with an id that
nobody can have. -/
def misled (token : String) : Machine :=
  ⟨.empty, .empty,
    .peer [.answer 200 ("\x7b\"token\":\"" ++ token ++ "\",\"id\":true\x7d").toUTF8 true]⟩

/-- A machine with a session in a storage file that also holds something other than a text. -/
def damaged (token : String) : Machine :=
  ⟨FileTree.empty.put ["storage.json"] (.file (Json.Value.compact (.object
    [(Session.key, .text (Session.render ⟨"7", "eve@x.io", none, token⟩)),
      ("x", .number (.natural 5))])).toUTF8), .empty, .unreachable⟩

/-- A token of eighty characters. -/
def longToken : String :=
  "01234567890123456789012345678901234567890123456789012345678901234567890123456789"

/-- The arguments of a registration. -/
def registration : List String :=
  ["register", "--name", "Eve", "--email", "eve@x.io"]

end Sample

/-- What is printed about a text that the decoder refuses tells how far it came, and so how long the
token in front of the fault is: that of an answer, or that of a session in a storage file. -/
theorem not_shows_no_token_of_refusal :
    (Http.IsSendable "s" ∧ Http.IsSendable Sample.longToken) ∧
      ((Sample.misled "s").run Sample.home Sample.registration Sample.typing).console.errors ≠
        ((Sample.misled Sample.longToken).run Sample.home Sample.registration
          Sample.typing).console.errors ∧
      ((Sample.damaged "s").run Sample.home ["logout"] Sample.typing).console.errors ≠
        ((Sample.damaged Sample.longToken).run Sample.home ["logout"]
          Sample.typing).console.errors := by
  have hshort : Http.IsSendable "s" := by
    unfold Http.IsSendable
    decide +kernel
  have hlong : Http.IsSendable Sample.longToken := by
    unfold Http.IsSendable
    decide +kernel
  -- behind the longer token the column has one digit more
  have hanswer : ((Sample.misled "s").run Sample.home Sample.registration
        Sample.typing).console.errors.utf8ByteSize ≠
      ((Sample.misled Sample.longToken).run Sample.home Sample.registration
        Sample.typing).console.errors.utf8ByteSize := by
    decide +kernel
  have hfile : ((Sample.damaged "s").run Sample.home ["logout"]
        Sample.typing).console.errors.utf8ByteSize ≠
      ((Sample.damaged Sample.longToken).run Sample.home ["logout"]
        Sample.typing).console.errors.utf8ByteSize := by
    decide +kernel
  exact ⟨⟨hshort, hlong⟩, fun h => hanswer (congrArg String.utf8ByteSize h),
    fun h => hfile (congrArg String.utf8ByteSize h)⟩

end Machine

end CommandLine

end SessionKeeper
