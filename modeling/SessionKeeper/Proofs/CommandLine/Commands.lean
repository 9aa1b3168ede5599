import SessionKeeper.Proofs.CommandLine.Account

/-!
# What commands do to the account

A command is run in a process that knows nothing but what is stored. What it prints is what the
account behind the stored texts says, and what it leaves stored is what it makes of that account.
-/

namespace SessionKeeper.CommandLine

open SessionKeeper.CommandLine.Action

namespace Account

/-! ## Asking -/

/-- The second ledger has the texts and the exchanges of the first. -/
structure Untouched (v w : Ledger) : Prop where
  texts : w.texts = v.texts
  exchanges : w.exchanges = v.exchanges

variable {a : Account} {u v w : Ledger}

theorem Untouched.refl (v : Ledger) : Untouched v v :=
  ⟨rfl, rfl⟩

theorem Untouched.trans (h : Untouched u v) (h' : Untouched v w) : Untouched u w :=
  ⟨h'.texts.trans h.texts, h'.exchanges.trans h.exchanges⟩

theorem heard_congr {c d : Console} (h : c.input = d.input) (given : Option String) :
    (heard given c).1 = (heard given d).1 ∧ (heard given c).2.input = (heard given d).2.input := by
  cases given with
  | some text => exact ⟨rfl, h⟩
  | none =>
      simp only [heard, Console.readLine, h]
      split <;> exact ⟨rfl, rfl⟩

/-- What is asked for is heard, and nothing is touched by it. -/
theorem of_orAsk {label : String} {given : Option String} {result : Except Failure String}
    (h : (orAsk label given).Leads v result w) :
    result.toOption = (heard given v.console).1 ∧
      w.console.input = (heard given v.console).2.input ∧ Untouched v w := by
  cases given with
  | some text =>
      obtain ⟨rfl, rfl⟩ := leads_pure.mp h
      exact ⟨rfl, rfl, .refl _⟩
  | none =>
      rw [orAsk, ask, leads_say_bind, leads_step_bind] at h
      obtain ⟨line, u, ⟨rfl, rfl⟩, hdemand⟩ := h
      obtain ⟨rfl, rfl⟩ := leads_demand.mp hdemand
      -- the label that was printed makes no difference to the line that is read
      have hprinted : (v.console.print label).input = v.console.input := rfl
      obtain ⟨hheard, hinput⟩ := heard_congr hprinted none
      refine ⟨Eq.trans ?_ hheard, hinput, ⟨rfl, rfl⟩⟩
      change (Except.mapError _ (v.console.print label).readLine.1).toOption =
        (v.console.print label).readLine.1.toOption
      cases (v.console.print label).readLine.1 <;> rfl

theorem of_askPassword {label : String} {result : Except Failure String}
    (h : (askPassword label).Leads v result w) : Untouched v w := by
  rw [askPassword, leads_step_bind] at h
  obtain ⟨line, u, ⟨rfl, rfl⟩, hdemand⟩ := h
  obtain ⟨-, rfl⟩ := leads_demand.mp hdemand
  exact ⟨rfl, rfl⟩

theorem of_checkForm {errors : List FormError} {result : Except Failure Unit}
    (h : (checkForm errors).Leads v result w) : Untouched v w := by
  unfold checkForm at h
  split at h
  next =>
    obtain ⟨-, rfl⟩ := leads_pure.mp h
    exact .refl _
  next =>
    rw [leads_complain_bind] at h
    obtain ⟨-, rfl⟩ := leads_throw.mp h
    exact ⟨rfl, rfl⟩

/-- An action that asks for something first ends with that, or goes on from where it led. -/
theorem of_asking_bind {α β : Type} {x : Action α} {f : α → Action β}
    {result : Except Failure β} (hasks : ∀ {result u}, x.Leads v result u → Untouched v u)
    (h : (x >>= f).Leads v result w) :
    Untouched v w ∨ ∃ a u, x.Leads v (.ok a) u ∧ Untouched v u ∧ (f a).Leads u result w := by
  rcases leads_bind.mp h with ⟨e, rfl, hx⟩ | ⟨a, u, hx, hrest⟩
  · exact .inl (hasks hx)
  · exact .inr ⟨a, u, hx, hasks hx, hrest⟩

/-! ## Commands -/

/-- The ledger of a process that has just begun: the account is stored, and nothing is known or was
sent yet. -/
structure Begins (a : Account) (v : Ledger) : Prop where
  holds : a.Holds v.texts
  session : v.session = none
  exchanges : v.exchanges = []

/-- A command that began with one ledger and ended with another printed what is to be printed about
the account, sent one request at most, and left what becomes of the account. -/
structure Follows (a : Account) (command : Command) (v : Ledger) (result : Except Failure Unit)
    (w : Ledger) : Prop where
  prints : ∀ text, a.prints command = some text →
    result = .ok () ∧ w.console = v.console.print text
  holds : ∃ answer?, w.exchanges.map Exchange.answer = answer?.toList ∧
    (a.after v.console answer? command).Holds w.texts

variable {result : Except Failure Unit}

theorem untouched_of_restored (h : Untouched (v.withSession a.session) w) : Untouched v w :=
  ⟨h.texts, h.exchanges⟩

/-- Whatever is done first, the stored session is in memory then. -/
theorem Begins.of_restore_bind {β : Type} (h : a.Begins v)
    {f : Option Session → Action β} {result : Except Failure β}
    (hleads : (restore >>= f).Leads v result w) :
    (f a.session).Leads (v.withSession a.session) result w := by
  rcases leads_bind.mp hleads with ⟨e, -, hrestore⟩ | ⟨session, u, hrestore, hrest⟩
  all_goals
    rw [restore, leads_perform_bind] at hrestore
    obtain ⟨found, u', hfound, hrestore⟩ := hrestore
    obtain ⟨rfl, rfl⟩ := h.holds.leads_bootstrap h.session hfound
  · cases (leads_pure.mp hrestore).1
  · obtain ⟨hsession, rfl⟩ := leads_pure.mp hrestore
    rwa [Except.ok.inj hsession] at hrest

/-- Without a request there is no answer. -/
theorem Begins.unanswered (h : a.Begins v) :
    v.exchanges.map Exchange.answer = (none : Option Http.Answer).toList :=
  congrArg (List.map Exchange.answer) h.exchanges

theorem follows_logout (h : a.Begins v) (hleads : logout.Leads v result w) :
    Follows a .logout v result w := by
  rw [logout] at hleads
  have hsigned := h.of_restore_bind hleads
  rw [leads_perform_bind] at hsigned
  obtain ⟨signedIn, u, hsignedIn, hrest⟩ := hsigned
  obtain ⟨rfl, rfl⟩ := leads_isSignedIn.mp hsignedIn
  rw [leads_perform_bind] at hrest
  obtain ⟨done, u, hsignOut, hsay⟩ := hrest
  obtain ⟨rfl, rfl⟩ := leads_signOut hsignOut
  rw [leads_demand_ok_bind, leads_say] at hsay
  obtain ⟨rfl, rfl⟩ := hsay
  refine ⟨?_, none, h.unanswered, h.holds.drop_session⟩
  rintro text ⟨⟩
  exact ⟨rfl, rfl⟩

theorem prints_status_json (a : Account) :
    a.prints (.status true) = some ((shownSession a.session).pretty ++ "\n") := by
  rw [prints]
  cases a.session <;> rfl

theorem prints_status (a : Account) :
    a.prints (.status false) = some (describeSession a.session ++
      ("  stored session: " ++ (if a.session.isSome then "yes" else "no") ++ "\n")) := by
  rw [prints]
  cases a.session <;> rfl

theorem follows_status (h : a.Begins v) {asJson : Bool}
    (hleads : (status asJson).Leads v result w) : Follows a (.status asJson) v result w := by
  rw [status] at hleads
  have hshown := h.of_restore_bind hleads
  cases asJson with
  | true =>
      obtain ⟨rfl, rfl⟩ := leads_say.mp hshown
      refine ⟨fun text htext => ⟨rfl, ?_⟩, none, h.unanswered, h.holds⟩
      change v.console.print ((shownSession a.session).pretty ++ "\n") = _
      rw [prints_status_json] at htext
      rw [Option.some.inj htext]
  | false =>
      simp only [Bool.false_eq_true, ↓reduceIte] at hshown
      rw [leads_say_bind, leads_perform_bind] at hshown
      obtain ⟨answer, u, hanswer, hsay⟩ := hshown
      obtain ⟨rfl, rfl⟩ := Holds.leads_isAuthenticated
        (v := (v.withSession a.session).withConsole _) h.holds hanswer
      obtain ⟨rfl, rfl⟩ := leads_say.mp hsay
      refine ⟨fun text htext => ⟨rfl, (Console.print_print ..).trans ?_⟩, none, h.unanswered,
        h.holds⟩
      rw [prints_status] at htext
      exact congrArg (Console.print · v.console) (Option.some.inj htext)

theorem follows_theme (h : a.Begins v) {action : ThemeAction}
    (hleads : (theme action).Leads v result w) : Follows a (.theme action) v result w := by
  cases action with
  | view =>
      rw [theme, leads_perform_bind] at hleads
      obtain ⟨mode, u, hload, hsay⟩ := hleads
      obtain ⟨rfl, rfl⟩ := h.holds.leads_load hload
      obtain ⟨rfl, rfl⟩ := leads_say.mp hsay
      refine ⟨?_, none, h.unanswered, h.holds⟩
      rintro text ⟨⟩
      exact ⟨rfl, rfl⟩
  | toggle =>
      rw [theme] at hleads
      rw [leads_perform_bind] at hleads
      obtain ⟨toggled, u, htoggle, hsay⟩ := hleads
      obtain ⟨rfl, rfl⟩ := h.holds.leads_toggle htoggle
      rw [leads_demand_ok_bind, leads_say] at hsay
      obtain ⟨rfl, rfl⟩ := hsay
      refine ⟨?_, none, h.unanswered, h.holds.put_mode a.mode.toggled⟩
      rintro text ⟨⟩
      exact ⟨rfl, rfl⟩
  | set mode =>
      rw [theme] at hleads
      rw [leads_perform_bind] at hleads
      obtain ⟨done, u, hset, hsay⟩ := hleads
      obtain ⟨rfl, rfl⟩ := leads_setMode hset
      rw [leads_demand_ok_bind, pure_bind, leads_say] at hsay
      obtain ⟨rfl, rfl⟩ := hsay
      refine ⟨?_, none, h.unanswered, h.holds.put_mode mode⟩
      rintro text ⟨⟩
      exact ⟨rfl, rfl⟩

/-- What is printed about a session that was entered touches nothing. -/
theorem untouched_of_demand_say {β : Type} {found : Except Error β} {text : β → String}
    (h : (demand Failure.ofManager found >>= fun b => say (text b)).Leads v result w) :
    Untouched v w := by
  cases found with
  | error e =>
      rcases leads_bind.mp h with ⟨e, rfl, hdemand⟩ | ⟨b, u, hdemand, -⟩
      · obtain ⟨-, rfl⟩ := leads_demand.mp hdemand
        exact .refl _
      · cases (leads_demand.mp hdemand).1
  | ok b =>
      rw [leads_demand_ok_bind, leads_say] at h
      obtain ⟨-, rfl⟩ := h
      exact ⟨rfl, rfl⟩

/-- What the credentials came to is what the command makes of the account. -/
theorem holds_of_entered {β : Type} {parse : String → Except Json.Error β} {grant : β → Session}
    {answer? : Option Http.Answer} {console : Console} {command : Command}
    (hentered : Holds.Entered parse grant a u v answer?) (hfresh : u.exchanges = [])
    (hw : Untouched v w)
    (hafter : a.after console answer? command = answer?.elim a (a.answered parse grant)) :
    ∃ answer?, w.exchanges.map Exchange.answer = answer?.toList ∧
      (a.after console answer? command).Holds w.texts := by
  refine ⟨answer?, ?_, ?_⟩
  · rw [hw.exchanges, hentered.exchanges, hfresh, List.map_nil, List.nil_append]
  · rw [hafter, hw.texts]
    exact hentered.holds

/-- As long as nothing was sent, there is no answer that could change the account. -/
theorem Begins.holds_of_untouched (h : a.Begins v) (hw : Untouched v w) {console : Console}
    {command : Command} (hafter : a.after console none command = a) :
    ∃ answer?, w.exchanges.map Exchange.answer = answer?.toList ∧
      (a.after console answer? command).Holds w.texts := by
  refine ⟨none, ?_, ?_⟩
  · rw [hw.exchanges]
    exact h.unanswered
  · rw [hafter, hw.texts]
    exact h.holds

theorem after_login (console : Console) (answer? : Option Http.Answer) {email? : Option String}
    {email : String} (hemail : (heard email? console).1 = some email) :
    a.after console answer? (.login email?) = answer?.elim a
      (a.answered LoginResponse.parse fun r => ⟨"1", email, none, r.token⟩) := by
  simp only [after, hemail]
  cases answer? <;> rfl

theorem follows_login (h : a.Begins v) {c : ApiClient} {email? : Option String}
    (hleads : (login c email?).Leads v result w) : Follows a (.login email?) v result w := by
  have hunsent : a.after v.console none (.login email?) = a := by
    simp only [after]
    split
    next hanswer => cases hanswer
    next => rfl
  refine ⟨nofun, ?_⟩
  rw [login] at hleads
  have hasked := h.of_restore_bind hleads
  rcases of_asking_bind (fun hask => (of_orAsk hask).2.2) hasked with
    hw | ⟨email, u₁, hask, hfirst, hrest⟩
  · exact h.holds_of_untouched (untouched_of_restored hw) hunsent
  have h₁ := untouched_of_restored hfirst
  obtain ⟨hemail, -, -⟩ := of_orAsk hask
  rcases of_asking_bind of_askPassword hrest with hw | ⟨password, u₂, -, h₂, hrest⟩
  · exact h.holds_of_untouched (h₁.trans hw) hunsent
  rcases of_asking_bind of_checkForm hrest with hw | ⟨checked, u₃, -, h₃, hrest⟩
  · exact h.holds_of_untouched ((h₁.trans h₂).trans hw) hunsent
  have hu := (h₁.trans h₂).trans h₃
  rw [leads_say_bind, leads_perform_bind] at hrest
  obtain ⟨established, u₄, hsignIn, hrest⟩ := hrest
  have hheld : a.Holds u₃.texts := by
    rw [hu.texts]
    exact h.holds
  obtain ⟨answer?, hentered⟩ := Holds.entered_of_signIn
    (v := u₃.withConsole (u₃.console.print "\nAuthenticating...\n")) hheld hsignIn
  exact holds_of_entered hentered (hu.exchanges.trans h.exchanges)
    (untouched_of_demand_say hrest) (after_login v.console answer? hemail.symm)

theorem after_register (console : Console) (answer? : Option Http.Answer)
    {name? email? : Option String} {name email : String}
    (hname : (heard name? console).1 = some name)
    (hemail : (heard email? (heard name? console).2).1 = some email) :
    a.after console answer? (.register name? email?) = answer?.elim a
      (a.answered RegisterResponse.parse
        fun r => ⟨r.id.getD "1", email, some (Text.trim name), r.token⟩) := by
  simp only [after, hname, hemail]
  cases answer? <;> rfl

theorem follows_register (h : a.Begins v) {c : ApiClient} {name? email? : Option String}
    (hleads : (register c name? email?).Leads v result w) :
    Follows a (.register name? email?) v result w := by
  have hunsent : a.after v.console none (.register name? email?) = a := by
    simp only [after]
    split
    next hanswer => cases hanswer
    next => rfl
  refine ⟨nofun, ?_⟩
  rw [register] at hleads
  have hasked := h.of_restore_bind hleads
  rcases of_asking_bind (fun hask => (of_orAsk hask).2.2) hasked with
    hw | ⟨name, u₁, hask, hfirst, hrest⟩
  · exact h.holds_of_untouched (untouched_of_restored hw) hunsent
  have h₁ := untouched_of_restored hfirst
  obtain ⟨hname, hinput, -⟩ := of_orAsk hask
  rcases of_asking_bind (fun hask => (of_orAsk hask).2.2) hrest with
    hw | ⟨email, u₂, hask, h₂, hrest⟩
  · exact h.holds_of_untouched (h₁.trans hw) hunsent
  obtain ⟨hemail, -, -⟩ := of_orAsk hask
  -- the name is asked for before the email, so the email is in what is left of the input
  rw [(heard_congr hinput email?).1] at hemail
  rcases of_asking_bind of_askPassword hrest with hw | ⟨password, u₃, -, h₃, hrest⟩
  · exact h.holds_of_untouched ((h₁.trans h₂).trans hw) hunsent
  have h₁₃ := (h₁.trans h₂).trans h₃
  rcases of_asking_bind of_askPassword hrest with hw | ⟨confirmation, u₄, -, h₄, hrest⟩
  · exact h.holds_of_untouched (h₁₃.trans hw) hunsent
  rcases of_asking_bind of_checkForm hrest with hw | ⟨checked, u₅, -, h₅, hrest⟩
  · exact h.holds_of_untouched ((h₁₃.trans h₄).trans hw) hunsent
  have hu := (h₁₃.trans h₄).trans h₅
  rw [leads_say_bind, leads_perform_bind] at hrest
  obtain ⟨established, u₆, hregister, hrest⟩ := hrest
  have hheld : a.Holds u₅.texts := by
    rw [hu.texts]
    exact h.holds
  obtain ⟨answer?, hentered⟩ := Holds.entered_of_registerUser
    (v := u₅.withConsole (u₅.console.print "\nCreating account...\n")) hheld hregister
  exact holds_of_entered hentered (hu.exchanges.trans h.exchanges)
    (untouched_of_demand_say hrest) (after_register v.console answer? hname.symm hemail.symm)

/-- Every command follows the account. -/
theorem follows_of_leads (h : a.Begins v) {c : ApiClient} {command : Command}
    (hleads : (command.action c).Leads v result w) : Follows a command v result w := by
  cases command with
  | login email? => exact follows_login h hleads
  | register name? email? => exact follows_register h hleads
  | logout => exact follows_logout h hleads
  | status asJson => exact follows_status h hleads
  | theme action => exact follows_theme h hleads

end Account

end SessionKeeper.CommandLine
