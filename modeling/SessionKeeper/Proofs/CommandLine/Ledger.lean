import SessionKeeper.CommandLine.Run
import SessionKeeper.Proofs.Program.Runs
import SessionKeeper.Proofs.Store.Backends

/-!
# Processes over a storage file that works

What counts of a process whose storage file can be read and written: the texts in the file, the
session in memory, the exchanges with the server, and the console. The steps of such a process act
on these like the steps of a process whose texts are a map.
-/

namespace SessionKeeper

theorem Console.print_print (s t : String) (c : Console) :
    (c.print s).print t = c.print (s ++ t) := by
  rw [print, print, print, String.append_assoc]

theorem Console.complain_nothing (c : Console) : c.complain "" = c := by
  rw [complain, String.append_empty]

namespace CommandLine

open Program

/-- The stored texts, the session in memory, the exchanges and the console. -/
structure Ledger where
  texts : Texts
  session : Option Session
  exchanges : List Exchange
  console : Console

namespace Ledger

/-- The ledger after a change of a stored text. -/
def put (key value : String) (v : Ledger) : Ledger :=
  { v with texts := v.texts.put key value }

/-- The ledger after the removal of a stored text. -/
def drop (key : String) (v : Ledger) : Ledger :=
  { v with texts := v.texts.drop key }

/-- The ledger with another session in memory. -/
def withSession (session : Option Session) (v : Ledger) : Ledger :=
  { v with session := session }

/-- The ledger after a request was answered. -/
def exchange (request : Http.Request) (answer : Http.Answer) (v : Ledger) : Ledger :=
  { v with exchanges := v.exchanges ++ [⟨request, answer⟩] }

/-- The ledger with another console. -/
def withConsole (console : Console) (v : Ledger) : Ledger :=
  { v with console := console }

/-- The answer to a request that was sent. -/
def answer (v : Ledger) (ticket : Nat) : Http.Answer :=
  match v.exchanges[ticket]? with
  | some exchange => exchange.answer
  | none => .failed .cutShort

end Ledger

/-- What a step of the client does to a ledger. Only the answer of the server is open. -/
def clientEffect : Effects clientSteps Ledger
  | .readSession, v, session, w => session = v.session ∧ w = v
  | .writeSession session, v, _, w => w = v.withSession session
  | .get key, v, found, w => found = .ok (v.texts key) ∧ w = v
  | .set key value, v, result, w => result = .ok () ∧ w = v.put key value
  | .remove key, v, result, w => result = .ok () ∧ w = v.drop key
  | .send request, v, ticket, w =>
    ticket = v.exchanges.length ∧ ∃ answer, w = v.exchange request answer
  | .receive ticket, v, answer, w => answer = v.answer ticket ∧ w = v
  | _, v, _, w => w = v

/-- What a step of a process does to a ledger. -/
def processEffect : Effects processSteps Ledger
  | .client step, v, answer, w => clientEffect step v answer w
  | .print text, v, _, w => w = v.withConsole (v.console.print text)
  | .complain text, v, _, w => w = v.withConsole (v.console.complain text)
  | .readLine, v, line, w =>
    line = v.console.readLine.1 ∧ w = v.withConsole v.console.readLine.2
  | .readPassword _, v, line, w =>
    line = v.console.readPassword.1 ∧ w = v.withConsole v.console.readPassword.2

/-! ## Steps over the file -/

/-- A step in which an access to the storage file failed. -/
def isFailedAccess : Turn processSteps → Bool
  | ⟨.client (.get _), .error (.io _)⟩ => true
  | ⟨.client (.set _ _), .error (.io _)⟩ => true
  | ⟨.client (.remove _), .error (.io _)⟩ => true
  | _ => false

/-- The storage file at the path has the texts of the ledger, and the process has the rest of it. -/
structure Ledger.Of (path : Path) (p : Process) (v : Ledger) : Prop where
  medium : p.world.store.medium = .file path
  filed : ∃ entries : Entries, (FileStore.mk path p.world.store.tree).contents = .ok entries ∧
    entries.get? = v.texts
  session : p.world.session = v.session
  exchanges : p.world.exchanges = v.exchanges
  console : p.console = v.console

namespace Ledger.Of

variable {path : Path} {p : Process} {v : Ledger}

theorem client_get (h : Of path p v) (key : String) :
    Storage.get key p.world.store = .ok (v.texts key) := by
  obtain ⟨entries, hcontents, htexts⟩ := h.filed
  rw [Storage.get, h.medium]
  exact (FileStore.get_of_contents hcontents key).trans (congrArg Except.ok (congrFun htexts key))

/-- A change of the file that goes through is a change of the texts. -/
theorem change (h : Of path p v) {c : Change Storage} {file : Change FileStore} {t : FileTree}
    {events : List Event} {entries : Entries} {u : Ledger}
    (hc : c = p.world.store.ofFile file) (hfile : file = ⟨.ok (), ⟨path, t⟩, events⟩)
    (hcontents : (FileStore.mk path t).contents = .ok entries) (htexts : entries.get? = u.texts)
    (hsession : u.session = v.session) (hexchanges : u.exchanges = v.exchanges)
    (hconsole : u.console = v.console) :
    (p.world.change c).1 = .ok () ∧ Of path { p with world := (p.world.change c).2 } u := by
  subst hc hfile
  exact ⟨rfl, h.medium, ⟨entries, hcontents, htexts⟩, h.session.trans hsession.symm,
    h.exchanges.trans hexchanges.symm, h.console.trans hconsole.symm⟩

theorem client_set (h : Of path p v) (key value : String)
    (hio : ∀ e, (Storage.set key value p.world.store).result ≠ .error (.io e)) :
    (p.world.change (Storage.set key value p.world.store)).1 = .ok () ∧
      Of path { p with world := (p.world.change (Storage.set key value p.world.store)).2 }
        (v.put key value) := by
  obtain ⟨entries, hcontents, htexts⟩ := h.filed
  have hset : Storage.set key value p.world.store = p.world.store.ofFile
      (Store.set key value (FileStore.mk path p.world.store.tree)) := by
    rw [Storage.set, h.medium]
  rw [hset] at hio
  obtain ⟨t, events, hfile, -, hcontents'⟩ := FileStore.set_of_contents hcontents
    (FileStore.writable_of_set hcontents hio) key value
  exact h.change hset hfile hcontents'
    ((Entries.get?_insert entries key value).trans (congrArg _ htexts)) rfl rfl rfl

theorem client_remove (h : Of path p v) (key : String)
    (hio : ∀ e, (Storage.remove key p.world.store).result ≠ .error (.io e)) :
    (p.world.change (Storage.remove key p.world.store)).1 = .ok () ∧
      Of path { p with world := (p.world.change (Storage.remove key p.world.store)).2 }
        (v.drop key) := by
  obtain ⟨entries, hcontents, htexts⟩ := h.filed
  have hremove : Storage.remove key p.world.store = p.world.store.ofFile
      (Store.remove key (FileStore.mk path p.world.store.tree)) := by
    rw [Storage.remove, h.medium]
  rw [hremove] at hio
  cases hkey : entries.contains key with
  | true =>
      obtain ⟨t, events, hfile, -, hcontents'⟩ := FileStore.remove_of_contains hcontents
        (FileStore.writable_of_remove hcontents hkey hio) hkey
      exact h.change hremove hfile hcontents'
        ((Entries.get?_erase entries key).trans (congrArg _ htexts)) rfl rfl rfl
  | false =>
      -- nothing is there to be removed, so nothing is written
      have habsent : entries.get? key = none := by simpa [SortedMap.contains] using hkey
      refine h.change hremove (FileStore.remove_of_not_contains hcontents hkey) hcontents ?_
        rfl rfl rfl
      exact (Texts.drop_of_none habsent).symm.trans (congrArg _ htexts)

/-- What comes back for a request is what the network gives. -/
theorem client_send (h : Of path p v) (request : Http.Request) :
    (p.world.send request).1 = v.exchanges.length ∧
      ∃ answer, Of path { p with world := (p.world.send request).2 }
        (v.exchange request answer) := by
  refine ⟨congrArg List.length h.exchanges, (p.world.network.exchange request).1, h.medium,
    h.filed, h.session, ?_, h.console⟩
  exact congrArg (fun sent => sent ++ [_]) h.exchanges

theorem client_receive (h : Of path p v) (ticket : Nat) :
    p.world.answer ticket = v.answer ticket := by
  rw [World.answer, h.exchanges]
  rfl

/-- A step in which no access to the file fails does to the process what it does to the ledger. -/
theorem step {step : ProcessStep} (h : Of path p v)
    (hturn : isFailedAccess ⟨step, (step.answer p).1⟩ = false) :
    ∃ u, processEffect step v (step.answer p).1 u ∧ Of path (step.answer p).2 u := by
  cases step with
  | print text =>
      exact ⟨_, rfl, h.medium, h.filed, h.session, h.exchanges,
        congrArg (Console.print text) h.console⟩
  | complain text =>
      exact ⟨_, rfl, h.medium, h.filed, h.session, h.exchanges,
        congrArg (Console.complain text) h.console⟩
  | readLine =>
      exact ⟨_, ⟨congrArg (fun c => c.readLine.1) h.console, rfl⟩, h.medium, h.filed, h.session,
        h.exchanges, congrArg (fun c => c.readLine.2) h.console⟩
  | readPassword label =>
      exact ⟨_, ⟨congrArg (fun c => c.readPassword.1) h.console, rfl⟩, h.medium, h.filed,
        h.session, h.exchanges, congrArg (fun c => c.readPassword.2) h.console⟩
  | client step =>
      cases step with
      | get key => exact ⟨v, ⟨h.client_get key, rfl⟩, h⟩
      | set key value =>
          change isFailedAccess ⟨.client (.set key value),
            (Storage.set key value p.world.store).result⟩ = false at hturn
          obtain ⟨hresult, hof⟩ := h.client_set key value fun e he => by
            rw [he] at hturn
            cases hturn
          exact ⟨_, ⟨hresult, rfl⟩, hof⟩
      | remove key =>
          change isFailedAccess ⟨.client (.remove key),
            (Storage.remove key p.world.store).result⟩ = false at hturn
          obtain ⟨hresult, hof⟩ := h.client_remove key fun e he => by
            rw [he] at hturn
            cases hturn
          exact ⟨_, ⟨hresult, rfl⟩, hof⟩
      | send request =>
          obtain ⟨hticket, answer, hof⟩ := h.client_send request
          exact ⟨_, ⟨hticket, answer, rfl⟩, hof⟩
      | receive ticket => exact ⟨v, ⟨h.client_receive ticket, rfl⟩, h⟩
      | readSession => exact ⟨v, ⟨h.session, rfl⟩, h⟩
      | writeSession session =>
          exact ⟨_, rfl, h.medium, h.filed, rfl, h.exchanges, h.console⟩
      | _ => exact ⟨v, rfl, h.medium, h.filed, h.session, h.exchanges, h.console⟩

end Ledger.Of

/-! ## Where actions lead -/

/-- An action, begun with a ledger, can end with a result and another ledger. -/
def Action.Leads {α : Type} (action : Action α) (v : Ledger) (result : Except Failure α)
    (w : Ledger) : Prop :=
  Program.Leads processEffect (ExceptT.run action) v result w

namespace Action

variable {α β : Type} {v w : Ledger}

theorem leads_pure {a : α} {result : Except Failure α} :
    (pure a : Action α).Leads v result w ↔ result = .ok a ∧ w = v :=
  Program.leads_pure

theorem leads_throw {f : Failure} {result : Except Failure α} :
    (throw f : Action α).Leads v result w ↔ result = .error f ∧ w = v :=
  Program.leads_pure

/-- An action ends in the failure of its first part, or goes on from where that led. -/
theorem leads_bind {x : Action α} {f : α → Action β} {result : Except Failure β} :
    (x >>= f).Leads v result w ↔
      (∃ e, result = .error e ∧ x.Leads v (.error e) w) ∨
        ∃ a u, x.Leads v (.ok a) u ∧ (f a).Leads u result w := by
  unfold Leads
  rw [ExceptT.run_bind, Program.leads_bind]
  constructor
  · rintro ⟨first | a, u, hfirst, hrest⟩
    · obtain ⟨rfl, rfl⟩ := Program.leads_pure.mp hrest
      exact .inl ⟨first, rfl, hfirst⟩
    · exact .inr ⟨a, u, hfirst, hrest⟩
  · rintro (⟨e, rfl, hfirst⟩ | ⟨a, u, hfirst, hrest⟩)
    · exact ⟨.error e, w, hfirst, Program.leads_pure.mpr ⟨rfl, rfl⟩⟩
    · exact ⟨.ok a, u, hfirst, hrest⟩

theorem leads_lift {p : Program processSteps α} {result : Except Failure α} :
    Action.Leads (ExceptT.lift p) v result w ↔
      ∃ a, result = .ok a ∧ Program.Leads processEffect p v a w := by
  change Program.Leads processEffect (p >>= fun a => pure (Except.ok a)) v result w ↔ _
  simp only [Program.leads_bind, Program.leads_pure]
  constructor
  · rintro ⟨a, u, hp, rfl, rfl⟩
    exact ⟨a, rfl, hp⟩
  · rintro ⟨a, rfl, hp⟩
    exact ⟨a, w, hp, rfl, rfl⟩

/-- A step does not fail by itself. -/
theorem leads_lift_bind {p : Program processSteps α} {f : α → Action β}
    {result : Except Failure β} :
    Action.Leads (ExceptT.lift p >>= f) v result w ↔
      ∃ a u, Program.Leads processEffect p v a u ∧ (f a).Leads u result w := by
  rw [leads_bind]
  constructor
  · rintro (⟨e, -, hfirst⟩ | ⟨a, u, hfirst, hrest⟩)
    · obtain ⟨a, ha, -⟩ := leads_lift.mp hfirst
      cases ha
    · obtain ⟨b, hb, hp⟩ := leads_lift.mp hfirst
      exact ⟨a, u, Except.ok.inj hb ▸ hp, hrest⟩
  · rintro ⟨a, u, hp, hrest⟩
    exact .inr ⟨a, u, leads_lift.mpr ⟨a, rfl, hp⟩, hrest⟩

theorem leads_step_bind {s : ProcessStep} {f : s.Answer → Action β} {result : Except Failure β} :
    (step s >>= f).Leads v result w ↔
      ∃ answer u, processEffect s v answer u ∧ (f answer).Leads u result w := by
  rw [step, leads_lift_bind]
  exact exists_congr fun _ => exists_congr fun _ => and_congr_left fun _ => Program.leads_perform

theorem leads_translate {op : Operation α} {a : α} :
    Program.Leads processEffect
        (Program.translate (J := processSteps) ProcessStep.client (fun _ a => a) op) v a w ↔
      Program.Leads clientEffect op v a w := by
  induction op generalizing v with
  | done b => exact Program.leads_pure.trans Program.leads_pure.symm
  | ask step resume ih => simp only [Program.translate, Program.leads_ask, ih]; rfl

/-- An operation of the client leads where it leads by itself. -/
theorem leads_perform_bind {op : Operation α} {f : α → Action β} {result : Except Failure β} :
    (perform op >>= f).Leads v result w ↔
      ∃ a u, Program.Leads clientEffect op v a u ∧ (f a).Leads u result w := by
  rw [perform, leads_lift_bind]
  simp only [leads_translate]

theorem leads_say_bind {text : String} {f : Unit → Action β} {result : Except Failure β} :
    (say text >>= f).Leads v result w ↔
      (f ()).Leads (v.withConsole (v.console.print text)) result w := by
  rw [say, leads_step_bind]
  exact ⟨fun ⟨_, _, hu, h⟩ => hu ▸ h, fun h => ⟨(), _, rfl, h⟩⟩

theorem leads_complain_bind {text : String} {f : Unit → Action β} {result : Except Failure β} :
    (complain text >>= f).Leads v result w ↔
      (f ()).Leads (v.withConsole (v.console.complain text)) result w := by
  rw [complain, leads_step_bind]
  exact ⟨fun ⟨_, _, hu, h⟩ => hu ▸ h, fun h => ⟨(), _, rfl, h⟩⟩

theorem leads_say {text : String} {result : Except Failure Unit} :
    (say text).Leads v result w ↔
      result = .ok () ∧ w = v.withConsole (v.console.print text) := by
  rw [← bind_pure (say text), leads_say_bind, leads_pure]

theorem leads_demand {ε : Type} {failure : ε → Failure} {found : Except ε α}
    {result : Except Failure α} :
    (demand failure found).Leads v result w ↔ result = found.mapError failure ∧ w = v := by
  cases found with
  | ok a => exact leads_pure
  | error e => exact leads_throw

/-- What was found is gone on with. -/
theorem leads_demand_ok_bind {ε : Type} {failure : ε → Failure} {a : α} {f : α → Action β}
    {result : Except Failure β} :
    (demand failure (.ok a) >>= f).Leads v result w ↔ (f a).Leads v result w := by
  rw [demand, pure_bind]

/-- In a process over a file in which no access fails, an action does to the process what it does to
the ledger. -/
theorem leads_run {action : Action α} {path : Path} {p : Process} (h : Ledger.Of path p v)
    (hturns : ∀ turn ∈ Program.turns processHandler (ExceptT.run action) p,
      isFailedAccess turn = false) :
    ∃ u, action.Leads v (action.run p).1 u ∧ Ledger.Of path (action.run p).2 u :=
  Program.leads_of_related (fun _ _ _ hof hturn => hof.step hturn) h hturns

end Action

end CommandLine

end SessionKeeper
