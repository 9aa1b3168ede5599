import Mathlib.Control.Monad.Basic
import Mathlib.Logic.Function.Iterate
import SessionKeeper.Preference
import SessionKeeper.World

/-!
# The mode that is stored

What a store says about the mode, and how loading and toggling come down to one call of the store
each: a toggle reads the mode first, and knows from then on which mode it is to write.
-/

namespace SessionKeeper

namespace ColorMode

/-- A mode comes back from the text that it is stored as. -/
theorem parse_render (mode : ColorMode) : parse mode.render = .ok mode := by
  cases mode <;> decide +kernel

theorem iterate_toggled (mode : ColorMode) (n : Nat) :
    toggled^[n] mode = if n % 2 = 0 then mode else mode.toggled := by
  induction n with
  | zero => rfl
  | succ n ih =>
      rw [Function.iterate_succ_apply', ih]
      rcases Nat.mod_two_eq_zero_or_one n with h | h
      · rw [if_pos h, if_neg (by omega)]
      · rw [if_neg (by omega), if_pos (by omega)]
        cases mode <;> rfl

theorem iterate_toggled_eq_iff (mode : ColorMode) (m n : Nat) :
    toggled^[m] mode = toggled^[n] mode ↔ m % 2 = n % 2 := by
  rw [iterate_toggled, iterate_toggled]
  rcases Nat.mod_two_eq_zero_or_one m with hm | hm <;>
    rcases Nat.mod_two_eq_zero_or_one n with hn | hn <;>
    cases mode <;> simp [hm, hn, ColorMode.toggled]

end ColorMode

namespace Preference

/-- The mode that an answer of the store stands for. -/
def modeOf : Except StoreError (Option String) → ColorMode
  | .ok (some text) => (ColorMode.parse text).toOption.getD .initial
  | _ => .initial

/-- The mode that a store holds. -/
def stored {σ : Type} [Store σ] (s : σ) : ColorMode :=
  modeOf (Store.get ColorMode.key s)

/-- An operation that gives a result, and may have something to report first. -/
inductive Gives {α : Type} (a : α) : Operation α → Prop
  | now : Gives a (.done a)
  | later (event : Event) : Gives a (.ask (.report event) fun _ => .done a)

theorem Gives.run_fst {α σ : Type} [Store σ] {a : α} {op : Operation α} (h : Gives a op)
    (w : World σ) : (op.run w).1 = a := by
  cases h <;> rfl

theorem exists_load_eq : ∃ resume, load = .ask (.get ColorMode.key) resume ∧
    ∀ answer, Gives (modeOf answer) (resume answer) := by
  refine ⟨_, rfl, fun answer => ?_⟩
  rw [Program.bind_done]
  match answer with
  | .error e => exact .later _
  | .ok none => exact .now
  | .ok (some text) =>
      dsimp only [modeOf]
      cases ColorMode.parse text with
      | ok mode => exact .now
      | error e => exact .later _

theorem load_run {σ : Type} [Store σ] (w : World σ) : (load.run w).1 = stored w.store := by
  obtain ⟨resume, hload, hresume⟩ := exists_load_eq
  rw [Operation.run, hload, Program.run_ask]
  exact (hresume (Store.get ColorMode.key w.store)).run_fst w

/-- What is left of a toggle once it knows which mode to write. -/
def storing (next : ColorMode) : Operation (Except StoreError ColorMode) := do
  match ← set next with
  | .error e => return .error e
  | .ok () => return .ok next

theorem toggle_eq : toggle = load.bind fun mode => storing mode.toggled :=
  rfl

theorem exists_storing_eq (next : ColorMode) :
    ∃ resume, storing next = .ask (.set ColorMode.key next.render) resume ∧
      Gives (.ok next) (resume (.ok ())) :=
  ⟨_, rfl, .later _⟩

end Preference

end SessionKeeper
