import SessionKeeper.ColorMode
import SessionKeeper.Step

/-!
# The colour preference

Reads and changes the stored colour mode. What cannot be read or understood counts as no preference.
-/

namespace SessionKeeper.Preference

/-- The preferred mode. -/
def load : Operation ColorMode := do
  match ← Operation.get ColorMode.key with
  | .ok none => return .initial
  | .error e =>
    Operation.report .warn "Could not read theme preference" [("error", e.message)]
    return .initial
  | .ok (some text) =>
    match ColorMode.parse text with
    | .ok mode => return mode
    | .error e =>
      Operation.report .warn "Theme preference is damaged, using default" [("error", e.message)]
      return .initial

/-- Stores a preference. -/
def set (mode : ColorMode) : Operation (Except StoreError Unit) := do
  match ← Operation.set ColorMode.key mode.render with
  | .error e => return .error e
  | .ok () =>
    Operation.report .debug "Theme preference saved" [("mode", mode.label)]
    return .ok ()

/-- Stores the mode that is not preferred, and gives it. -/
def toggle : Operation (Except StoreError ColorMode) := do
  let next := (← load).toggled
  match ← set next with
  | .error e => return .error e
  | .ok () => return .ok next

end SessionKeeper.Preference
