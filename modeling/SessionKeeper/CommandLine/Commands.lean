import SessionKeeper.CommandLine.Arguments
import SessionKeeper.CommandLine.Process
import SessionKeeper.Form
import SessionKeeper.Manager
import SessionKeeper.Preference

/-!
# Commands

What each command does and prints. The commands about the session take the stored one into memory
first; one that is damaged or cannot be read counts as none. Nothing is sent before the form is
without problems.
-/

namespace SessionKeeper.CommandLine

open SessionKeeper.CommandLine.Action

/-- Takes the stored session into memory. -/
def restore : Action (Option Session) := do
  match ← perform Manager.bootstrap with
  | .ok session => return session
  | .error e =>
    perform (Operation.report .debug "No usable stored session" [("error", e.message)])
    return none

/-- Prints the problems of a form, and fails if there are any. -/
def checkForm : List FormError → Action Unit
  | [] => pure ()
  | errors => do
    complain (String.join (errors.map fun e => s!"  - {e.message}\n"))
    throw (Failure.plain s!"Please correct the {errors.length} problem(s) above")

/-- Signs in. -/
def login (c : ApiClient) (email? : Option String) : Action Unit := do
  let _ ← restore
  let email ← orAsk "Email: " email?
  let password ← askPassword "Password: "
  checkForm (LoginForm.validate ⟨email, password⟩)
  say "\nAuthenticating...\n"
  let session ← demand Failure.ofManager (← perform (Manager.signIn c ⟨email, password⟩))
  say s!"Signed in as {session.displayName}\n"

/-- Registers, and signs in. -/
def register (c : ApiClient) (name? email? : Option String) : Action Unit := do
  let _ ← restore
  let name ← orAsk "Name: " name?
  let email ← orAsk "Email: " email?
  let password ← askPassword "Password: "
  let confirmation ← askPassword "Confirm password: "
  checkForm (RegisterForm.validate ⟨name, email, password, confirmation⟩)
  say "\nCreating account...\n"
  let session ← demand Failure.ofManager
    (← perform (Manager.registerUser c ⟨email, password⟩ (some (Text.trim name))))
  say s!"Welcome, {session.displayName}! (user id {session.id})\n"

/-- Forgets the stored session. -/
def logout : Action Unit := do
  let _ ← restore
  let wasSignedIn ← perform Manager.isSignedIn
  demand Failure.ofManager (← perform Manager.signOut)
  say (if wasSignedIn then "Signed out\n" else "Not signed in\n")

/-- The session as a document, without its token. -/
def shownSession : Option Session → Json.Value
  | none => .null
  | some session => session.redacted.toValue

/-- Who is signed in, as a reader is told. -/
def describeSession : Option Session → String
  | none => "Not signed in\n"
  | some session =>
    s!"Signed in as {session.displayName}\n" ++
      s!"  email: {session.email}\n" ++
      s!"  id:    {session.id}\n"

/-- Shows who is signed in. -/
def status (asJson : Bool) : Action Unit := do
  let session ← restore
  if asJson then say ((shownSession session).pretty ++ "\n")
  else
    say (describeSession session)
    let answer := if ← perform Auth.isAuthenticated then "yes" else "no"
    say s!"  stored session: {answer}\n"

/-- Shows or changes the colour mode. -/
def theme (action : ThemeAction) : Action Unit := do
  let mode ← match action with
    | .view => perform Preference.load
    | .toggle => demand Failure.ofStore (← perform Preference.toggle)
    | .set mode => do
      demand Failure.ofStore (← perform (Preference.set mode))
      pure mode
  say s!"Colour mode: {mode.label}\n"

/-- What a command does. -/
def Command.action (c : ApiClient) : Command → Action Unit
  | .login email? => CommandLine.login c email?
  | .register name? email? => CommandLine.register c name? email?
  | .logout => CommandLine.logout
  | .status asJson => CommandLine.status asJson
  | .theme action => CommandLine.theme action

end SessionKeeper.CommandLine
