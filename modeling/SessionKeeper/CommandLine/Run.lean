import SessionKeeper.CommandLine.Commands
import SessionKeeper.EnvironmentFile.Basic

/-!
# Runs of the program

From the arguments to the exit code. Variables of an environment file are set first. Arguments that
make no sense end a run with the code 2, any failure behind them with the code 1.
-/

namespace SessionKeeper.CommandLine

/-- What is there before a run and stays behind it. -/
structure Machine where
  tree : FileTree
  keychain : Keychain
  network : Http.Network
  deriving DecidableEq

/-- What a run leaves behind. -/
structure Completion where
  exitCode : Nat
  console : Console
  machine : Machine
  exchanges : List Exchange

/-- The name and version of the program. -/
def versionLine : String := "alleasy 0.1.0\n"

/-- How the arguments of a level are written. -/
def Level.usage (level : Level) : String :=
  let command := match level with
    | .program => " <COMMAND>"
    | .theme => " [COMMAND]"
    | _ => ""
  "Usage: " ++ " ".intercalate level.path ++ " [OPTIONS]" ++ command ++ "\n"

/-- What is printed about arguments that make no sense. -/
def UsageError.render (e : UsageError) : String :=
  s!"error: {e.message}\n\n{Level.program.usage}\nFor more information, try '--help'.\n"

/-- The settings of a run: those of the file, then those of the environment, then the arguments. -/
def findSettings (t : FileTree) (e : Environment) (backend? : Option Backend) :
    Except Failure Settings :=
  match Settings.load t e.settingsPath with
  | .error error => .error ((Failure.ofSettings error).context "Failed to load config")
  | .ok settings =>
    match settings.override e.text? with
    | .error error => .error (.ofSettings error)
    | .ok settings => .ok { settings with backend := backend?.getD settings.backend }

/-- What the arguments of a run come to. -/
inductive Launch
  | finished (exitCode : Nat) (console : Console)
  | running (action : Action Unit) (process : Process)

/-- The process of a run that has found its settings. -/
def Machine.boot (m : Machine) (medium : Medium) (opening : Event) (console : Console) : Process :=
  ⟨console, { World.start ⟨medium, m.tree, m.keychain, .new⟩ m.network with events := [opening] }⟩

/-- Finds the settings of a command, and makes its client. -/
def Machine.prepare (m : Machine) (e : Environment) (i : Invocation) (console : Console) : Launch :=
  match findSettings m.tree e i.backend with
  | .error f => .finished 1 (console.complain f.render)
  | .ok settings =>
    match ApiClient.new settings with
    | .error error => .finished 1 (console.complain (Failure.ofClient error).render)
    | .ok c => .running (i.command.action c) (m.boot (settings.medium e) settings.opening console)

/-- Begins a run with arguments. -/
def Machine.launch (m : Machine) (e : Environment) (arguments : List String) (console : Console) :
    Launch :=
  match Request.ofArguments arguments with
  | .error error => .finished 2 (console.complain error.render)
  | .ok .version => .finished 0 (console.print versionLine)
  | .ok (.help level) => .finished 0 (console.print level.usage)
  | .ok (.invoke i) => m.prepare (EnvironmentFile.load e m.tree) i console

/-- The code that a run ends with. -/
def exitCode : Except Failure Unit → Nat
  | .ok () => 0
  | .error _ => 1

/-- What is printed at the end of a run. -/
def finalWords : Except Failure Unit → String
  | .ok () => ""
  | .error f => f.render

/-- What a process leaves behind when its action is over. -/
def Process.complete (result : Except Failure Unit) (p : Process) : Completion where
  exitCode := exitCode result
  console := p.console.complain (finalWords result)
  machine := ⟨p.world.store.tree, p.world.store.keychain, p.world.network⟩
  exchanges := p.world.exchanges

/-- Runs the program with arguments. -/
def Machine.run (m : Machine) (e : Environment) (arguments : List String) (console : Console) :
    Completion :=
  match m.launch e arguments console with
  | .finished code console => ⟨code, console, m, []⟩
  | .running action p =>
    match action.run p with
    | (result, p) => p.complete result

/-- A run that gets under way comes to what its process has in the end. -/
theorem Machine.run_of_running {m : Machine} {e : Environment} {arguments : List String}
    {console : Console} {action : Action Unit} {p : Process}
    (h : m.launch e arguments console = .running action p) :
    m.run e arguments console = (action.run p).2.complete (action.run p).1 := by
  rw [run, h]

end SessionKeeper.CommandLine
