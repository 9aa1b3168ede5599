import SessionKeeper.CommandLine.Console
import SessionKeeper.CommandLine.Failure
import SessionKeeper.Storage
import SessionKeeper.World

/-!
# Processes

What a running program asks for: steps of the client, and lines and texts of the console. An action
is a program of such steps that ends in a value or in a failure; what was done before it failed
stays done.
-/

namespace SessionKeeper.CommandLine

/-- One step of a running program. -/
inductive ProcessStep
  | client (step : ClientStep)
  | print (text : String)
  | complain (text : String)
  | readLine
  | readPassword (label : String)

/-- What a step answers. -/
abbrev ProcessStep.Answer : ProcessStep → Type
  | .client step => step.Answer
  | .print _ => Unit
  | .complain _ => Unit
  | .readLine => Except IoError String
  | .readPassword _ => Except IoError String

/-- The interface of the steps of a running program. -/
abbrev processSteps : Interface :=
  ⟨ProcessStep, ProcessStep.Answer⟩

/-- Something that a running program does and that can fail. -/
abbrev Action (α : Type) := ExceptT Failure (Program processSteps) α

namespace Action

/-- Asks for one step. -/
def step (s : ProcessStep) : Action s.Answer :=
  ExceptT.lift (Program.perform (I := processSteps) s)

/-- Runs an operation of the client. -/
def perform {α : Type} (op : Operation α) : Action α :=
  ExceptT.lift (Program.translate (J := processSteps) ProcessStep.client (fun _ a => a) op)

/-- Gives the value of a result, or ends in the failure that it amounts to. -/
def demand {ε α : Type} (failure : ε → Failure) : Except ε α → Action α
  | .ok a => pure a
  | .error e => throw (failure e)

/-- Prints a text. -/
def say (s : String) : Action Unit :=
  step (.print s)

/-- Prints a text where errors are printed. -/
def complain (s : String) : Action Unit :=
  step (.complain s)

/-- Asks for a line of the input. -/
def ask (label : String) : Action String := do
  say label
  demand Failure.ofIo (← step .readLine)

/-- The value that was given, or one that is asked for. -/
def orAsk (label : String) : Option String → Action String
  | some value => pure value
  | none => ask label

/-- Asks for a password at the terminal. -/
def askPassword (label : String) : Action String := do
  demand Failure.ofIo (← step (.readPassword label))

end Action

/-- A running program. -/
structure Process where
  console : Console
  world : World Storage

/-- How a step acts on the process. -/
def ProcessStep.answer : (step : ProcessStep) → Process → step.Answer × Process
  | .client step, p =>
    match step.answer p.world with
    | (answer, world) => (answer, { p with world := world })
  | .print text, p => ((), { p with console := p.console.print text })
  | .complain text, p => ((), { p with console := p.console.complain text })
  | .readLine, p =>
    match p.console.readLine with
    | (line, console) => (line, { p with console := console })
  | .readPassword _, p =>
    match p.console.readPassword with
    | (line, console) => (line, { p with console := console })

/-- A running program has no other to wait for. -/
def processHandler : Handler processSteps Process :=
  ⟨ProcessStep.answer, fun _ _ => false⟩

/-- Does all that an action asks for. -/
def Action.run {α : Type} (action : Action α) (p : Process) : Except Failure α × Process :=
  Program.run processHandler (ExceptT.run action) p

namespace Action

/-- An operation of the client leaves the console alone and cannot fail. -/
theorem run_perform {α : Type} (op : Operation α) (p : Process) :
    (perform op).run p = (.ok (op.run p.world).1, { p with world := (op.run p.world).2 }) := by
  have htranslate : ∀ p : Process,
      Program.run processHandler
          (Program.translate (J := processSteps) ProcessStep.client (fun _ a => a) op) p =
        ((op.run p.world).1, { p with world := (op.run p.world).2 }) := by
    induction op with
    | done a => intro p; rfl
    | ask step resume ih =>
      intro p
      exact ih (step.answer p.world).1 { p with world := (step.answer p.world).2 }
  change Program.run processHandler (Except.ok <$> Program.translate (J := processSteps)
    ProcessStep.client (fun _ a => a) op) p = _
  rw [Program.run_map, htranslate]

end Action

end SessionKeeper.CommandLine
