import SessionKeeper.ColorMode
import SessionKeeper.Settings

/-!
# Arguments

The commands, their options, and how a list of arguments is read. Each command has a level of its
own, at which an option may be given once; the option that selects the store may be given at every
level, and the deepest one counts. Nothing that begins with a hyphen is taken for the value of an
option.
-/

namespace SessionKeeper.CommandLine

/-- What is done with the colour preference. -/
inductive ThemeAction
  | view
  | toggle
  | set (mode : ColorMode)
  deriving DecidableEq, Repr

/-- A command. Options that are missing are asked for. -/
inductive Command
  | login (email : Option String)
  | register (name email : Option String)
  | logout
  | status (asJson : Bool)
  | theme (action : ThemeAction)
  deriving DecidableEq, Repr

/-- A command, and the store it was told to use. -/
structure Invocation where
  backend : Option Backend
  command : Command
  deriving DecidableEq, Repr

/-- The program, one of its commands, or a command below a command. -/
inductive Level
  | program
  | login
  | register
  | logout
  | status
  | theme
  | themeAction (action : ThemeAction)
  deriving DecidableEq, Repr

/-- The options of all levels. -/
inductive Flag
  | store
  | email
  | name
  | json
  | help
  | version
  deriving DecidableEq, Repr

namespace Level

/-- The commands of a level by their names. -/
def commands : Level → List (String × Level)
  | .program =>
    [("login", .login), ("register", .register), ("logout", .logout), ("status", .status),
      ("theme", .theme)]
  | .theme =>
    [("show", .themeAction .view), ("toggle", .themeAction .toggle),
      ("light", .themeAction (.set .light)), ("dark", .themeAction (.set .dark))]
  | _ => []

/-- The options of a level by their long names. -/
def flags : Level → List (String × Flag)
  | .program => [("store", .store), ("help", .help), ("version", .version)]
  | .login => [("email", .email), ("store", .store), ("help", .help)]
  | .register => [("name", .name), ("email", .email), ("store", .store), ("help", .help)]
  | .status => [("json", .json), ("store", .store), ("help", .help)]
  | _ => [("store", .store), ("help", .help)]

/-- The options of a level by their letters. -/
def letters : Level → List (Char × Flag)
  | .program => [('h', .help), ('V', .version)]
  | _ => [('h', .help)]

/-- The words that lead to a level. -/
def path : Level → List String
  | .program => ["alleasy"]
  | .login => ["alleasy", "login"]
  | .register => ["alleasy", "register"]
  | .logout => ["alleasy", "logout"]
  | .status => ["alleasy", "status"]
  | .theme => ["alleasy", "theme"]
  | .themeAction .view => ["alleasy", "theme", "show"]
  | .themeAction .toggle => ["alleasy", "theme", "toggle"]
  | .themeAction (.set mode) => ["alleasy", "theme", mode.label]

end Level

/-- Why arguments make no invocation. -/
inductive UsageError
  | missingCommand
  | unknownCommand (word : String)
  | unknownOption (argument : String)
  | missingValue (option : String)
  | unneededValue (option : String)
  | repeatedOption (option : String)
  | unknownBackend (name : String)
  | unexpectedArgument (argument : String)
  deriving DecidableEq, Repr

/-- The wording of the error. -/
def UsageError.message : UsageError → String
  | .missingCommand => "a command is required"
  | .unknownCommand word => s!"unrecognized command '{word}'"
  | .unknownOption argument => s!"unexpected option '{argument}'"
  | .missingValue option => s!"a value is required for '{option}'"
  | .unneededValue option => s!"no value is allowed for '{option}'"
  | .repeatedOption option => s!"the option '{option}' cannot be used multiple times"
  | .unknownBackend name => Backend.unknownMessage name
  | .unexpectedArgument argument => s!"unexpected argument '{argument}'"

/-- What arguments ask for. -/
inductive Request
  | invoke (invocation : Invocation)
  | version
  | help (level : Level)
  deriving DecidableEq, Repr

/-- The options that were given so far, at all levels. -/
structure Options where
  backend : Option Backend
  email : Option String
  name : Option String
  asJson : Bool
  deriving DecidableEq, Repr

/-- No options. -/
def Options.none : Options :=
  ⟨.none, .none, .none, false⟩

/-- The form of an argument. -/
inductive ArgumentForm
  | separator
  | long (name : String) (value : Option String)
  | short (letter : Char)
  | word
  deriving DecidableEq, Repr

/-- Splits at the first equals sign. -/
def splitValue : List Char → List Char × Option (List Char)
  | [] => ([], none)
  | c :: cs =>
    if c = '=' then ([], some cs)
    else
      match splitValue cs with
      | (name, value) => (c :: name, value)

/-- The form of an argument. A single hyphen is a word. -/
def ArgumentForm.of (argument : String) : ArgumentForm :=
  match argument.toList with
  | ['-', '-'] => .separator
  | '-' :: '-' :: cs =>
    match splitValue cs with
    | (name, value) => .long (String.ofList name) (value.map String.ofList)
  | '-' :: c :: _ => .short c
  | _ => .word

/-- What the command of a level is, when its arguments are read. -/
def finish (options : Options) : Level → Except UsageError Command
  | .program => .error .missingCommand
  | .login => .ok (.login options.email)
  | .register => .ok (.register options.name options.email)
  | .logout => .ok .logout
  | .status => .ok (.status options.asJson)
  | .theme => .ok (.theme .view)
  | .themeAction action => .ok (.theme action)

/-- Takes in an option with its value. -/
def Options.add (options : Options) (flag : Flag) (value : String) : Except UsageError Options :=
  match flag with
  | .store =>
    match Backend.ofName value with
    | .ok backend => .ok { options with backend := some backend }
    | .error name => .error (.unknownBackend name)
  | .email => .ok { options with email := some value }
  | .name => .ok { options with name := some value }
  | .json => .ok { options with asJson := true }
  | .help => .ok options
  | .version => .ok options

/-- The level whose help is asked for by words. -/
def helpTopic (level : Level) : List String → Except UsageError Request
  | [] => .ok (.help level)
  | word :: rest =>
    match level.commands.lookup word with
    | some level => helpTopic level rest
    | none => .error (.unknownCommand word)

/-- Reads the arguments behind those that led to a level, at which some options were given
before. -/
def readArguments (level : Level) (given : List Flag) (options : Options) :
    List String → Except UsageError Request
  | [] => (finish options level).map fun command => .invoke ⟨options.backend, command⟩
  | argument :: rest =>
    match ArgumentForm.of argument with
    | .separator =>
      match rest with
      | [] => (finish options level).map fun command => .invoke ⟨options.backend, command⟩
      | extra :: _ => .error (.unexpectedArgument extra)
    | .short letter =>
      match level.letters.lookup letter with
      | some .version => .ok .version
      | some _ => .ok (.help level)
      | none => .error (.unknownOption argument)
    | .long name value? =>
      match level.flags.lookup name with
      | none => .error (.unknownOption argument)
      | some .help => if value?.isSome then .error (.unneededValue argument) else .ok (.help level)
      | some .version => if value?.isSome then .error (.unneededValue argument) else .ok .version
      | some .json =>
        if value?.isSome then .error (.unneededValue argument)
        else if given.contains .json then .error (.repeatedOption argument)
        else readArguments level (.json :: given) { options with asJson := true } rest
      | some flag =>
        if given.contains flag then .error (.repeatedOption argument)
        else
          match value?, rest with
          | some value, rest =>
            match options.add flag value with
            | .error e => .error e
            | .ok options => readArguments level (flag :: given) options rest
          | none, [] => .error (.missingValue argument)
          | none, value :: rest =>
            if ArgumentForm.of value = .word then
              match options.add flag value with
              | .error e => .error e
              | .ok options => readArguments level (flag :: given) options rest
            else .error (.missingValue argument)
    | .word =>
      match level.commands.lookup argument with
      | some level => readArguments level [] options rest
      | none =>
        if argument = "help" ∧ level.commands ≠ [] then helpTopic level rest
        else .error (.unknownCommand argument)

/-- Reads the arguments of the program. -/
def Request.ofArguments (arguments : List String) : Except UsageError Request :=
  readArguments .program [] .none arguments

end SessionKeeper.CommandLine
