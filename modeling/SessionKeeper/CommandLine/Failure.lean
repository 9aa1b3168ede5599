import SessionKeeper.Error
import SessionKeeper.Settings
import SessionKeeper.Api.Client

/-!
# Failures of the command line

What a command that failed prints: the message, and below it what the failure comes from, numbered
when there are several causes.
-/

namespace SessionKeeper

/-- Why a command failed: a message and its causes, outermost first. -/
structure Failure where
  message : String
  causes : List String
  deriving DecidableEq, Repr

namespace Failure

/-- A failure without a cause. -/
def plain (message : String) : Failure :=
  ⟨message, []⟩

/-- The failure of a chain of messages. -/
def ofChain : List String → Failure
  | [] => plain ""
  | message :: causes => ⟨message, causes⟩

/-- The failure that comes from another one. -/
def context (message : String) (f : Failure) : Failure :=
  ⟨message, f.message :: f.causes⟩

/-- A failure to reach a file or a terminal. -/
def ofIo (e : IoError) : Failure :=
  plain e.message

/-- A failure of the store. -/
def ofStore (e : StoreError) : Failure :=
  ⟨e.message, e.sources⟩

/-- A failure of the manager, below what the person at the keyboard is told. -/
def ofManager (e : Error) : Failure :=
  context e.userMessage ⟨e.message, e.sources⟩

/-- A failure to find or understand the settings. -/
def ofSettings (e : SettingsError) : Failure :=
  ofChain e.chain

/-- A failure to make a client. -/
def ofClient (e : ClientError) : Failure :=
  ofChain e.chain

/-- Puts an indentation behind every line feed. -/
def indentLines (indentation : String) (s : String) : String :=
  String.ofList (s.toList.flatMap fun c => if c = '\n' then c :: indentation.toList else [c])

/-- The number of a cause, in five columns. -/
def causeNumber (n : Nat) : String :=
  let digits := toString n
  String.ofList (List.replicate (5 - digits.length) ' ') ++ digits ++ ": "

/-- The causes behind `n` others, each on a line of its own. -/
def numberedCauses (n : Nat) : List String → String
  | [] => ""
  | cause :: causes =>
    "\n" ++ causeNumber n ++ indentLines "       " cause ++ numberedCauses (n + 1) causes

/-- What is printed below the message. -/
def renderCauses : List String → String
  | [] => ""
  | [cause] => "\n\nCaused by:\n    " ++ indentLines "    " cause
  | causes => "\n\nCaused by:" ++ numberedCauses 0 causes

/-- What is printed about a failure. -/
def render (f : Failure) : String :=
  "Error: " ++ f.message ++ renderCauses f.causes ++ "\n"

end Failure

end SessionKeeper
