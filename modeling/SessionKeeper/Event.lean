/-!
# Log events

What an operation reports while it runs. Fields hold rendered values, in the order they are shown.
-/

namespace SessionKeeper

/-- How much an event matters. -/
inductive Level
  | debug
  | info
  | warn
  deriving DecidableEq, Repr

/-- The name of a level in the log. -/
def Level.label : Level → String
  | .debug => "DEBUG"
  | .info => "INFO"
  | .warn => "WARN"

/-- A message with named values. -/
structure Event where
  level : Level
  message : String
  fields : List (String × String)
  deriving DecidableEq, Repr

/-- The event as a line of the log. -/
def Event.line (e : Event) : String :=
  e.fields.foldl (fun line f => line ++ s!" {f.1}={f.2}") (e.level.label ++ " " ++ e.message)

end SessionKeeper
