/-!
# Kinds of errors

What callers tell apart without looking into an error.
-/

namespace SessionKeeper

/-- What an error is about. -/
inductive ErrorKind
  | network
  | authRejected
  | notFound
  | server
  | storage
  deriving DecidableEq, Repr

end SessionKeeper
