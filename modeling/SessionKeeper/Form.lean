import SessionKeeper.Text.Blank
import SessionKeeper.Text.Utf8

/-!
# Forms

What is checked before credentials are sent. A form reports every problem, at most one for each
field, in the order of the fields.
-/

namespace SessionKeeper

/-- A problem with what was put into a form. -/
inductive FormError
  | nameRequired
  | emailRequired
  | emailInvalid
  | passwordRequired
  | passwordTooShort
  | confirmationRequired
  | passwordMismatch
  deriving DecidableEq, Repr

/-- The fewest characters of a password. -/
def minPasswordLength : Nat := 6

/-- The wording of a problem. -/
def FormError.message : FormError → String
  | .nameRequired => "Name is required"
  | .emailRequired => "Email is required"
  | .emailInvalid => "Enter a valid email address"
  | .passwordRequired => "Password is required"
  | .passwordTooShort => s!"Password must be at least {minPasswordLength} characters"
  | .confirmationRequired => "Confirm your password"
  | .passwordMismatch => "Passwords must match"

namespace Email

/-- The most bytes of a label of the domain. -/
def labelLimit : Nat := 63

/-- The characters in front of the `@` that are neither letters nor digits. -/
def localMarks : List Char :=
  ".!#$%&'*+/=?^_`\x7b|\x7d~-".toList

/-- Characters that may stand in front of the `@`. -/
def isLocalChar (c : Char) : Bool :=
  c.isAlphanum || localMarks.contains c

/-- Characters that may stand in a label of the domain. -/
def isLabelChar (c : Char) : Bool :=
  c.isAlphanum || c == '-'

/-- Splits at the first `@`. -/
def splitAt? : List Char → Option (List Char × List Char)
  | [] => none
  | c :: cs =>
    if c = '@' then some ([], cs)
    else (splitAt? cs).map fun (before, behind) => (c :: before, behind)

/-- The labels between dots. -/
def labels : List Char → List (List Char)
  | [] => [[]]
  | c :: cs =>
    match labels cs with
    | [] => [[c]]
    | label :: rest => if c = '.' then [] :: label :: rest else (c :: label) :: rest

/-- Whether the characters may stand in front of the `@`. -/
def isLocal (cs : List Char) : Bool :=
  !cs.isEmpty && cs.all isLocalChar

/-- Whether the characters are a label of a domain. -/
def isLabel (cs : List Char) : Bool :=
  !cs.isEmpty && Text.size cs ≤ labelLimit && cs.head? != some '-' && cs.getLast? != some '-' &&
    cs.all isLabelChar

/-- Whether a text has the form of an email address. The domain needs no dot. -/
def isValid (s : String) : Bool :=
  match splitAt? s.toList with
  | none => false
  | some (before, behind) => isLocal before && !behind.isEmpty && (labels behind).all isLabel

/-- The problem with an email address. -/
def check (s : String) : Option FormError :=
  if Text.allBlank s then some .emailRequired
  else if !isValid s then some .emailInvalid
  else none

end Email

namespace Password

/-- The problem with a password. -/
def check (s : String) : Option FormError :=
  if s = "" then some .passwordRequired
  else if s.length < minPasswordLength then some .passwordTooShort
  else none

/-- The problem with the confirmation of a password. -/
def checkConfirmation (password confirmation : String) : Option FormError :=
  if confirmation = "" then some .confirmationRequired
  else if confirmation ≠ password then some .passwordMismatch
  else none

end Password

/-- What a user signs in with. -/
structure LoginForm where
  email : String
  password : String
  deriving DecidableEq, Repr

/-- The problems of the form. Without any it may be sent. -/
def LoginForm.validate (f : LoginForm) : List FormError :=
  (Email.check f.email).toList ++ (Password.check f.password).toList

/-- What a user registers with. -/
structure RegisterForm where
  name : String
  email : String
  password : String
  confirmation : String
  deriving DecidableEq, Repr

/-- The problems of the form. Without any it may be sent. -/
def RegisterForm.validate (f : RegisterForm) : List FormError :=
  (if Text.allBlank f.name then [.nameRequired] else []) ++
    (Email.check f.email).toList ++ (Password.check f.password).toList ++
    (Password.checkConfirmation f.password f.confirmation).toList

end SessionKeeper
