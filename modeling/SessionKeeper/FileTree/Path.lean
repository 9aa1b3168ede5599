/-!
# Path texts

A path is kept as it was given, because it is shown as it was given. Its components are what stands
between slashes; a single dot among them means nothing.
-/

namespace SessionKeeper

/-- A path, absolute or relative to a working directory. -/
structure Path where
  text : String
  deriving DecidableEq, Repr, Inhabited

namespace Path

/-- The pieces between the slashes, from the front, with what was collected of the first. -/
def piecesFrom (piece : List Char) : List Char → List (List Char)
  | [] => [piece]
  | c :: cs => if c = '/' then piece :: piecesFrom [] cs else piecesFrom (piece ++ [c]) cs

/-- The components, dots included, empty ones left out. -/
def components (p : Path) : List String :=
  ((piecesFrom [] p.text.toList).filter fun piece => piece != []).map String.ofList

/-- Whether the path starts at the root. -/
def isAbsolute (p : Path) : Bool :=
  p.text.toList.head? == some '/'

/-- Whether the path ends in a slash, so that it can only name a directory. -/
def wantsDirectory (p : Path) : Bool :=
  p.text.toList.getLast? == some '/'

/-- The path of `name` seen from `dir`. An absolute name stands for itself. -/
def join (dir name : Path) : Path :=
  if name.isAbsolute || dir.text == "" then name
  else if dir.wantsDirectory then ⟨dir.text ++ name.text⟩
  else ⟨dir.text ++ "/" ++ name.text⟩

/-- The reversed text without slashes and meaningless dots at its end. -/
def dropTail : List Char → List Char
  | [] => []
  | ['/'] => ['/']
  | ['.'] => ['.']
  | '/' :: cs => dropTail cs
  | '.' :: '/' :: cs => dropTail ('/' :: cs)
  | cs => cs

/-- The reversed text up to the end of the last component. -/
def trimmed (p : Path) : List Char :=
  dropTail p.text.toList.reverse

/-- The last component, if it is a name. -/
def fileName? (p : Path) : Option String :=
  let name := (p.trimmed.takeWhile fun c => c != '/').reverse
  if name = [] ∨ name = ['.', '.'] ∨ name = ['.'] then none else some (String.ofList name)

/-- The path without its last component. The root and the empty path have none to lose. -/
def parent? (p : Path) : Option Path :=
  match p.trimmed with
  | [] => none
  | ['/'] => none
  | cs =>
    match dropTail (cs.dropWhile fun c => c != '/') with
    | rest => some ⟨String.ofList rest.reverse⟩

/-- A name without its last dot and what follows it. The name keeps a dot in front and stays whole
without any other. -/
def stem (name : List Char) : List Char :=
  let before := ((name.reverse.dropWhile fun c => c != '.').drop 1).reverse
  if before = [] then name else before

/-- What follows the last dot of a name that has a stem. -/
def extension (name : List Char) : List Char :=
  name.drop ((stem name).length + 1)

/-- The path with an extension behind the stem of its last component, if that is a name. -/
def setExtension (p : Path) (extension : String) : Path :=
  match p.fileName? with
  | none => p
  | some name =>
    let directory := p.trimmed.dropWhile fun c => c != '/'
    ⟨String.ofList (directory.reverse ++ stem name.toList ++ '.' :: extension.toList)⟩

/-- The path without as many characters at its end as its extension has. It may then end in two
dots, which are no name. -/
def dropExtension (p : Path) (name : List Char) : Path :=
  ⟨String.ofList (p.text.toList.take (p.text.length - (extension name).length))⟩

/-- The path with another extension for its last component, or one more if it has none. -/
def withExtension (p : Path) (extension : String) : Path :=
  match p.fileName? with
  | none => p
  | some name => (p.dropExtension name.toList).setExtension extension

end Path

end SessionKeeper
