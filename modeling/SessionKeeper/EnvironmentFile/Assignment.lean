import SessionKeeper.Text.Alphanumeric
import SessionKeeper.Text.Blank

/-!
# Assignments of an environment file

A line assigns a value to a name, with or without `export` in front. In a value, single quotes keep
everything, double quotes keep blanks, a backslash keeps the next character, and a dollar sign puts
in the value of another name.
-/

namespace SessionKeeper.EnvironmentFile

/-- The values of other names. A name without one stands for the empty text. -/
abbrev Lookup := String → String

/-- Where the reader of a value stands. `quoted` tells whether double quotes are open. -/
inductive ValueState
  | plain (quoted : Bool)
  | escaped (quoted : Bool)
  | single
  | reference (quoted : Bool) (name : List Char)
  | braced (quoted : Bool) (name : List Char)
  | ended
  deriving DecidableEq, Repr

/-- The character that a backslash keeps or makes of the next one. -/
def escape? (c : Char) : Option Char :=
  if ['\\', '\'', '"', '$', ' '].contains c then some c
  else if c = 'n' then some '\n'
  else none

/-- A character of a value outside single quotes, references and escapes. -/
def readPlain (quoted : Bool) (c : Char) : List Char × ValueState :=
  if c = '$' then ([], .reference quoted [])
  else if c = '\\' then ([], .escaped quoted)
  else if c = '"' then ([], .plain !quoted)
  else if quoted then ([c], .plain true)
  else if c = '\'' then ([], .single)
  else if c = ' ' ∨ c = '\t' then ([], .ended)
  else ([c], .plain false)

/-- A character behind the name of a reference without braces. It ends the name and stands for
itself, unless it begins another reference or the braces. -/
def endReference (look : Lookup) (quoted : Bool) (name : List Char) (c : Char) :
    List Char × ValueState :=
  if c = '{' ∧ name = [] then ([], .braced quoted [])
  else
    let value := (look (String.ofList name)).toList
    if c = '$' then (value, .reference quoted []) else (value ++ [c], .plain quoted)

/-- What a character adds to a value, and where the reader stands behind it. -/
def readValueChar (look : Lookup) (c : Char) : ValueState → Option (List Char × ValueState)
  | .plain quoted => some (readPlain quoted c)
  | .escaped quoted => (escape? c).map fun c => ([c], .plain quoted)
  | .single => if c = '\'' then some ([], .plain false) else some ([c], .single)
  | .reference quoted name =>
    if Text.isAlphanumeric c then some ([], .reference quoted (name ++ [c]))
    else some (endReference look quoted name c)
  | .braced quoted name =>
    if c = '}' then some ((look (String.ofList name)).toList, .plain quoted)
    else some ([], .braced quoted (name ++ [c]))
  | .ended => if c = ' ' ∨ c = '\t' then some ([], .ended) else none

/-- What is left of a value at the end of the line. Open quotes and braces make no value. -/
def finishValue (look : Lookup) : ValueState → Option (List Char)
  | .plain false => some []
  | .escaped false => some []
  | .reference false name => some (look (String.ofList name)).toList
  | .ended => some []
  | _ => none

/-- Reads a value to the end of the line, or to a comment behind it. -/
def readValue (look : Lookup) : ValueState → List Char → Option (List Char)
  | state, [] => finishValue look state
  | state, c :: cs =>
    if state = .ended ∧ c = '#' then some []
    else
      match readValueChar look c state with
      | none => none
      | some (added, state) => (readValue look state cs).map fun rest => added ++ rest

/-- Whether a name may begin with a character. -/
def isNameStart (c : Char) : Bool :=
  c.isAlpha || c == '_'

/-- Whether a character may stand in a name. -/
def isNameChar (c : Char) : Bool :=
  c.isAlphanum || c == '_' || c == '.'

/-- Reads a name and the blanks behind it. -/
def readName (cs : List Char) : Option (List Char × List Char) :=
  match cs.head? with
  | none => none
  | some c =>
    if isNameStart c then
      some (cs.takeWhile isNameChar, (cs.dropWhile isNameChar).dropWhile Text.isBlank)
    else none

/-- Reads a name and the equals sign behind it. The name may follow the word `export`, which is a
name itself when the equals sign follows it. -/
def readTarget (cs : List Char) : Option (List Char × List Char) :=
  match readName cs with
  | none => none
  | some (name, '=' :: rest) => some (name, rest)
  | some (name, rest) =>
    if name = "export".toList then
      match readName rest with
      | some (name, '=' :: rest) => some (name, rest)
      | _ => none
    else none

/-- What a line comes to: nothing, an assignment, or something that cannot be read. -/
inductive LineContent
  | nothing
  | assignment (name value : String)
  | malformed
  deriving DecidableEq, Repr

/-- Whether characters hold nothing but a comment. -/
def isEmptyOrComment (cs : List Char) : Bool :=
  cs.head? == none || cs.head? == some '#'

/-- Reads a line. -/
def readLine (look : Lookup) (line : List Char) : LineContent :=
  let cs := Text.trimChars line
  if isEmptyOrComment cs then .nothing
  else
    match readTarget cs with
    | none => .malformed
    | some (name, rest) =>
      let rest := rest.dropWhile Text.isBlank
      if isEmptyOrComment rest then .assignment (String.ofList name) ""
      else
        match readValue look (.plain false) rest with
        | none => .malformed
        | some value => .assignment (String.ofList name) (String.ofList value)

end SessionKeeper.EnvironmentFile
