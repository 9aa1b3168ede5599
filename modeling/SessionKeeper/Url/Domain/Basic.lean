import SessionKeeper.Text.Composition
import SessionKeeper.Url.Address
import SessionKeeper.Url.Domain.Direction
import SessionKeeper.Url.Domain.Joiner
import SessionKeeper.Url.Domain.Mapping
import SessionKeeper.Url.Domain.Punycode

/-!
# Domain names

The ASCII form of a domain name. Its characters are taken for what the mapping says, and composed.
A label that is not ASCII then is written in Punycode behind `xn--`; a label that comes in that form
has to be one that could be written so. The characters that could end a host are refused.
-/

namespace SessionKeeper.Url

/-- Characters that no domain name may have in its ASCII form. The mapping lowers capital letters, so
one that is left is refused as well. -/
def isForbidden (c : Char) : Bool :=
  c.toNat ≤ 0x20 || c == '#' || c == '%' || c == '/' || c == ':' || c == '<' || c == '>' ||
    c == '?' || c == '@' || c == '[' || c == '\\' || c == ']' || c == '^' || c == '|' ||
    c.toNat == 0x7F || c.isUpper

/-- Whether a character is ASCII. -/
def isAscii (c : Char) : Bool :=
  c.toNat < 0x80

/-- What labels in Punycode begin with. -/
def punycodeLead : List Char :=
  ['x', 'n', '-', '-']

/-- A label as it comes, and the characters that it stands for. -/
structure Label where
  written : List Char
  meant : List Char

/-- The longest label that is written in Punycode. -/
def longestMeant : Nat := 1000

/-- The longest code that is read as Punycode. -/
def longestCode : Nat := 2000

/-- Whether the characters that Punycode stands for are those of a label that needs it. -/
def needsPunycode (meant : List Char) : Bool :=
  !meant.all isAscii && meant.all isPlain && Text.compose meant == meant

/-- Reads the code of a label in Punycode. -/
def Label.ofCode (code : List Char) : Option Label :=
  if longestCode < code.length then none
  else
    match Punycode.decode code with
    | none => none
    | some meant =>
      if needsPunycode meant then some ⟨punycodeLead ++ code, meant⟩ else none

/-- Reads a label whose characters are mapped and composed. -/
def Label.read (cs : List Char) : Option Label :=
  if cs.take 4 = punycodeLead then
    if cs.all isAscii then Label.ofCode (cs.drop 4) else none
  else if cs.all isAscii then some ⟨cs, cs⟩
  else if longestMeant < cs.length then none
  else some ⟨punycodeLead ++ Punycode.encode cs, cs⟩

/-- Whether a label begins with no mark and has joiners only where they make a difference. -/
def Label.isValid (l : Label) : Bool :=
  !(l.meant.head?.any Text.isMark) && areJoinersIn [] l.meant

/-- Whether labels have an order on a line that cannot be mistaken. -/
def areOrdered (labels : List Label) : Bool :=
  labels.all (fun l => l.meant.all isAscii) || !(labels.any fun l => isRightToLeft l.meant) ||
    labels.all fun l => isOrdered l.meant

/-- Labels with dots between them. -/
def joinLabels : List (List Char) → List Char
  | [] => []
  | [label] => label
  | label :: rest => label ++ '.' :: joinLabels rest

/-- The labels of a name, as far as they are valid. -/
def readLabels (name : List Char) : Option (List Label) :=
  match mapText name with
  | none => none
  | some mapped =>
    match (splitOn '.' (Text.compose mapped)).mapM Label.read with
    | none => none
    | some labels => if labels.all Label.isValid && areOrdered labels then some labels else none

/-- The ASCII form of a domain name. -/
def domainToAscii (name : List Char) : Option (List Char) :=
  match readLabels name with
  | none => none
  | some labels =>
    let domain := joinLabels (labels.map Label.written)
    if domain.any isForbidden then none else some domain

end SessionKeeper.Url
