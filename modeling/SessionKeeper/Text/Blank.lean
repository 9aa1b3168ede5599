/-!
# Blank characters

White space in the sense of the Unicode property `White_Space`, and the text that is left when
it is removed from both ends. The JSON grammar has a smaller class of its own.
-/

namespace SessionKeeper.Text

/-- The characters with the Unicode property `White_Space`. -/
def isBlank (c : Char) : Bool :=
  let n := c.toNat
  (0x9 ≤ n && n ≤ 0xD) || n == 0x20 || n == 0x85 || n == 0xA0 || n == 0x1680 ||
    (0x2000 ≤ n && n ≤ 0x200A) || n == 0x2028 || n == 0x2029 || n == 0x202F || n == 0x205F ||
    n == 0x3000

/-- The characters without the leading and trailing blanks. -/
def trimChars (cs : List Char) : List Char :=
  ((cs.dropWhile isBlank).reverse.dropWhile isBlank).reverse

/-- The text without its leading and trailing blanks. -/
def trim (s : String) : String :=
  String.ofList (trimChars s.toList)

/-- Whether a text has no character but blanks. -/
def allBlank (s : String) : Bool :=
  s.toList.all isBlank

/-- The text without its leading and trailing blanks, ASCII letters lowered. -/
def normalized (s : String) : String :=
  String.ofList ((trimChars s.toList).map Char.toLower)

end SessionKeeper.Text
