import SessionKeeper.Text.Utf8

/-!
# Cutting a text by its bytes

A text can be cut only between two characters. `floorBoundary` looks for such a place from a number
of bytes downwards, and `takeSize` is the text up to it.
-/

namespace SessionKeeper.Text

/-- Whether some of the first characters take exactly `n` bytes. -/
def isBoundary : List Char → Nat → Bool
  | _, 0 => true
  | [], _ + 1 => false
  | c :: cs, n + 1 => c.utf8Size ≤ n + 1 && isBoundary cs (n + 1 - c.utf8Size)

/-- The largest boundary that is at most `n`. -/
def floorBoundary (cs : List Char) : Nat → Nat
  | 0 => 0
  | n + 1 => if isBoundary cs (n + 1) then n + 1 else floorBoundary cs n

/-- The first characters, as long as they take at most `n` bytes together. -/
def takeSize : Nat → List Char → List Char
  | _, [] => []
  | n, c :: cs => if c.utf8Size ≤ n then c :: takeSize (n - c.utf8Size) cs else []

end SessionKeeper.Text
