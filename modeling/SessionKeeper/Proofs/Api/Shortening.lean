import SessionKeeper.Api.Error
import SessionKeeper.Proofs.Text.Boundary

/-!
# How a long body is cut

A body that is too long is cut at the last boundary within the limit, which is at most three bytes
below it. So the cut never divides a character, and no character is left out that would have fitted.
-/

namespace SessionKeeper.ApiError

/-- A text is the longest beginning of a body, in whole characters, with at most `limit` bytes. -/
structure LongestWithin (limit : Nat) (taken body : String) : Prop where
  start : taken.toList <+: body.toList
  fits : taken.utf8ByteSize ≤ limit
  longest : ∀ p : String, p.toList <+: body.toList → p.utf8ByteSize ≤ limit →
    p.toList <+: taken.toList

/-- The characters in front of the boundary that is found below the limit. -/
def taken (limit : Nat) (body : String) : String :=
  String.ofList (Text.takeSize (Text.floorBoundary body.toList limit) body.toList)

theorem utf8ByteSize_taken (limit : Nat) (body : String) :
    (taken limit body).utf8ByteSize = Text.floorBoundary body.toList limit := by
  rw [taken, Text.utf8ByteSize_ofList]
  exact Text.size_takeSize_of_isBoundary (Text.isBoundary_floorBoundary body.toList limit)

theorem longestWithin_taken (limit : Nat) (body : String) :
    LongestWithin limit (taken limit body) body where
  start := by
    rw [taken, String.toList_ofList]
    exact Text.takeSize_prefix _ body.toList
  fits := by
    rw [utf8ByteSize_taken]
    exact Text.floorBoundary_le body.toList limit
  longest p hp hfits := by
    -- where `p` ends is a boundary, and the search stops at none below it
    have hend : Text.isBoundary body.toList p.utf8ByteSize = true :=
      Text.isBoundary_iff_exists_prefix.mpr ⟨p.toList, hp, Text.size_toList p⟩
    rw [taken, String.toList_ofList]
    refine Text.prefix_takeSize hp ?_
    rw [Text.size_toList]
    exact Text.le_floorBoundary hend hfits

theorem shortened_of_short {body : String} (h : body.utf8ByteSize ≤ bodyLimit) :
    shortened body = body :=
  if_pos h

theorem shortened_eq_taken {body : String} (h : bodyLimit < body.utf8ByteSize) :
    shortened body =
      taken bodyLimit body ++ s!"... (truncated, {body.utf8ByteSize} total bytes)" :=
  if_neg (Nat.not_le_of_lt h)

/-- A body of at most 500 bytes is shown as it is. For a longer one, the search for a boundary from
byte 500 downwards ends after at most three steps, and not below the first byte. The bytes can be
divided where it ends, the ones in front are those of a text, and that text is the longest beginning
of the body in whole characters with at most 500 bytes. It has at least 497, and is shown with a note
on how many bytes the body has. -/
theorem shortened_at_boundary (body : String) :
    (body.utf8ByteSize ≤ 500 → shortened body = body) ∧
      (500 < body.utf8ByteSize → ∃ text steps,
        Text.search body 500 = some (text.utf8ByteSize, steps) ∧ steps ≤ 3 ∧
        (String.Pos.Raw.mk text.utf8ByteSize).IsValid body ∧
        text.toUTF8 = body.toUTF8.extract 0 text.utf8ByteSize ∧
        LongestWithin 500 text body ∧ 497 ≤ text.utf8ByteSize ∧
        shortened body = text ++ s!"... (truncated, {body.utf8ByteSize} total bytes)") := by
  refine ⟨shortened_of_short, fun hlong => ?_⟩
  have hlongest := longestWithin_taken 500 body
  have hsize := utf8ByteSize_taken 500 body
  have hnear : 500 ≤ Text.floorBoundary body.toList 500 + 3 := by
    refine Text.le_floorBoundary_add_three ?_
    rw [Text.size_toList]
    exact Nat.le_of_lt hlong
  refine ⟨taken 500 body, 500 - (taken 500 body).utf8ByteSize, ?_, ?_, ?_,
    Text.toUTF8_of_prefix hlongest.start, hlongest, ?_, shortened_eq_taken hlong⟩
  · rw [Text.search_eq, hsize]
  · omega
  · rw [hsize, ← String.Pos.Raw.isValid_eq_true_iff, ← Text.isBoundary_toList]
    exact Text.isBoundary_floorBoundary body.toList 500
  · omega

/-- A character of four bytes that begins in front of byte 497 takes all three steps. -/
example : Text.search (String.ofList (List.replicate 497 'x' ++ ['😀', '😀'])) 500 =
    some (497, 3) := by
  decide +kernel

end SessionKeeper.ApiError
