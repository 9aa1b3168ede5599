import SessionKeeper.Proofs.Api.Shortening
import SessionKeeper.Proofs.Json.Fields

/-!
# The messages of answers without success

How much of the server's text an error holds. A body that is shown as it came is cut at the limit. A
message that is decoded from the body's `error` field is not, so it is as long as the server makes
it.
-/

namespace SessionKeeper.ApiError

/-! ## Where a message comes from -/

/-- The message that an error holds of an answer without success. -/
def held? : ApiError → Option String
  | .authRejected _ message => some message
  | .notFound message => some message
  | .serverError _ message => some message
  | .network _ => none
  | .invalidResponse _ => none

/-- The message under `error` in a body, as it is decoded. -/
def decoded? (body : String) : Option String :=
  (Json.readWhole bodyShape.read body).toOption

/-- What is put behind a text of `n` bytes that was cut. -/
def cutNote (n : Nat) : String :=
  s!"... (truncated, {n} total bytes)"

/-- A message has at most 500 bytes from the server, and nothing else but a note that there was
more. -/
def IsBounded (message : String) : Prop :=
  ∃ taken : String, taken.utf8ByteSize ≤ 500 ∧
    (message = taken ∨ ∃ n, message = taken ++ cutNote n)

/-- A message is made of a text from a body and a note: the text under `error`, whole, or as much of
the body as the limit allows. -/
inductive TakenFrom (body : String) : String → String → Prop
  | decoded {text : String} (hdecoded : decoded? body = some text) : TakenFrom body text ""
  | whole (hdecoded : decoded? body = none) (hshort : body.utf8ByteSize ≤ 500) :
      TakenFrom body body ""
  | cut {text : String} (hdecoded : decoded? body = none) (hlong : 500 < body.utf8ByteSize)
      (hstart : text.toList <+: body.toList) (hshort : text.utf8ByteSize ≤ 500) :
      TakenFrom body text (cutNote body.utf8ByteSize)

/-- Every error of an answer without success holds the message of the body. -/
theorem held?_ofStatus (status : Nat) (body : String) :
    (ofStatus status body).held? = some (messageOfBody body) := by
  unfold ofStatus
  split
  next => rfl
  next =>
    split
    next => rfl
    next => rfl

/-- A text that is too long is cut to a beginning of it within the limit. -/
theorem shortened_of_long {body : String} (h : 500 < body.utf8ByteSize) :
    ∃ text : String, shortened body = text ++ cutNote body.utf8ByteSize ∧
      text.toList <+: body.toList ∧ text.utf8ByteSize ≤ 500 := by
  have hlongest := longestWithin_taken bodyLimit body
  exact ⟨taken bodyLimit body, shortened_eq_taken h, hlongest.start, hlongest.fits⟩

theorem messageOfBody_of_decoded {body message : String} (h : decoded? body = some message) :
    messageOfBody body = message := by
  rw [decoded?] at h
  rw [messageOfBody]
  cases hread : Json.readWhole bodyShape.read body with
  | ok found =>
      rw [hread] at h
      exact Option.some.inj h
  | error e =>
      rw [hread] at h
      cases h

theorem messageOfBody_of_not_decoded {body : String} (h : decoded? body = none) :
    messageOfBody body = shortened body := by
  rw [decoded?] at h
  rw [messageOfBody]
  cases hread : Json.readWhole bodyShape.read body with
  | ok found =>
      rw [hread] at h
      cases h
  | error e => rfl

/-- The message of a body is what is taken from it, with the note that belongs to it. -/
theorem messageOfBody_eq (body : String) :
    ∃ text note, messageOfBody body = text ++ note ∧ TakenFrom body text note := by
  cases hdecoded : decoded? body with
  | some message =>
      refine ⟨message, "", ?_, .decoded hdecoded⟩
      rw [messageOfBody_of_decoded hdecoded, String.append_empty]
  | none =>
      rw [messageOfBody_of_not_decoded hdecoded]
      by_cases hshort : body.utf8ByteSize ≤ bodyLimit
      · refine ⟨body, "", ?_, .whole hdecoded hshort⟩
        rw [shortened_of_short hshort, String.append_empty]
      · have hlong : 500 < body.utf8ByteSize := Nat.lt_of_not_le hshort
        obtain ⟨text, hcut, hstart, hfits⟩ := shortened_of_long hlong
        exact ⟨text, _, hcut, .cut hdecoded hlong hstart hfits⟩

/-! ## How long a message is -/

/-- What an error holds of the server's text. It is the text under the `error` field of the body if
there is one, and otherwise the body, cut if it is too long; so it keeps to the limit exactly if the
field does. -/
theorem held_within_limit_iff (status : Nat) (body : String) :
    ∃ text note, (ofStatus status body).held? = some (text ++ note) ∧ TakenFrom body text note ∧
      (text.utf8ByteSize ≤ 500 ↔
        ∀ field, decoded? body = some field → field.utf8ByteSize ≤ 500) := by
  obtain ⟨text, note, hmessage, htaken⟩ := messageOfBody_eq body
  refine ⟨text, note, ?_, htaken, ?_⟩
  · rw [held?_ofStatus, hmessage]
  · cases htaken with
    | decoded hdecoded => simp [hdecoded]
    | whole hdecoded hshort => simp [hdecoded, hshort]
    | cut hdecoded _ _ hshort => simp [hdecoded, hshort]

/-! ## Messages that are decoded -/

section Field

open Json

/-- The slot of the message in a body. -/
def errorSlot : Slot BodyDraft :=
  .of "error" false (·.error) (fun s d => { d with error := some s }) fun _ => readText "a string"

theorem slots_bodyShape : bodyShape.slots = [errorSlot] := rfl

variable (depth : Nat)

theorem keeps_error :
    bodyShape.Keeps depth errorSlot (·.error) (fun s d => { d with error := some s }) Quotes where
  toKeeps := (reads_readText "a string").keeps fun _ _ => rfl
  found := rfl
  blank := rfl
  apart other hother hkey := by
    rw [slots_bodyShape, List.mem_singleton] at hother
    exact absurd (congrArg Slot.key hother) hkey

theorem lawful_bodyShape : bodyShape.Lawful depth := by
  refine .of_keeps (by decide) ?_
  intro slot hslot
  rw [slots_bodyShape, List.mem_singleton] at hslot
  subst hslot
  exact ⟨_, _, _, _, keeps_error depth⟩

theorem build_bodyShape {d : BodyDraft} {message : String} :
    bodyShape.build d = .ok message ↔ d.error = some message := by
  obtain ⟨error⟩ := d
  cases error <;> simp [bodyShape]

/-- The message of an object is the one text that its members have under `error`, whatever the
escapes in it. -/
theorem decoded?_eq_some_iff {fields : List (String × List Char)} {body : String}
    (hobject : IsObject fields body) {message : String} : decoded? body = some message ↔
      ∃ text, textsOf "error" fields = [text] ∧ Quotes text message := by
  have hread : Json.readWhole bodyShape.read body = .ok message ↔
      ∃ text, textsOf "error" fields = [text] ∧ Quotes text message := by
    refine Shape.readWhole_iff_of_build (lawful_bodyShape _) hobject ?_ ?_
    · intro d htakes
      rw [build_bodyShape]
      exact (keeps_error _).get_eq_some_iff htakes
    · intro hgiven
      refine Shape.exists_takes (lawful_bodyShape _) ?_
      intro slot hslot
      rw [slots_bodyShape, List.mem_singleton] at hslot
      subst hslot
      exact .inr ((keeps_error _).accepts hgiven)
  rw [decoded?, ← hread]
  cases Json.readWhole bodyShape.read body <;> simp [Except.toOption]

end Field

/-- A body with a message of 501 letters. -/
def longRefusal : String :=
  (Json.objectOf [("error", String.ofList (List.replicate 501 'x'))]).compact

theorem decoded?_longRefusal :
    decoded? longRefusal = some (String.ofList (List.replicate 501 'x')) := by
  rw [longRefusal, decoded?_eq_some_iff (Json.isObject_compact _)]
  exact ⟨_, rfl, Json.quotes_writeString _⟩

theorem getLast?_cutNote (n : Nat) : (cutNote n).toList.getLast? = some ')' := by
  have hnote : cutNote n = "... (truncated, " ++ toString n ++ " total bytes)" := rfl
  rw [hnote, String.toList_append, List.getLast?_append]
  rfl

/-- The error of a refusal with a long message holds it whole. That is more than 500 bytes, and it
does not end with a note. -/
theorem not_bounded_of_longRefusal :
    ¬∃ message, (ofStatus 400 longRefusal).held? = some message ∧ IsBounded message := by
  rintro ⟨message, hheld, taken, hshort, hmessage⟩
  rw [held?_ofStatus, messageOfBody_of_decoded decoded?_longRefusal] at hheld
  obtain rfl := Option.some.inj hheld
  rcases hmessage with rfl | ⟨n, hcut⟩
  · have hsize : (String.ofList (List.replicate 501 'x')).utf8ByteSize = 501 := by
      rw [Text.utf8ByteSize_ofList, Text.size_replicate]
      rfl
    omega
  · have hlast := congrArg (fun s => s.toList.getLast?) hcut
    rw [String.toList_append, List.getLast?_append, getLast?_cutNote, String.toList_ofList,
      List.getLast?_replicate] at hlast
    simp at hlast

end SessionKeeper.ApiError
