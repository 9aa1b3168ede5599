import SessionKeeper.Proofs.Json.Skip
import SessionKeeper.Proofs.Session

/-!
# The token of a stored session

A stored text is read in two ways: as a whole session where it is restored, and for its token alone
where a request is made. The two agree on records that are written as objects, whatever else these
hold and in whatever order. A session that is written as a list has its token in the fourth place,
where the reader of the token does not look: it refuses every such list.
-/

namespace SessionKeeper

open Json

namespace Json

theorem nextElement_eq_true {cs rest : List Char}
    (h : nextElement false cs = .ok (true, rest)) : ∃ tail, skipSpace cs = ',' :: tail := by
  rw [nextElement] at h
  split at h
  next => cases h
  next c tail hspace =>
    split at h
    next => cases h
    next =>
      rw [if_neg Bool.false_ne_true] at h
      split at h
      next hcomma => exact ⟨tail, hcomma ▸ hspace⟩
      next => cases h

theorem endList_of_comma {cs tail : List Char} (h : skipSpace cs = ',' :: tail) :
    ∃ f, endList cs = .error f := by
  simp only [endList, h, Char.reduceEq, ↓reduceIte]
  split
  next => exact ⟨_, rfl⟩
  next => split <;> exact ⟨_, rfl⟩

/-- Where the elements of a list were read, one that may not be absent is there. -/
theorem Shape.readElements_cons_eq_ok {δ ρ : Type} {shape : Shape δ ρ} {depth index : Nat}
    {slot : Slot δ} {slots : List (Slot δ)} (habsent : slot.mayBeAbsent = false) {first : Bool}
    {d e : δ} {cs rest : List Char}
    (h : shape.readElements depth (slot :: slots) index first d cs = .ok (e, rest)) :
    ∃ tail left put, nextElement first cs = .ok (true, tail) ∧
      slot.read depth tail = .ok (.ok put, left) ∧
      shape.readElements depth slots (index + 1) false (put d) left = .ok (e, rest) := by
  rw [Shape.readElements] at h
  split at h
  next => cases h
  next =>
    rw [if_neg (by simp [habsent])] at h
    cases h
  next tail hnext =>
    split at h
    next => cases h
    next => cases h
    next put left hread => exact ⟨tail, left, put, hnext, hread, h⟩

end Json

namespace Session

/-- Whether a text has the brace of an object in front. -/
def opensObject (text : String) : Bool :=
  (skipSpace text.toList).head? == some '{'

/-! ## Sessions written as objects -/

/-- What fills another slot than that of the token could have been passed over. -/
theorem skipValue_of_slot {key : String} (hkey : key ≠ "token") {slot : Slot Draft}
    (hslot : shape.slots.find? (fun slot => slot.key == key) = some slot) {depth : Nat}
    {cs rest : List Char} {fill : Draft → Draft}
    (h : slot.read depth cs = .ok (.ok fill, rest)) :
    skipValue cs = .ok rest ∧ ∀ d, (fill d).token = d.token := by
  have hname : slot.key = key := by simpa using List.find?_some hslot
  have hmem := List.mem_of_find?_eq_some hslot
  simp only [shape, List.mem_cons, List.not_mem_nil, or_false] at hmem
  rcases hmem with rfl | rfl | rfl | rfl
  · obtain ⟨id, hread, rfl⟩ := Slot.read_of_eq_ok h
    exact ⟨skipValue_of_readText hread, fun _ => rfl⟩
  · obtain ⟨email, hread, rfl⟩ := Slot.read_of_eq_ok h
    exact ⟨skipValue_of_readText hread, fun _ => rfl⟩
  · obtain ⟨name, hread, rfl⟩ := Slot.read_of_eq_ok h
    exact ⟨skipValue_of_readOptional hread, fun _ => rfl⟩
  · exact absurd hname.symm hkey

theorem find?_slots_token :
    shape.slots.find? (fun slot => slot.key == "token") =
      some (.of "token" false (·.token) (fun s d => { d with token := some s })
        fun _ => readText "a string") := rfl

theorem find?_storedToken_slots_token :
    storedTokenShape.slots.find? (fun slot => slot.key == "token") =
      some (.of "token" true (·.token) (fun s d => { d with token := some s })
        fun _ => readOptional (readText "a string")) := rfl

theorem find?_storedToken_slots_of_ne {key : String} (hkey : key ≠ "token") :
    storedTokenShape.slots.find? (fun slot => slot.key == key) = none := by
  simp [storedTokenShape, Slot.of, Ne.symm hkey]

/-- Where the fields of a session are read, its token is read by itself too. -/
theorem readToken_of_readFields {depth fuel : Nat} {first : Bool} {cs rest : List Char}
    {d e : Draft} (h : shape.readFieldsWithin depth fuel first d cs = .ok (e, rest)) :
    storedTokenShape.readFieldsWithin depth fuel first ⟨d.token.map some⟩ cs =
      .ok (⟨e.token.map some⟩, rest) := by
  induction fuel generalizing first d cs with
  | zero => cases h
  | succ fuel ih =>
      -- both readers look at the same characters until they choose a slot by the key
      rw [Shape.readFieldsWithin] at h ⊢
      split at h
      next => cases h
      next left hkey =>
        cases h
        rfl
      next left hkey =>
        split at h
        next => cases h
        next key tail hstring =>
          by_cases htoken : key = "token"
          · subst htoken
            rw [find?_slots_token] at h
            rw [find?_storedToken_slots_token]
            dsimp only at h ⊢
            split at h
            next => cases h
            next hfree =>
              have hfree' : d.token = none := by simpa [Slot.of] using hfree
              rw [if_neg (by simp [Slot.of, hfree'])]
              split at h
              next => cases h
              next value hcolon =>
                split at h
                next => cases h
                next => cases h
                next fill more hread =>
                  obtain ⟨token, htext, rfl⟩ := Slot.read_of_eq_ok hread
                  simp only [Slot.of, readOptional_of_readText htext]
                  exact ih h
          · rw [find?_storedToken_slots_of_ne htoken]
            split at h
            next =>
              split at h
              next => cases h
              next value hcolon =>
                split at h
                next => cases h
                next more hskip => exact ih h
            next slot hslot =>
              split at h
              next => cases h
              next hfree =>
                split at h
                next => cases h
                next value hcolon =>
                  split at h
                  next => cases h
                  next => cases h
                  next fill more hread =>
                    obtain ⟨hskip, hfill⟩ := skipValue_of_slot htoken hslot hread
                    rw [hskip, ← hfill d]
                    exact ih h

theorem token_of_build {d : Draft} {s : Session} (h : shape.build d = .ok s) :
    d.token = some s.token := by
  obtain ⟨id, email, name, token⟩ := d
  cases id with
  | none => cases h
  | some id =>
      cases email with
      | none => cases h
      | some email =>
          cases token with
          | none => cases h
          | some token =>
              cases h
              rfl

theorem readToken_of_read {depth : Nat} {cs tail rest : List Char} {s : Session}
    (hspace : skipSpace cs = '{' :: tail) (h : shape.read depth cs = .ok (s, rest)) :
    storedTokenShape.read depth cs = .ok (some s.token, rest) := by
  simp only [Shape.read, hspace, Char.reduceEq, ↓reduceIte] at h ⊢
  split at h
  next => cases h
  next hdepth =>
    split at h
    next => cases h
    next d left hfields =>
      have htoken : storedTokenShape.readFieldsWithin (depth - 1) (tail.length + 1) true
          storedTokenShape.blank tail = .ok (⟨d.token.map some⟩, left) :=
        readToken_of_readFields hfields
      rw [if_neg hdepth, htoken]
      dsimp only
      split at h
      next => cases h
      next last =>
        rw [Shape.finish] at h
        split at h
        next built hbuild =>
          cases h
          simp only [Shape.finish, token_of_build hbuild, storedTokenShape]
          rfl
        next => cases h

/-! ## Sessions written as lists -/

/-- A list that holds a session goes on behind its first element, which is where a list that holds
nothing but a token would have to end. -/
theorem not_readToken_of_read {depth : Nat} {cs tail rest : List Char} {s : Session}
    (hspace : skipSpace cs = '[' :: tail) (h : shape.read depth cs = .ok (s, rest)) :
    ∃ f, storedTokenShape.read depth cs = .error f := by
  simp only [Shape.read, hspace, ↓reduceIte] at h ⊢
  split at h
  next => cases h
  next hdepth =>
    rw [if_neg hdepth]
    split at h
    next => cases h
    next d left helements =>
      obtain ⟨value, behind, fill, hnext, hread, hothers⟩ :=
        Shape.readElements_cons_eq_ok rfl helements
      obtain ⟨id, htext, -⟩ := Slot.read_of_eq_ok hread
      obtain ⟨_, _, _, hsecond, -⟩ := Shape.readElements_cons_eq_ok rfl hothers
      obtain ⟨_, hcomma⟩ := nextElement_eq_true hsecond
      obtain ⟨f, hend⟩ := endList_of_comma hcomma
      have htoken : storedTokenShape.readElements (depth - 1) storedTokenShape.slots 0 true
          storedTokenShape.blank tail = .ok (⟨some (some id)⟩, behind) := by
        simp only [storedTokenShape, Shape.readElements, hnext, Slot.of,
          readOptional_of_readText htext]
        rfl
      rw [htoken]
      exact ⟨f, by simp only [hend]⟩

/-! ## Whole texts -/

/-- A session is written as an object or as a list. -/
theorem skipSpace_of_read {depth : Nat} {cs rest : List Char} {s : Session}
    (h : shape.read depth cs = .ok (s, rest)) :
    ∃ tail, skipSpace cs = '{' :: tail ∨ skipSpace cs = '[' :: tail := by
  rw [Shape.read] at h
  split at h
  next => cases h
  next c tail hspace =>
    split at h
    next hlist => exact ⟨tail, .inr (hlist ▸ hspace)⟩
    next =>
      split at h
      next hobject => exact ⟨tail, .inl (hobject ▸ hspace)⟩
      next => cases h

theorem parse_eq_ok {text : String} {s : Session} (h : parse text = .ok s) :
    ∃ rest, shape.read depthLimit text.toList = .ok (s, rest) ∧ skipSpace rest = [] := by
  rw [parse, readWhole] at h
  split at h
  next => cases h
  next r rest hread =>
    split at h
    next hspace =>
      cases h
      exact ⟨rest, hread, hspace⟩
    next => cases h

/-- The token of a session that is written as an object is found. -/
theorem storedToken_of_opensObject {text : String} {s : Session} (h : parse text = .ok s)
    (hopens : opensObject text = true) : storedToken text = .ok (some s.token) := by
  obtain ⟨rest, hread, hspace⟩ := parse_eq_ok h
  obtain ⟨tail, hbrace | hbracket⟩ := skipSpace_of_read hread
  · rw [storedToken, readWhole, readToken_of_read hbrace hread]
    simp only [hspace]
  · simp [opensObject, hbracket] at hopens

/-- The token of a session that is written as a list is not found. -/
theorem storedToken_of_not_opensObject {text : String} {s : Session} (h : parse text = .ok s)
    (hopens : opensObject text = false) : ∃ e, storedToken text = .error e := by
  obtain ⟨rest, hread, -⟩ := parse_eq_ok h
  obtain ⟨tail, hbrace | hbracket⟩ := skipSpace_of_read hread
  · simp [opensObject, hbrace] at hopens
  · obtain ⟨f, hrefused⟩ := not_readToken_of_read hbracket hread
    exact ⟨f.within text, by rw [storedToken, readWhole, hrefused]⟩

/-- The text of a session is an object. -/
theorem opensObject_render (s : Session) : opensObject s.render = true := by
  simp [opensObject, render, toValue, Value.compact, Value.writeCompact, skipSpace, isSpace]

/-- The token of a session is found in the text that it is stored as. -/
theorem storedToken_render (s : Session) : storedToken s.render = .ok (some s.token) :=
  storedToken_of_opensObject (parse_render s) s.opensObject_render

end Session

end SessionKeeper
