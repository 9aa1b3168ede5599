import SessionKeeper.Credentials
import SessionKeeper.Proofs.Json.Fields
import SessionKeeper.Proofs.Json.Texts

/-!
# The texts of an answer to a registration

The server may name the new user by a text or by a number, or not at all. A number counts if it is
an integer of 64 bits, and then stands for the text of its digits; of any other id the answer is
refused.
-/

namespace SessionKeeper.RegisterResponse

open Json

/-- What the text of an id stands for: a string, or the digits of an integer of 64 bits. -/
inductive IsId : List Char → String → Prop
  | text {literal : List Char} {s : String} (h : Quotes literal s) : IsId literal s
  | integer {literal : List Char} {n : Int} (h : Denotes literal n) (hlow : -2 ^ 63 ≤ n)
      (hhigh : n < 2 ^ 63) : IsId literal (toString n)

/-! ## Reading an id -/

theorem idOf_ofInt_eq_ok_iff {n : Int} {id : String} :
    idOf (.number (.ofInt n)) = .ok id ↔ n < 2 ^ 63 ∧ id = toString n := by
  cases n with
  | ofNat n =>
      simp only [Number.ofInt, idOf, Nat.pow_eq, Int.ofNat_eq_natCast]
      split
      next h =>
        rw [Except.ok.injEq, eq_comm]
        exact ⟨fun heq => ⟨by omega, heq⟩, And.right⟩
      next h => exact iff_of_false nofun fun hn => h (by omega)
  | negSucc n =>
      simp only [Number.ofInt, idOf, Except.ok.injEq]
      exact ⟨fun heq => ⟨by omega, heq.symm⟩, fun h => h.2.symm⟩

theorem isList_of_readItems {fuel depth : Nat} {first : Bool} {cs rest : List Char}
    {seen : List Value} {v : Value}
    (h : readValueWithin.readItems fuel depth first cs seen = .ok (v, rest)) :
    ∃ items, v = .list items := by
  induction fuel generalizing first cs seen with
  | zero => cases h
  | succ fuel ih =>
      rw [readValueWithin.readItems] at h
      split at h
      next => cases h
      next tail _ =>
        obtain ⟨left, -, heq⟩ := map_eq_ok h
        cases heq
        exact ⟨_, rfl⟩
      next =>
        split at h
        next => cases h
        next => exact ih h

theorem isObject_of_readMembers {fuel depth : Nat} {first : Bool} {cs rest : List Char}
    {seen : List (String × Value)} {v : Value}
    (h : readValueWithin.readMembers fuel depth first cs seen = .ok (v, rest)) :
    ∃ members, v = .object members := by
  induction fuel generalizing first cs seen with
  | zero => cases h
  | succ fuel ih =>
      rw [readValueWithin.readMembers] at h
      split at h
      next => cases h
      next tail _ =>
        obtain ⟨left, -, heq⟩ := map_eq_ok h
        cases heq
        exact ⟨_, rfl⟩
      next =>
        split at h
        next => cases h
        next =>
          split at h
          next => cases h
          next =>
            split at h
            next => cases h
            next => exact ih h

/-- A value that is taken for an id was spelled as one. -/
theorem isId_of_readValue {depth : Nat} {cs rest : List Char} {v : Value} {id : String}
    (h : readValue depth cs = .ok (v, rest)) (hid : idOf v = .ok id) :
    ∃ literal, skipSpace cs = literal ++ rest ∧ IsId literal id := by
  -- a word is no id
  have hword : ∀ (word tail : List Char) (w : Value), idOf w ≠ .ok id →
      (expectWord word tail).map (fun rest => (w, rest)) ≠ .ok (v, rest) := by
    intro word tail w hw hmap
    obtain ⟨left, -, heq⟩ := map_eq_ok hmap
    cases heq
    exact hw hid
  rw [readValue, readValueWithin] at h
  split at h
  next => cases h
  next c tail hspace =>
    split at h
    next => exact absurd h (hword _ _ _ (by simp [idOf]))
    split at h
    next => exact absurd h (hword _ _ _ (by simp [idOf]))
    split at h
    next => exact absurd h (hword _ _ _ (by simp [idOf]))
    split at h
    next =>
      obtain ⟨⟨number, left⟩, hread, hnumber⟩ := map_eq_ok h
      cases hnumber
      obtain ⟨bits, rfl⟩ | ⟨literal, n, heq, hn, -, hlow, rfl⟩ := readNumber_eq_ok hread
      · cases hid
      · obtain ⟨hhigh, rfl⟩ := idOf_ofInt_eq_ok_iff.mp hid
        exact ⟨literal, hspace.trans heq, .integer hn hlow hhigh⟩
    split at h
    next hc =>
      obtain ⟨⟨s, left⟩, hread, htext⟩ := map_eq_ok h
      cases htext
      cases hid
      obtain ⟨inside, rfl, hinside⟩ := readString_eq_ok_iff.mp hread
      exact ⟨'"' :: inside ++ ['"'], by simp [hspace, hc], .text ⟨inside, rfl, hinside⟩⟩
    split at h
    next =>
      split at h
      next => cases h
      next =>
        obtain ⟨items, rfl⟩ := isList_of_readItems h
        cases hid
    split at h
    next =>
      split at h
      next => cases h
      next =>
        obtain ⟨members, rfl⟩ := isObject_of_readMembers h
        cases hid
    next => cases h

theorem IsId.isValue {literal : List Char} {id : String} (h : IsId literal id) :
    IsValue literal := by
  cases h with
  | text h => exact (reads_readText "a string").value h
  | integer h => exact IsScalar.isValue (.number h.isNumber)

/-- What is spelled as an id is taken for it. -/
theorem readValue_of_isId {literal cs rest : List Char} {id : String} (h : IsId literal id)
    (hspace : skipSpace cs = literal ++ rest) (hrest : Stops rest) (depth : Nat) :
    ∃ v, readValue depth cs = .ok (v, rest) ∧ idOf v = .ok id := by
  cases h with
  | text h => exact ⟨.text id, readValueWithin_of_quotes h hspace _ depth, rfl⟩
  | integer h hlow hhigh =>
      have hnumber := h.isNumber
      obtain ⟨c, digits, rfl, -⟩ := hnumber.exists_cons
      refine ⟨.number (.ofInt _), ?_, idOf_ofInt_eq_ok_iff.mpr ⟨hhigh, rfl⟩⟩
      rw [readValue, readValueWithin, hspace]
      simp only [List.cons_append, hnumber.head_ne (d := 'n') (by decide) rfl,
        hnumber.head_ne (d := 't') (by decide) rfl, hnumber.head_ne (d := 'f') (by decide) rfl,
        hnumber.head, ↓reduceIte, readNumber_of_denotes h hrest hlow (by omega)]
      rfl

theorem IsId.head? {literal : List Char} {id : String} (h : IsId literal id) :
    literal.head? ≠ some 'n' := by
  cases h with
  | text h =>
      obtain ⟨inside, rfl, -⟩ := h
      simp
  | integer h =>
      have hnumber := h.isNumber
      obtain ⟨c, digits, rfl, -⟩ := hnumber.exists_cons
      exact fun heq => hnumber.head_ne (by decide) rfl (Option.some.inj heq)

theorem readId_eq_ok {depth : Nat} {cs rest : List Char} {id : Option String}
    (h : readId depth cs = .ok (.ok id, rest)) :
    ∃ literal, skipSpace cs = literal ++ rest ∧ OrNull IsId literal id := by
  rw [readId] at h
  obtain ⟨⟨value, left⟩, hread, heq⟩ := map_eq_ok h
  obtain ⟨rfl, hspace⟩ | ⟨v, rfl, hvalue⟩ := readOptional_eq_ok hread
  · cases heq
    exact ⟨_, hspace, .null⟩
  · obtain ⟨hid, rfl⟩ := Prod.mk.inj heq
    obtain ⟨s, hof, rfl⟩ := map_eq_ok hid
    obtain ⟨literal, hspace, hliteral⟩ := isId_of_readValue hvalue hof
    exact ⟨literal, hspace, .given hliteral⟩

theorem readId_of_orNull {literal cs rest : List Char} {id : Option String}
    (h : OrNull IsId literal id) (hspace : skipSpace cs = literal ++ rest) (hrest : Stops rest)
    (depth : Nat) : readId depth cs = .ok (.ok id, rest) := by
  rw [readId]
  cases h with
  | null =>
      rw [readOptional_of_null hspace]
      rfl
  | given h =>
      obtain ⟨v, hvalue, hid⟩ := readValue_of_isId h hspace hrest depth
      rw [readOptional_of_read hvalue]
      · simp only [Except.map, hid]
      · rw [hspace]
        exact h.isValue.head?_append h.head? rest

/-! ## The two fields -/

/-- The slot of the id. -/
def idSlot : Slot Draft where
  key := "id"
  mayBeAbsent := true
  isFilled := fun d => d.id.isSome
  read := fun depth cs =>
    (readId depth cs).map fun (id, rest) => (id.map fun id d => { d with id := some id }, rest)

/-- The slot of the token. -/
def tokenSlot : Slot Draft :=
  .of "token" false (·.token) (fun s d => { d with token := some s }) fun _ => readText "a string"

theorem slots_shape : shape.slots = [idSlot, tokenSlot] := rfl

section Slots

variable (depth : Nat)

theorem idSlot_keeps :
    idSlot.Keeps depth (·.id) (fun id d => { d with id := some id }) (OrNull IsId) where
  isFilled_eq _ := rfl
  get_put _ _ := rfl
  value := by
    rintro text id (_ | h)
    · exact IsScalar.isValue (.word (by decide))
    · exact h.isValue
  sound hread := by
    obtain ⟨⟨result, left⟩, hid, heq⟩ := map_eq_ok hread
    obtain ⟨hresult, rfl⟩ := Prod.mk.inj heq
    obtain ⟨id, rfl, rfl⟩ := map_eq_ok hresult
    obtain ⟨literal, hspace, hliteral⟩ := readId_eq_ok hid
    exact ⟨literal, id, hspace, hliteral, rfl⟩
  complete h hspace hstops := by
    simp only [idSlot, readId_of_orNull h hspace hstops]
    rfl

theorem tokenSlot_keeps :
    tokenSlot.Keeps depth (·.token) (fun s d => { d with token := some s }) Quotes :=
  (reads_readText "a string").keeps fun _ _ => rfl

theorem keeps_id :
    shape.Keeps depth idSlot (·.id) (fun id d => { d with id := some id }) (OrNull IsId) where
  toKeeps := idSlot_keeps depth
  found := rfl
  blank := rfl
  apart other hother hkey _ _ htext d := by
    simp only [slots_shape, List.mem_cons, List.not_mem_nil, or_false] at hother
    rcases hother with rfl | rfl
    · exact absurd rfl hkey
    · obtain ⟨token, -, rfl⟩ := (tokenSlot_keeps depth).takes_iff.mp htext
      rfl

theorem keeps_token :
    shape.Keeps depth tokenSlot (·.token) (fun s d => { d with token := some s }) Quotes where
  toKeeps := tokenSlot_keeps depth
  found := rfl
  blank := rfl
  apart other hother hkey _ _ htext d := by
    simp only [slots_shape, List.mem_cons, List.not_mem_nil, or_false] at hother
    rcases hother with rfl | rfl
    · obtain ⟨id, -, rfl⟩ := (idSlot_keeps depth).takes_iff.mp htext
      rfl
    · exact absurd rfl hkey

theorem lawful_shape : shape.Lawful depth := by
  refine .of_keeps (by decide) fun slot hslot => ?_
  simp only [slots_shape, List.mem_cons, List.not_mem_nil, or_false] at hslot
  rcases hslot with rfl | rfl
  · exact ⟨_, _, _, _, keeps_id depth⟩
  · exact ⟨_, _, _, _, keeps_token depth⟩

end Slots

/-! ## What is read -/

/-- Some fields describe an answer: a text for its token, given once, and for its id a string, an
integer, `null`, or nothing at all. -/
structure Describes (fields : List (String × List Char)) (r : RegisterResponse) : Prop where
  id : OrMissing IsId (textsOf "id" fields) r.id
  token : ∃ text, textsOf "token" fields = [text] ∧ Quotes text r.token

theorem build_eq_ok_iff {d : Draft} {r : RegisterResponse} :
    shape.build d = .ok r ↔ d.id.join = r.id ∧ d.token = some r.token := by
  obtain ⟨id, token⟩ := d
  obtain ⟨id', token'⟩ := r
  cases token <;> simp [shape]

theorem build_iff_describes {depth : Nat} {fields : List (String × List Char)} {d : Draft}
    (htakes : shape.Takes depth fields shape.blank d) {r : RegisterResponse} :
    shape.build d = .ok r ↔ Describes fields r := by
  have hid := (keeps_id depth).join_eq_iff htakes (a := r.id)
  have htoken := (keeps_token depth).get_eq_some_iff htakes (a := r.token)
  rw [build_eq_ok_iff, hid, htoken]
  exact ⟨fun ⟨id, token⟩ => ⟨id, token⟩, fun h => ⟨h.id, h.token⟩⟩

theorem Describes.exists_takes {fields : List (String × List Char)} {r : RegisterResponse}
    (h : Describes fields r) (depth : Nat) : ∃ d, shape.Takes depth fields shape.blank d := by
  refine Shape.exists_takes (lawful_shape depth) fun slot hslot => ?_
  simp only [slots_shape, List.mem_cons, List.not_mem_nil, or_false] at hslot
  rcases hslot with rfl | rfl
  · exact h.id.given_or_nil.imp_right fun ⟨_, hgiven⟩ => (keeps_id depth).accepts hgiven
  · exact .inr ((keeps_token depth).accepts h.token)

/-- An object is read as the answer that its members describe. -/
theorem parse_eq_ok_iff {fields : List (String × List Char)} {text : String}
    (hobject : IsObject fields text) {r : RegisterResponse} :
    parse text = .ok r ↔ Describes fields r :=
  Shape.readWhole_iff_of_build (lawful_shape _) hobject (fun h => build_iff_describes h)
    fun h => h.exists_takes _

/-! ## What is written -/

/-- The fields that an answer is written with. -/
def fields (r : RegisterResponse) : List (String × String) :=
  (r.id.map fun id => ("id", id)).toList ++ [("token", r.token)]

theorem toValue_eq_objectOf (r : RegisterResponse) : r.toValue = objectOf r.fields := by
  obtain ⟨id, token⟩ := r
  cases id <;> rfl

/-- An answer comes back from the text that it is written as. -/
theorem parse_compact (r : RegisterResponse) : parse r.toValue.compact = .ok r := by
  rw [toValue_eq_objectOf, parse_eq_ok_iff (isObject_compact r.fields)]
  obtain ⟨id, token⟩ := r
  cases id with
  | none => exact ⟨.missing, _, rfl, quotes_writeString token⟩
  | some id => exact ⟨.given (.text (quotes_writeString id)), _, rfl, quotes_writeString token⟩

end SessionKeeper.RegisterResponse
