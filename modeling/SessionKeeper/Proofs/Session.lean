import SessionKeeper.Proofs.Json.Fields
import SessionKeeper.Session

/-!
# The texts of a session

A session is stored as one text and can be read from many: with other fields, in another order, as a
list, or laid out with white space. What is read is settled by the texts that are given for its four
fields, and a name that is left out or `null` is no name. So the text that a session is stored as
gives the session again, whatever its fields hold.
-/

namespace SessionKeeper.Session

open Json

/-- The fields that a session is written with. -/
def fields (s : Session) : List (String × String) :=
  [("id", s.id), ("email", s.email)] ++ (s.name.map fun name => ("name", name)).toList ++
    [("token", s.token)]

theorem toValue_eq_objectOf (s : Session) : s.toValue = objectOf s.fields := by
  obtain ⟨id, email, name, token⟩ := s
  cases name <;> rfl

/-! ## The four fields -/

theorem slot_text_keeps {depth : Nat} {key : String} {get : Draft → Option String}
    {put : String → Draft → Draft} (hput : ∀ s d, get (put s d) = some s) :
    (Slot.of key false get put fun _ => readText "a string").Keeps depth get put Quotes :=
  (reads_readText "a string").keeps hput

theorem slot_name_keeps {depth : Nat} {key : String} {get : Draft → Option (Option String)}
    {put : Option String → Draft → Draft} (hput : ∀ s d, get (put s d) = some s) :
    (Slot.of key true get put fun _ => readOptional (readText "a string")).Keeps depth get put
      (OrNull Quotes) := by
  refine ((reads_readText "a string").orNull ?_).keeps hput
  rintro text s ⟨inside, rfl, -⟩
  simp

/-- What fills one slot leaves what the others keep. -/
theorem fill_apart {depth : Nat} {slot : Slot Draft} (hslot : slot ∈ shape.slots)
    {text : List Char} {fill : Draft → Draft} (htext : slot.Takes depth text fill) (d : Draft) :
    (slot.key ≠ "id" → (fill d).id = d.id) ∧ (slot.key ≠ "email" → (fill d).email = d.email) ∧
      (slot.key ≠ "name" → (fill d).name = d.name) ∧
      (slot.key ≠ "token" → (fill d).token = d.token) := by
  simp only [shape, List.mem_cons, List.not_mem_nil, or_false] at hslot
  rcases hslot with rfl | rfl | rfl | rfl
  · obtain ⟨id, -, rfl⟩ := (slot_text_keeps fun _ _ => rfl).takes_iff.mp htext
    exact ⟨fun h => absurd rfl h, fun _ => rfl, fun _ => rfl, fun _ => rfl⟩
  · obtain ⟨email, -, rfl⟩ := (slot_text_keeps fun _ _ => rfl).takes_iff.mp htext
    exact ⟨fun _ => rfl, fun h => absurd rfl h, fun _ => rfl, fun _ => rfl⟩
  · obtain ⟨name, -, rfl⟩ := (slot_name_keeps fun _ _ => rfl).takes_iff.mp htext
    exact ⟨fun _ => rfl, fun _ => rfl, fun h => absurd rfl h, fun _ => rfl⟩
  · obtain ⟨token, -, rfl⟩ := (slot_text_keeps fun _ _ => rfl).takes_iff.mp htext
    exact ⟨fun _ => rfl, fun _ => rfl, fun _ => rfl, fun h => absurd rfl h⟩

section Slots

variable (depth : Nat)

theorem keeps_id : shape.Keeps depth (.of "id" false (·.id) (fun s d => { d with id := some s })
    fun _ => readText "a string") (·.id) (fun s d => { d with id := some s }) Quotes where
  toKeeps := slot_text_keeps fun _ _ => rfl
  found := rfl
  blank := rfl
  apart _ hother hkey _ _ htext d := (fill_apart hother htext d).1 hkey

theorem keeps_email : shape.Keeps depth (.of "email" false (·.email)
    (fun s d => { d with email := some s }) fun _ => readText "a string") (·.email)
    (fun s d => { d with email := some s }) Quotes where
  toKeeps := slot_text_keeps fun _ _ => rfl
  found := rfl
  blank := rfl
  apart _ hother hkey _ _ htext d := (fill_apart hother htext d).2.1 hkey

theorem keeps_name : shape.Keeps depth (.of "name" true (·.name)
    (fun s d => { d with name := some s }) fun _ => readOptional (readText "a string")) (·.name)
    (fun s d => { d with name := some s }) (OrNull Quotes) where
  toKeeps := slot_name_keeps fun _ _ => rfl
  found := rfl
  blank := rfl
  apart _ hother hkey _ _ htext d := (fill_apart hother htext d).2.2.1 hkey

theorem keeps_token : shape.Keeps depth (.of "token" false (·.token)
    (fun s d => { d with token := some s }) fun _ => readText "a string") (·.token)
    (fun s d => { d with token := some s }) Quotes where
  toKeeps := slot_text_keeps fun _ _ => rfl
  found := rfl
  blank := rfl
  apart _ hother hkey _ _ htext d := (fill_apart hother htext d).2.2.2 hkey

theorem lawful_shape : shape.Lawful depth := by
  refine .of_keeps (by decide) fun slot hslot => ?_
  simp only [shape, List.mem_cons, List.not_mem_nil, or_false] at hslot
  rcases hslot with rfl | rfl | rfl | rfl
  · exact ⟨_, _, _, _, keeps_id depth⟩
  · exact ⟨_, _, _, _, keeps_email depth⟩
  · exact ⟨_, _, _, _, keeps_name depth⟩
  · exact ⟨_, _, _, _, keeps_token depth⟩

end Slots

/-! ## What is read -/

/-- Some fields describe a session: a text for its id, its email and its token, each given once, and
for its name a text, `null`, or nothing at all. -/
structure Describes (fields : List (String × List Char)) (s : Session) : Prop where
  id : ∃ text, textsOf "id" fields = [text] ∧ Quotes text s.id
  email : ∃ text, textsOf "email" fields = [text] ∧ Quotes text s.email
  name : OrMissing Quotes (textsOf "name" fields) s.name
  token : ∃ text, textsOf "token" fields = [text] ∧ Quotes text s.token

theorem build_eq_ok_iff {d : Draft} {s : Session} :
    shape.build d = .ok s ↔
      d.id = some s.id ∧ d.email = some s.email ∧ d.name.join = s.name ∧
        d.token = some s.token := by
  obtain ⟨id, email, name, token⟩ := d
  obtain ⟨id', email', name', token'⟩ := s
  cases id <;> cases email <;> cases token <;> simp [shape]

/-- The draft that fields make is that of the session that they describe. -/
theorem build_iff_describes {depth : Nat} {fields : List (String × List Char)} {d : Draft}
    (htakes : shape.Takes depth fields shape.blank d) {s : Session} :
    shape.build d = .ok s ↔ Describes fields s := by
  have hid := (keeps_id depth).get_eq_some_iff htakes (a := s.id)
  have hemail := (keeps_email depth).get_eq_some_iff htakes (a := s.email)
  have hname := (keeps_name depth).join_eq_iff htakes (a := s.name)
  have htoken := (keeps_token depth).get_eq_some_iff htakes (a := s.token)
  rw [build_eq_ok_iff, hid, hemail, hname, htoken]
  exact ⟨fun ⟨id, email, name, token⟩ => ⟨id, email, name, token⟩,
    fun h => ⟨h.id, h.email, h.name, h.token⟩⟩

/-- The keys of a session, in the order of a list. -/
def keys : List String :=
  ["id", "email", "name", "token"]

/-- Fields that describe a session make a draft of it. -/
theorem Describes.exists_takes {fields : List (String × List Char)} {s : Session}
    (h : Describes fields s) (depth : Nat) : ∃ d, shape.Takes depth fields shape.blank d := by
  refine Shape.exists_takes (lawful_shape depth) fun slot hslot => ?_
  simp only [shape, List.mem_cons, List.not_mem_nil, or_false] at hslot
  rcases hslot with rfl | rfl | rfl | rfl
  · exact .inr ((keeps_id depth).accepts h.id)
  · exact .inr ((keeps_email depth).accepts h.email)
  · exact h.name.given_or_nil.imp_right fun ⟨_, hgiven⟩ => (keeps_name depth).accepts hgiven
  · exact .inr ((keeps_token depth).accepts h.token)

/-- A text that a session is read from has fields that describe it. -/
theorem describes_of_parse {text : String} {s : Session} (h : parse text = .ok s) :
    ∃ fields, HasFields keys fields text ∧ Describes fields s := by
  obtain ⟨fields, d, hfields, htakes, hbuild⟩ := Shape.exists_fields (lawful_shape _) h
  exact ⟨fields, hfields, (build_iff_describes htakes).mp hbuild⟩

/-- An object is read as the session that its members describe. -/
theorem parse_eq_ok_iff {fields : List (String × List Char)} {text : String}
    (hobject : IsObject fields text) {s : Session} :
    parse text = .ok s ↔ Describes fields s :=
  Shape.readWhole_iff_of_build (lawful_shape _) hobject (fun h => build_iff_describes h)
    fun h => h.exists_takes _

/-! ## What is written -/

theorem describes_fields (s : Session) : Describes (membersOf s.fields) s := by
  obtain ⟨id, email, name, token⟩ := s
  cases name with
  | none =>
      exact ⟨⟨_, rfl, quotes_writeString id⟩, ⟨_, rfl, quotes_writeString email⟩, .missing,
        ⟨_, rfl, quotes_writeString token⟩⟩
  | some name =>
      exact ⟨⟨_, rfl, quotes_writeString id⟩, ⟨_, rfl, quotes_writeString email⟩,
        .given (quotes_writeString name), ⟨_, rfl, quotes_writeString token⟩⟩

/-- A session comes back from the text that it is stored as. -/
theorem parse_render (s : Session) : parse s.render = .ok s := by
  rw [render, toValue_eq_objectOf, parse_eq_ok_iff (isObject_compact s.fields)]
  exact s.describes_fields

theorem parse_pretty (s : Session) : parse s.toValue.pretty = .ok s := by
  rw [toValue_eq_objectOf, parse_eq_ok_iff (isObject_pretty s.fields)]
  exact s.describes_fields

/-- No session is stored as the empty text. -/
theorem render_ne_empty (s : Session) : s.render ≠ "" := by
  intro h
  have hchars : s.toValue.writeCompact = [] := by
    have := congrArg String.toList h
    simpa [render, Value.compact] using this
  simp [toValue, Value.writeCompact] at hchars

/-- What a session is written as is read back, whatever its fields hold: the compact text gives the
session, and the pretty text of the redacted session gives it with another token. Neither text is
that of two sessions. A text from which a session is read has the four fields of that session, each
given once and in some spelling; the name alone may be `null` or missing, which both is no name. Of
an object with such fields this session is read, and nothing else. -/
theorem encoding_faithful :
    (∀ s : Session, parse s.render = .ok s ∧
      parse s.redacted.toValue.pretty = .ok { s with token := redactedToken }) ∧
    (∀ s s' : Session, (s.render = s'.render ↔ s = s') ∧
      (s.redacted.toValue.pretty = s'.redacted.toValue.pretty ↔ s.redacted = s'.redacted)) ∧
    (∀ text s, parse text = .ok s → parse s.render = .ok s ∧
      ∃ fields, HasFields keys fields text ∧ Describes fields s) ∧
    ∀ fields text, IsObject fields text → ∀ s, parse text = .ok s ↔ Describes fields s := by
  refine ⟨fun s => ⟨s.parse_render, parse_pretty _⟩, fun s s' => ⟨⟨fun h => ?_, congrArg _⟩,
    ⟨fun h => ?_, fun h => by rw [h]⟩⟩, fun text s h => ⟨s.parse_render, describes_of_parse h⟩,
    fun fields text hobject s => parse_eq_ok_iff hobject⟩
  · have hread := s.parse_render
    rw [h, parse_render] at hread
    exact (Except.ok.inj hread).symm
  · have hread := parse_pretty s.redacted
    rw [h, parse_pretty] at hread
    exact (Except.ok.inj hread).symm

/-- A session is read from a list with `null` for the name, and again from its own text. -/
theorem encoding_faithful_of_list :
    ∃ s, parse "[\"1\",\"mail\", null,\"\\u0074\"]" = .ok s ∧ parse s.render = .ok s ∧
      s.name = none := by
  have hread : parse "[\"1\",\"mail\", null,\"\\u0074\"]" = .ok ⟨"1", "mail", none, "t"⟩ := by
    decide +kernel
  exact ⟨_, hread, (encoding_faithful.2.2.1 _ _ hread).1, rfl⟩

end SessionKeeper.Session
