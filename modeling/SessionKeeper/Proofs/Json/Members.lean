import SessionKeeper.Json.Items
import SessionKeeper.Json.Printer
import SessionKeeper.Proofs.Json.Grammar

/-!
# Members and elements

A text that is an object has members, and a text that is a list has elements, whatever these are
read for. A text is an object in one way, and a written object has the members that were written, in
either layout.
-/

namespace SessionKeeper.Json

/-! ## Members and elements -/

/-- What stands in front of an item, if another stands before that: a comma. -/
def Separates (first : Bool) (cs item : List Char) : Prop :=
  if first then item = cs else skipSpace cs = ',' :: item

/-- The other members of an object and its end stand in front of a rest. Each member has a key and
the text of a value. -/
inductive Members : Bool → List (String × List Char) → List Char → List Char → Prop
  | nil {first : Bool} {cs rest : List Char} (h : skipSpace cs = '}' :: rest) :
      Members first [] cs rest
  | cons {first : Bool} {key : String} {text : List Char} {ms : List (String × List Char)}
      {cs lead inside colon value behind rest : List Char} (hlead : Separates first cs lead)
      (hkey : skipSpace lead = '"' :: inside ++ '"' :: colon) (hspells : Spells inside key.toList)
      (hcolon : skipSpace colon = ':' :: value) (htext : skipSpace value = text ++ behind)
      (hvalue : Stands .value value behind) (hothers : Members false ms behind rest) :
      Members first ((key, text) :: ms) cs rest

/-- The other elements of a list and its end stand in front of a rest, each with its text. -/
inductive Elements : Bool → List (List Char) → List Char → List Char → Prop
  | nil {first : Bool} {cs rest : List Char} (h : skipSpace cs = ']' :: rest) :
      Elements first [] cs rest
  | cons {first : Bool} {text : List Char} {texts : List (List Char)}
      {cs value behind rest : List Char} (hlead : Separates first cs value)
      (htext : skipSpace value = text ++ behind) (hvalue : Stands .value value behind)
      (hothers : Elements false texts behind rest) : Elements first (text :: texts) cs rest

/-- A text is an object with the given members. -/
def IsObject (ms : List (String × List Char)) (text : String) : Prop :=
  ∃ tail rest, skipSpace text.toList = '{' :: tail ∧ Members true ms tail rest ∧
    skipSpace rest = []

/-- A text is a list with the given elements. -/
def IsList (texts : List (List Char)) (text : String) : Prop :=
  ∃ tail rest, skipSpace text.toList = '[' :: tail ∧ Elements true texts tail rest ∧
    skipSpace rest = []

theorem Separates.unique {first : Bool} {cs item item' : List Char} (h : Separates first cs item)
    (h' : Separates first cs item') : item = item' := by
  cases first with
  | true => exact Eq.trans h (Eq.symm h')
  | false => exact (List.cons.inj (Eq.trans (Eq.symm h) h')).2

theorem Separates.length_le {first : Bool} {cs item : List Char} (h : Separates first cs item) :
    item.length ≤ cs.length := by
  cases first with
  | true => exact le_of_eq (congrArg List.length h)
  | false => exact Nat.le_of_lt (length_lt_of_skipSpace h)

/-- What separates items ends neither of the two brackets. -/
theorem Separates.head {first : Bool} {cs item tail : List Char} {c d : Char}
    (h : Separates first cs item) (hitem : skipSpace item = c :: tail) (hd : d ≠ ',')
    (hc : c ≠ d) : ∀ rest, skipSpace cs ≠ d :: rest := by
  intro rest heq
  cases first with
  | true =>
      obtain rfl : item = cs := h
      exact hc (List.cons.inj (hitem.symm.trans heq)).1
  | false => exact hd (List.cons.inj (heq.symm.trans h)).1

theorem Members.stops {ms : List (String × List Char)} {cs rest : List Char}
    (h : Members false ms cs rest) : Stops cs := by
  refine stops_of_skipSpace ?_
  cases h with
  | nil h =>
      rw [h]
      exact Bracket.stops_closing .object rest
  | cons hlead =>
      rw [show skipSpace cs = _ from hlead]
      exact stops_comma _

theorem Elements.stops {texts : List (List Char)} {cs rest : List Char}
    (h : Elements false texts cs rest) : Stops cs := by
  refine stops_of_skipSpace ?_
  cases h with
  | nil h =>
      rw [h]
      exact Bracket.stops_closing .list rest
  | cons hlead =>
      rw [show skipSpace cs = _ from hlead]
      exact stops_comma _

/-- A value has one end, and so one text. -/
theorem text_unique {value text text' behind behind' : List Char}
    (htext : skipSpace value = text ++ behind) (hvalue : Stands .value value behind)
    (hstops : Stops behind) (htext' : skipSpace value = text' ++ behind')
    (hvalue' : Stands .value value behind') (hstops' : Stops behind') :
    text = text' ∧ behind = behind' := by
  have hskip := (skipValue_eq_ok_iff hstops).mpr hvalue
  rw [(skipValue_eq_ok_iff hstops').mpr hvalue'] at hskip
  obtain rfl := Except.ok.inj hskip
  exact ⟨List.append_cancel_right (htext.symm.trans htext'), rfl⟩

/-- A text is an object in one way. -/
theorem Members.unique {first : Bool} {ms ms' : List (String × List Char)}
    {cs rest rest' : List Char} (h : Members first ms cs rest)
    (h' : Members first ms' cs rest') : ms = ms' ∧ rest = rest' := by
  induction h generalizing ms' with
  | nil h =>
      cases h' with
      | nil h' => exact ⟨rfl, (List.cons.inj (h.symm.trans h')).2⟩
      | cons hlead hkey => exact absurd h (hlead.head hkey (by decide) (by decide) _)
  | cons hlead hkey hspells hcolon htext hvalue hothers ih =>
      cases h' with
      | nil h' => exact absurd h' (hlead.head hkey (by decide) (by decide) _)
      | cons hlead' hkey' hspells' hcolon' htext' hvalue' hothers' =>
          obtain rfl := hlead.unique hlead'
          obtain ⟨rfl, rfl⟩ := hspells.quotable.append_inj hspells'.quotable
            (List.cons.inj (hkey.symm.trans hkey')).2
          obtain rfl := String.toList_inj.mp (hspells.unique hspells')
          obtain ⟨-, rfl⟩ := List.cons.inj (hcolon.symm.trans hcolon')
          obtain ⟨rfl, rfl⟩ := text_unique htext hvalue hothers.stops htext' hvalue' hothers'.stops
          obtain ⟨rfl, rfl⟩ := ih hothers'
          exact ⟨rfl, rfl⟩

theorem IsObject.unique {ms ms' : List (String × List Char)} {text : String}
    (h : IsObject ms text) (h' : IsObject ms' text) : ms = ms' := by
  obtain ⟨tail, rest, htail, hmembers, -⟩ := h
  obtain ⟨tail', rest', htail', hmembers', -⟩ := h'
  obtain ⟨-, rfl⟩ := List.cons.inj (htail.symm.trans htail')
  exact (hmembers.unique hmembers').1

theorem Members.length_le {first : Bool} {ms : List (String × List Char)} {cs rest : List Char}
    (h : Members first ms cs rest) : ms.length ≤ cs.length := by
  induction h with
  | nil => exact Nat.zero_le _
  | cons hlead hkey _ hcolon _ hvalue _ ih =>
      have hcs := hlead.length_le
      have hcolon := length_lt_of_skipSpace hcolon
      have hlead := length_lt_of_skipSpace hkey
      have hvalue := hvalue.suffix.length_le
      have hspace := length_skipSpace_le
      simp only [List.append_eq, List.length_append, List.length_cons] at hlead ⊢
      have := hspace _ |>.trans' hvalue
      omega

/-- Where a list ends there are no elements. -/
theorem Elements.eq_nil {first : Bool} {texts : List (List Char)} {cs tail rest : List Char}
    (h : Elements first texts cs rest) (hspace : skipSpace cs = ']' :: tail) :
    texts = [] ∧ tail = rest := by
  cases h with
  | nil h => exact ⟨rfl, (List.cons.inj (hspace.symm.trans h)).2⟩
  | cons hlead _ hvalue hothers =>
      obtain ⟨c, behind, hitem, hc⟩ := hvalue.head hothers.stops
      exact absurd hspace (hlead.head hitem (by decide) hc _)

/-! ## Between the items -/

theorem nextKey_eq_true_iff {first : Bool} {cs rest : List Char} :
    nextKey first cs = .ok (true, rest) ↔
      ∃ lead, Separates first cs lead ∧ skipSpace lead = '"' :: rest := by
  rw [nextKey]
  cases first with
  | true =>
      simp only [Separates, ↓reduceIte, exists_eq_left]
      cases skipSpace cs with
      | nil => simp
      | cons c tail =>
          dsimp only
          split
          next hc => simp [hc]
          next =>
            split
            next hc => simp [hc]
            next hc => simp [hc]
  | false =>
      simp only [Separates, Bool.false_eq_true, ↓reduceIte]
      cases skipSpace cs with
      | nil => simp
      | cons c tail =>
          dsimp only
          split
          next hc => simp [hc]
          next =>
            split
            next hc =>
              subst hc
              simp only [List.cons.injEq, true_and, exists_eq_left']
              cases skipSpace tail with
              | nil => simp
              | cons d tail =>
                  dsimp only
                  split
                  next hd => simp [hd]
                  next hd =>
                    split
                    next => simp [hd]
                    next => simp [hd]
            next hc => simp [hc]

theorem skipSpace_of_nextKey {first : Bool} {cs rest : List Char}
    (h : nextKey first cs = .ok (false, rest)) :
    ∃ tail, skipSpace cs = '}' :: tail ∧ rest = '}' :: tail := by
  rw [nextKey] at h
  split at h
  next => cases h
  next c tail hspace =>
    split at h
    next hc =>
      subst hc
      cases h
      exact ⟨tail, hspace, rfl⟩
    next =>
      split at h
      next => split at h <;> cases h
      next =>
        split at h
        next =>
          split at h
          next => cases h
          next =>
            split at h
            next => cases h
            next => split at h <;> cases h
        next => cases h

theorem nextKey_of_brace {cs tail : List Char} (h : skipSpace cs = '}' :: tail) (first : Bool) :
    nextKey first cs = .ok (false, '}' :: tail) := by
  simp only [nextKey, h, ↓reduceIte]

theorem endObject_eq_ok_iff {cs rest : List Char} :
    endObject cs = .ok rest ↔ skipSpace cs = '}' :: rest := by
  rw [endObject]
  cases skipSpace cs with
  | nil => simp
  | cons c tail =>
      dsimp only
      split
      next hc => simp [hc]
      next hc => split <;> simp [hc]

theorem skipSpace_of_nextElement {first : Bool} {cs rest : List Char}
    (h : nextElement first cs = .ok (false, rest)) :
    ∃ tail, skipSpace cs = ']' :: tail ∧ rest = ']' :: tail := by
  rw [nextElement] at h
  split at h
  next => cases h
  next c tail hspace =>
    split at h
    next hc =>
      subst hc
      cases h
      exact ⟨tail, hspace, rfl⟩
    next =>
      split at h
      next => cases h
      next =>
        split at h
        next =>
          split at h
          next => cases h
          next => split at h <;> cases h
        next => cases h

theorem separates_of_nextElement {first : Bool} {cs rest : List Char}
    (h : nextElement first cs = .ok (true, rest)) :
    ∃ value, Separates first cs value ∧ skipSpace value = rest := by
  rw [nextElement] at h
  split at h
  next => cases h
  next c tail hspace =>
    split at h
    next => cases h
    next =>
      split at h
      next hfirst =>
        cases h
        subst hfirst
        exact ⟨cs, rfl, hspace⟩
      next hfirst =>
        split at h
        next hc =>
          split at h
          next => cases h
          next d behind hbehind =>
            split at h
            next => cases h
            next =>
              cases h
              obtain rfl := Bool.eq_false_iff.mpr hfirst
              subst hc
              exact ⟨tail, hspace, hbehind⟩
        next => cases h

theorem endList_eq_ok_iff {cs rest : List Char} :
    endList cs = .ok rest ↔ skipSpace cs = ']' :: rest := by
  rw [endList]
  cases skipSpace cs with
  | nil => simp
  | cons c tail =>
      dsimp only
      split
      next hc => simp [hc]
      next hc =>
        split
        next =>
          split
          next => simp [hc]
          next => split <;> simp [hc]
        next => simp [hc]

/-! ## Written objects -/

/-- A document that is written as one scalar, in either layout. -/
structure Value.Plain (v : Value) : Prop where
  isScalar : IsScalar v.writeCompact
  writePretty_eq : ∀ level, v.writePretty level = v.writeCompact

theorem isScalar_writeString (s : String) : IsScalar (writeString s) :=
  .text (spells_escaped s.toList).quotable

theorem Value.Plain.null : Value.null.Plain where
  isScalar := .word (by decide)
  writePretty_eq _ := rfl

theorem Value.Plain.text (s : String) : (Value.text s).Plain where
  isScalar := isScalar_writeString s
  writePretty_eq _ := rfl

theorem Value.Plain.natural (n : Nat) : (Value.number (.natural n)).Plain where
  isScalar := .number (denotes_toDigits n).isNumber
  writePretty_eq _ := rfl

/-- The members that an object is written with. -/
def writtenMembers (members : List (String × Value)) : List (String × List Char) :=
  members.map fun m => (m.1, m.2.writeCompact)

/-- A member with a written key stands in front of the others, whatever white space there is before
it and before its value. -/
theorem Members.written {first : Bool} {key : String} {text : List Char}
    {ms : List (String × List Char)} {cs lead value behind rest : List Char}
    (hlead : Separates first cs lead) (hkey : skipSpace lead = writeString key ++ ':' :: value)
    (htext : skipSpace value = text ++ behind) (hscalar : IsScalar text)
    (hothers : Members false ms behind rest) : Members first ((key, text) :: ms) cs rest :=
  .cons hlead (hkey.trans (List.append_assoc _ _ _)) (spells_escaped key.toList) rfl htext
    (.scalar hscalar htext) hothers

/-- No white space stands in front of a scalar. -/
theorem IsScalar.skipSpace_append {s : List Char} (h : IsScalar s) (rest : List Char) :
    skipSpace (s ++ rest) = s ++ rest := by
  obtain ⟨c, s', rfl⟩ := List.exists_cons_of_ne_nil h.ne_nil
  exact Json.skipSpace_append h.skipSpace_eq rest

theorem members_writeCompact (first : Bool) {members : List (String × Value)}
    (h : ∀ m ∈ members, m.2.Plain) (rest : List Char) :
    Members first (writtenMembers members) (writeCompactMembers first members ++ '}' :: rest)
      rest := by
  induction members generalizing first with
  | nil => exact .nil rfl
  | cons m members ih =>
      obtain ⟨key, v⟩ := m
      obtain ⟨hv, hothers⟩ := List.forall_mem_cons.mp h
      have htext := hv.isScalar.skipSpace_append
      simp only [writeCompactMembers, List.append_assoc, List.cons_append]
      cases first with
      | true => exact .written rfl rfl (htext _) hv.isScalar (ih false hothers)
      | false => exact .written rfl rfl (htext _) hv.isScalar (ih false hothers)

theorem skipSpace_indent (level : Nat) (cs : List Char) :
    skipSpace (indent level ++ cs) = skipSpace cs := by
  refine List.dropWhile_append_of_pos fun c hc => ?_
  rw [List.eq_of_mem_replicate hc]
  rfl

theorem members_writePretty (level : Nat) (first : Bool) {members : List (String × Value)}
    (h : ∀ m ∈ members, m.2.Plain) (rest : List Char) :
    Members first (writtenMembers members)
      (writePrettyMembers level first members ++ '\n' :: indent level ++ '}' :: rest) rest := by
  induction members generalizing first with
  | nil =>
      refine .nil ?_
      rw [writePrettyMembers, List.nil_append, List.cons_append, skipSpace_cons_of_isSpace rfl,
        skipSpace_indent]
      rfl
  | cons m members ih =>
      obtain ⟨key, v⟩ := m
      obtain ⟨hv, hothers⟩ := List.forall_mem_cons.mp h
      simp only [writePrettyMembers, hv.writePretty_eq, List.append_assoc, List.cons_append,
        List.nil_append] at ih ⊢
      have hkey : ∀ cs, skipSpace ('\n' :: (indent (level + 1) ++ (writeString key ++ cs))) =
          writeString key ++ cs := by
        intro cs
        rw [skipSpace_cons_of_isSpace rfl, skipSpace_indent]
        rfl
      have htext : ∀ cs, skipSpace (' ' :: (v.writeCompact ++ cs)) = v.writeCompact ++ cs := by
        intro cs
        rw [skipSpace_cons_of_isSpace rfl, hv.isScalar.skipSpace_append]
      cases first with
      | true => exact .written rfl (hkey _) (htext _) hv.isScalar (ih false hothers)
      | false => exact .written rfl (hkey _) (htext _) hv.isScalar (ih false hothers)

/-- A written object has the members that were written. -/
theorem isObject_compact_of_plain {members : List (String × Value)}
    (h : ∀ m ∈ members, m.2.Plain) :
    IsObject (writtenMembers members) (Value.object members).compact := by
  refine ⟨_, [], ?_, members_writeCompact true h [], rfl⟩
  rw [Value.compact, String.toList_ofList]
  rfl

/-- White space between the members of an object makes no difference. -/
theorem isObject_pretty_of_plain {members : List (String × Value)}
    (h : ∀ m ∈ members, m.2.Plain) :
    IsObject (writtenMembers members) (Value.object members).pretty := by
  rw [Value.pretty]
  cases members with
  | nil => exact ⟨['}'], [], by rw [String.toList_ofList]; rfl, .nil rfl, rfl⟩
  | cons m members =>
      refine ⟨_, [], ?_, members_writePretty 0 true h [], rfl⟩
      rw [String.toList_ofList]
      rfl

/-- An object of texts. -/
def objectOf (fields : List (String × String)) : Value :=
  .object (fields.map fun field => (field.1, .text field.2))

/-- The members that an object of texts is written with. -/
def membersOf (fields : List (String × String)) : List (String × List Char) :=
  fields.map fun field => (field.1, writeString field.2)

theorem writtenMembers_texts (fields : List (String × String)) :
    writtenMembers (fields.map fun field => (field.1, .text field.2)) = membersOf fields :=
  List.map_map ..

theorem plain_texts (fields : List (String × String)) :
    ∀ m ∈ fields.map fun field => (field.1, Value.text field.2), m.2.Plain := by
  intro m hm
  obtain ⟨field, -, rfl⟩ := List.mem_map.mp hm
  exact Value.Plain.text field.2

theorem isObject_compact (fields : List (String × String)) :
    IsObject (membersOf fields) (objectOf fields).compact :=
  writtenMembers_texts fields ▸ isObject_compact_of_plain (plain_texts fields)

theorem isObject_pretty (fields : List (String × String)) :
    IsObject (membersOf fields) (objectOf fields).pretty :=
  writtenMembers_texts fields ▸ isObject_pretty_of_plain (plain_texts fields)

end SessionKeeper.Json
