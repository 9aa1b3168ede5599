import Mathlib.Data.List.Nodup
import SessionKeeper.Json.Record
import SessionKeeper.Proofs.Json.Members

/-!
# The fields of a record

A text that is an object has members, and a text that is a list has elements, whatever they are read
for. Reading a record is reading these: each that has a slot fills it, and the others only have to
be values. So the texts of a record can be told apart by their fields alone, and white space, the
way strings are spelled and the order of the members make no difference beyond these.
-/

namespace SessionKeeper.Json

variable {δ ρ α : Type}

/-! ## What a slot takes -/

/-- A slot is filled from a text somewhere. -/
def Slot.Takes (slot : Slot δ) (depth : Nat) (text : List Char) (fill : δ → δ) : Prop :=
  ∃ cs rest, skipSpace cs = text ++ rest ∧ Stops rest ∧ slot.read depth cs = .ok (.ok fill, rest)

/-- A slot reads values, and a text that it takes it takes everywhere. -/
structure Slot.Regular (slot : Slot δ) (depth : Nat) : Prop where
  value : ∀ {cs rest : List Char} {fill : δ → δ}, slot.read depth cs = .ok (.ok fill, rest) →
    Stands .value cs rest
  everywhere : ∀ {text : List Char} {fill : δ → δ}, slot.Takes depth text fill →
    ∀ {cs rest : List Char}, skipSpace cs = text ++ rest → Stops rest →
      slot.read depth cs = .ok (.ok fill, rest)

/-- Members make one draft into another: each fills the slot of its key, which is still free, or has
no slot. -/
inductive Shape.Takes (shape : Shape δ ρ) (depth : Nat) :
    List (String × List Char) → δ → δ → Prop
  | nil (d : δ) : shape.Takes depth [] d d
  | pass {key : String} {text : List Char} {ms : List (String × List Char)} {d e : δ}
      (hslot : shape.slots.find? (fun slot => slot.key == key) = none)
      (hothers : shape.Takes depth ms d e) : shape.Takes depth ((key, text) :: ms) d e
  | fill {key : String} {text : List Char} {ms : List (String × List Char)} {d e : δ} {fill : δ → δ}
      (slot : Slot δ) (hslot : shape.slots.find? (fun slot => slot.key == key) = some slot)
      (hfree : slot.isFilled d = false) (htext : slot.Takes depth text fill)
      (hothers : shape.Takes depth ms (fill d) e) : shape.Takes depth ((key, text) :: ms) d e

/-- Elements make one draft into another: each fills its slot, and slots that are left over may be
absent. -/
inductive Slot.TakeAll (depth : Nat) : List (Slot δ) → List (List Char) → δ → δ → Prop
  | nil (d : δ) : TakeAll depth [] [] d d
  | absent {slot : Slot δ} {slots : List (Slot δ)} {d e : δ} (habsent : slot.mayBeAbsent = true)
      (hothers : TakeAll depth slots [] d e) : TakeAll depth (slot :: slots) [] d e
  | fill {slot : Slot δ} {slots : List (Slot δ)} {text : List Char} {texts : List (List Char)}
      {d e : δ} {fill : δ → δ} (htext : slot.Takes depth text fill)
      (hothers : TakeAll depth slots texts (fill d) e) :
      TakeAll depth (slot :: slots) (text :: texts) d e

/-! ## Objects -/

variable {shape : Shape δ ρ} {depth : Nat}

/-- The members of an object are read into the draft that they make. -/
theorem Shape.Takes.readFieldsWithin {ms : List (String × List Char)} {d e : δ}
    (htakes : shape.Takes depth ms d e) (hregular : ∀ slot ∈ shape.slots, slot.Regular depth)
    {first : Bool} {cs rest : List Char} (h : Members first ms cs rest) {fuel : Nat}
    (hfuel : ms.length < fuel) :
    shape.readFieldsWithin depth fuel first d cs = .ok (e, '}' :: rest) := by
  induction htakes generalizing first cs fuel with
  | nil d =>
      obtain ⟨fuel, rfl⟩ := Nat.exists_eq_add_one_of_ne_zero (Nat.ne_zero_of_lt hfuel)
      cases h with
      | nil h => simp only [Shape.readFieldsWithin, nextKey_of_brace h]
  | pass hslot _ ih =>
      obtain ⟨fuel, rfl⟩ := Nat.exists_eq_add_one_of_ne_zero (Nat.ne_zero_of_lt hfuel)
      cases h with
      | cons hlead hkey hspells hcolon htext hvalue hothers =>
          simp only [Shape.readFieldsWithin, nextKey_eq_true_iff.mpr ⟨_, hlead, hkey⟩,
            List.append_eq, readString_of_spells hspells, hslot, expectColon_eq_ok_iff.mpr hcolon,
            (skipValue_eq_ok_iff hothers.stops).mpr hvalue]
          exact ih hothers (by simpa using hfuel)
  | fill slot hslot hfree htakes _ ih =>
      obtain ⟨fuel, rfl⟩ := Nat.exists_eq_add_one_of_ne_zero (Nat.ne_zero_of_lt hfuel)
      cases h with
      | cons hlead hkey hspells hcolon htext hvalue hothers =>
          have hread := (hregular slot (List.mem_of_find?_eq_some hslot)).everywhere htakes htext
            hothers.stops
          simp only [Shape.readFieldsWithin, nextKey_eq_true_iff.mpr ⟨_, hlead, hkey⟩,
            List.append_eq, readString_of_spells hspells, hslot, hfree, Bool.false_eq_true,
            ↓reduceIte, expectColon_eq_ok_iff.mpr hcolon, hread]
          exact ih hothers (by simpa using hfuel)

/-- What is read into a draft are members that make it. -/
theorem Shape.takes_of_readFieldsWithin (hregular : ∀ slot ∈ shape.slots, slot.Regular depth)
    {fuel : Nat} {first : Bool} {d e : δ} {cs left : List Char}
    (h : shape.readFieldsWithin depth fuel first d cs = .ok (e, left)) :
    ∃ ms rest, left = '}' :: rest ∧ Members first ms cs rest ∧ shape.Takes depth ms d e := by
  induction fuel generalizing first d cs with
  | zero => cases h
  | succ fuel ih =>
      rw [Shape.readFieldsWithin] at h
      split at h
      next => cases h
      next hnext =>
        cases h
        obtain ⟨tail, hspace, rfl⟩ := skipSpace_of_nextKey hnext
        exact ⟨[], tail, rfl, .nil hspace, .nil _⟩
      next hnext =>
        obtain ⟨lead, hlead, hkey⟩ := nextKey_eq_true_iff.mp hnext
        split at h
        next => cases h
        next key colon hstring =>
          obtain ⟨inside, rfl, hspells⟩ := readString_eq_ok_iff.mp hstring
          split at h
          next hslot =>
            split at h
            next => cases h
            next value hcolon =>
              split at h
              next => cases h
              next behind hskip =>
                obtain ⟨ms, rest, rfl, hmembers, htakes⟩ := ih h
                have hvalue := stands_of_skipValue hskip
                obtain ⟨text, htext⟩ := hvalue.exists_text
                exact ⟨(key, text) :: ms, rest, rfl, .cons hlead hkey hspells
                  (expectColon_eq_ok_iff.mp hcolon) htext hvalue hmembers, .pass hslot htakes⟩
          next slot hslot =>
            split at h
            next => cases h
            next hfree =>
              split at h
              next => cases h
              next value hcolon =>
                split at h
                next => cases h
                next => cases h
                next fill behind hread =>
                  obtain ⟨ms, rest, rfl, hmembers, htakes⟩ := ih h
                  have hvalue := (hregular slot (List.mem_of_find?_eq_some hslot)).value hread
                  obtain ⟨text, htext⟩ := hvalue.exists_text
                  exact ⟨(key, text) :: ms, rest, rfl, .cons hlead hkey hspells
                    (expectColon_eq_ok_iff.mp hcolon) htext hvalue hmembers,
                    .fill slot hslot (by simpa using hfree)
                      ⟨value, behind, htext, hmembers.stops, hread⟩ htakes⟩

/-! ## Lists -/

/-- What is read into a draft are elements that make it. -/
theorem Slot.takeAll_of_readElements {slots : List (Slot δ)}
    (hregular : ∀ slot ∈ slots, slot.Regular depth) {index : Nat} {first : Bool} {d e : δ}
    {cs left rest : List Char}
    (h : shape.readElements depth slots index first d cs = .ok (e, left))
    (hend : endList left = .ok rest) :
    ∃ texts, Elements first texts cs rest ∧ Slot.TakeAll depth slots texts d e := by
  induction slots generalizing index first d cs with
  | nil =>
      cases h
      exact ⟨[], .nil (endList_eq_ok_iff.mp hend), .nil _⟩
  | cons slot slots ih =>
      have hothers := fun slot hslot => hregular slot (List.mem_cons_of_mem _ hslot)
      rw [Shape.readElements] at h
      split at h
      next => cases h
      next hnext =>
        split at h
        next habsent =>
          obtain ⟨tail, hspace, rfl⟩ := skipSpace_of_nextElement hnext
          obtain ⟨texts, helements, htakes⟩ := ih hothers h
          obtain ⟨rfl, rfl⟩ := helements.eq_nil rfl
          exact ⟨[], .nil hspace, .absent habsent htakes⟩
        next => cases h
      next hnext =>
        obtain ⟨value, hlead, rfl⟩ := separates_of_nextElement hnext
        split at h
        next => cases h
        next => cases h
        next fill behind hread =>
          obtain ⟨texts, helements, htakes⟩ := ih hothers h
          have hvalue := (hregular slot List.mem_cons_self).value hread
          obtain ⟨text, htext⟩ := hvalue.exists_text
          exact ⟨text :: texts, .cons hlead ((skipSpace_skipSpace value).symm.trans htext)
            (stands_skipSpace hvalue) helements,
            .fill ⟨_, behind, htext, helements.stops, hread⟩ htakes⟩

/-! ## Whole texts -/

/-- The texts that are given for a key. -/
def textsOf (key : String) (fields : List (String × List Char)) : List (List Char) :=
  fields.filterMap fun field => if field.1 = key then some field.2 else none

/-- The fields of a text that is read as a record: the members of an object, or the elements of a
list under the keys in their order. -/
def HasFields (keys : List String) (fields : List (String × List Char)) (text : String) : Prop :=
  IsObject fields text ∨
    ∃ texts, IsList texts text ∧ texts.length ≤ keys.length ∧ fields = keys.zip texts

/-- A shape whose slots have keys of their own and leave each other alone. -/
structure Shape.Lawful (shape : Shape δ ρ) (depth : Nat) : Prop where
  regular : ∀ slot ∈ shape.slots, slot.Regular depth
  distinct : (shape.slots.map fun slot => slot.key).Nodup
  free : ∀ slot ∈ shape.slots, slot.isFilled shape.blank = false
  apart : ∀ slot ∈ shape.slots, ∀ other ∈ shape.slots, other.key ≠ slot.key →
    ∀ {text : List Char} {fill : δ → δ}, slot.Takes depth text fill →
      ∀ d, other.isFilled (fill d) = other.isFilled d

theorem textsOf_cons_self (key : String) (text : List Char) (fields : List (String × List Char)) :
    textsOf key ((key, text) :: fields) = text :: textsOf key fields := by
  simp [textsOf]

theorem textsOf_cons_of_ne {key other : String} (h : other ≠ key) (text : List Char)
    (fields : List (String × List Char)) :
    textsOf key ((other, text) :: fields) = textsOf key fields := by
  simp [textsOf, h]

theorem Shape.find?_slots (hdistinct : (shape.slots.map fun slot => slot.key).Nodup)
    {slot : Slot δ} (hslot : slot ∈ shape.slots) :
    shape.slots.find? (fun other => other.key == slot.key) = some slot := by
  obtain ⟨found, hfound⟩ : ∃ found, shape.slots.find? (fun other => other.key == slot.key) =
      some found := by
    rw [← Option.isSome_iff_exists, List.find?_isSome]
    exact ⟨slot, hslot, by simp⟩
  have hkey : found.key = slot.key := by simpa using List.find?_some hfound
  rw [hfound, List.inj_on_of_nodup_map hdistinct (List.mem_of_find?_eq_some hfound) hslot hkey]

/-- Elements fill slots as members would that have the keys of these. -/
theorem Slot.TakeAll.takes (hlawful : shape.Lawful depth) {slots : List (Slot δ)}
    (hslots : slots.Sublist shape.slots) {texts : List (List Char)} {d e : δ}
    (h : Slot.TakeAll depth slots texts d e)
    (hfree : ∀ slot ∈ slots, slot.isFilled d = false) :
    texts.length ≤ slots.length ∧
      shape.Takes depth ((slots.map fun slot => slot.key).zip texts) d e := by
  induction h with
  | nil d => exact ⟨Nat.le_refl _, .nil d⟩
  | absent _ _ ih =>
      obtain ⟨-, htakes⟩ := ih ((List.sublist_cons_self _ _).trans hslots)
        fun slot hslot => hfree slot (List.mem_cons_of_mem _ hslot)
      rw [List.zip_nil_right] at htakes ⊢
      exact ⟨Nat.zero_le _, htakes⟩
  | @fill slot slots text texts d e fill htext _ ih =>
      have hmem : slot ∈ shape.slots := hslots.subset List.mem_cons_self
      have hothers := (List.sublist_cons_self slot slots).trans hslots
      have hdistinct := (hslots.map fun slot => slot.key).nodup hlawful.distinct
      rw [List.map_cons, List.nodup_cons] at hdistinct
      obtain ⟨hlength, htakes⟩ := ih hothers fun other hother => by
        rw [hlawful.apart slot hmem other (hothers.subset hother) ?_ htext]
        · exact hfree other (List.mem_cons_of_mem _ hother)
        · intro hkey
          exact hdistinct.1 (hkey ▸ List.mem_map_of_mem hother)
      exact ⟨Nat.succ_le_succ hlength, .fill slot (Shape.find?_slots hlawful.distinct hmem)
        (hfree slot List.mem_cons_self) htext htakes⟩

theorem Shape.finish_eq_ok {d : δ} {cs rest : List Char} {left : Nat} {r : ρ}
    (h : shape.finish d cs left = .ok (r, rest)) : shape.build d = .ok r ∧ rest = cs := by
  rw [Shape.finish] at h
  split at h
  next hbuild =>
    cases h
    exact ⟨hbuild, rfl⟩
  next => cases h

/-- What a record is read from: members behind a brace, or elements behind a bracket. -/
theorem Shape.exists_items (hregular : ∀ slot ∈ shape.slots, slot.Regular (depth - 1))
    {cs rest : List Char} {r : ρ} (h : shape.read depth cs = .ok (r, rest)) :
    ∃ d, shape.build d = .ok r ∧
      ((∃ tail ms, skipSpace cs = '{' :: tail ∧ Members true ms tail rest ∧
          shape.Takes (depth - 1) ms shape.blank d) ∨
        ∃ tail texts, skipSpace cs = '[' :: tail ∧ Elements true texts tail rest ∧
          Slot.TakeAll (depth - 1) shape.slots texts shape.blank d) := by
  rw [Shape.read] at h
  split at h
  next => cases h
  next c tail hspace =>
    split at h
    next hc =>
      subst hc
      split at h
      next => cases h
      next =>
        split at h
        next => cases h
        next d behind helements =>
          split at h
          next => cases h
          next hend =>
            obtain ⟨hbuild, rfl⟩ := Shape.finish_eq_ok h
            obtain ⟨texts, htexts, htakes⟩ :=
              Slot.takeAll_of_readElements hregular helements hend
            exact ⟨d, hbuild, .inr ⟨tail, texts, hspace, htexts, htakes⟩⟩
    next =>
      split at h
      next hc =>
        subst hc
        split at h
        next => cases h
        next =>
          split at h
          next => cases h
          next d behind hfields =>
            split at h
            next => cases h
            next hend =>
              obtain ⟨hbuild, rfl⟩ := Shape.finish_eq_ok h
              obtain ⟨ms, last, rfl, hmembers, htakes⟩ :=
                Shape.takes_of_readFieldsWithin hregular hfields
              obtain ⟨-, rfl⟩ := List.cons.inj (endObject_eq_ok_iff.mp hend)
              exact ⟨d, hbuild, .inl ⟨tail, ms, hspace, hmembers, htakes⟩⟩
      next => cases h

/-- A text that is read as a record has fields that make it. -/
theorem Shape.exists_fields (hlawful : shape.Lawful (depthLimit - 1)) {text : String} {r : ρ}
    (h : readWhole shape.read text = .ok r) :
    ∃ fields d, HasFields (shape.slots.map fun slot => slot.key) fields text ∧
      shape.Takes (depthLimit - 1) fields shape.blank d ∧ shape.build d = .ok r := by
  rw [readWhole] at h
  split at h
  next => cases h
  next rest hread =>
    split at h
    next hrest =>
      cases h
      obtain ⟨d, hbuild, ⟨tail, ms, hspace, hmembers, htakes⟩ |
        ⟨tail, texts, hspace, htexts, htakes⟩⟩ := Shape.exists_items hlawful.regular hread
      · exact ⟨ms, d, .inl ⟨tail, rest, hspace, hmembers, hrest⟩, htakes, hbuild⟩
      · obtain ⟨hlength, htakes⟩ := htakes.takes hlawful (List.Sublist.refl _) hlawful.free
        refine ⟨_, d, .inr ⟨texts, ⟨tail, rest, hspace, htexts, hrest⟩, ?_, rfl⟩, htakes, hbuild⟩
        rwa [List.length_map]
    next => cases h

/-- An object is read as the record that its members make. -/
theorem Shape.readWhole_of_isObject (hregular : ∀ slot ∈ shape.slots, slot.Regular (depthLimit - 1))
    {ms : List (String × List Char)} {text : String} {d : δ} {r : ρ} (hobject : IsObject ms text)
    (htakes : shape.Takes (depthLimit - 1) ms shape.blank d) (hbuild : shape.build d = .ok r) :
    readWhole shape.read text = .ok r := by
  obtain ⟨tail, rest, hspace, hmembers, hrest⟩ := hobject
  have hfields : shape.readFieldsWithin (depthLimit - 1) (tail.length + 1) true shape.blank tail =
      .ok (d, '}' :: rest) :=
    htakes.readFieldsWithin hregular hmembers (Nat.lt_succ_of_le hmembers.length_le)
  have hread : shape.read depthLimit text.toList = .ok (r, rest) := by
    simp only [Shape.read, hspace, Char.reduceEq, ↓reduceIte, show ¬ depthLimit ≤ 1 by decide,
      hfields, show endObject ('}' :: rest) = .ok rest from rfl, Shape.finish, hbuild]
  simp only [readWhole, hread, hrest]

/-- An object is read as the record that its members make, and as nothing else. -/
theorem Shape.readWhole_eq_ok_iff (hlawful : shape.Lawful (depthLimit - 1))
    {ms : List (String × List Char)} {text : String} (hobject : IsObject ms text) {r : ρ} :
    readWhole shape.read text = .ok r ↔
      ∃ d, shape.Takes (depthLimit - 1) ms shape.blank d ∧ shape.build d = .ok r := by
  constructor
  · intro hread
    obtain ⟨fields, d, hfields | ⟨_, ⟨_, _, hspace, -, -⟩, -, -⟩, hmade⟩ :=
      Shape.exists_fields hlawful hread
    · exact ⟨d, hfields.unique hobject ▸ hmade⟩
    · obtain ⟨_, _, hbrace, -, -⟩ := hobject
      cases hspace.symm.trans hbrace
  · rintro ⟨d, htakes, hbuild⟩
    exact Shape.readWhole_of_isObject hlawful.regular hobject htakes hbuild

/-- Reading an object, where a property says of each draft that its members may make which record it
is a draft of. -/
theorem Shape.readWhole_iff_of_build (hlawful : shape.Lawful (depthLimit - 1))
    {ms : List (String × List Char)} {text : String} (hobject : IsObject ms text) {r : ρ} {P : Prop}
    (hbuild : ∀ {d}, shape.Takes (depthLimit - 1) ms shape.blank d → (shape.build d = .ok r ↔ P))
    (htakes : P → ∃ d, shape.Takes (depthLimit - 1) ms shape.blank d) :
    readWhole shape.read text = .ok r ↔ P := by
  rw [Shape.readWhole_eq_ok_iff hlawful hobject]
  constructor
  · rintro ⟨d, hd, hr⟩
    exact (hbuild hd).mp hr
  · intro h
    obtain ⟨d, hd⟩ := htakes h
    exact ⟨d, hd, (hbuild hd).mpr h⟩

/-- There is a draft that members make, if each slot is given at most one text, which it takes. -/
theorem Shape.exists_takes (hlawful : shape.Lawful depth) {fields : List (String × List Char)}
    {d : δ} (h : ∀ slot ∈ shape.slots, textsOf slot.key fields = [] ∨ slot.isFilled d = false ∧
      ∃ text fill, textsOf slot.key fields = [text] ∧ slot.Takes depth text fill) :
    ∃ e, shape.Takes depth fields d e := by
  induction fields generalizing d with
  | nil => exact ⟨d, .nil d⟩
  | cons field fields ih =>
      obtain ⟨key, text⟩ := field
      cases hslot : shape.slots.find? (fun slot => slot.key == key) with
      | none =>
          obtain ⟨e, htakes⟩ := ih fun slot hmem => by
            have hkey : key ≠ slot.key := by
              rintro rfl
              simpa using List.find?_eq_none.mp hslot slot hmem
            have := h slot hmem
            rwa [textsOf_cons_of_ne hkey] at this
          exact ⟨e, .pass hslot htakes⟩
      | some slot =>
          obtain rfl : slot.key = key := by simpa using List.find?_some hslot
          have hmem := List.mem_of_find?_eq_some hslot
          have hgiven := h slot hmem
          rw [textsOf_cons_self] at hgiven
          obtain hnone | ⟨hfree, text', fill, heq, htext⟩ := hgiven
          · cases hnone
          · obtain ⟨rfl, hothers⟩ := List.cons.inj heq
            obtain ⟨e, htakes⟩ := ih (d := fill d) fun other hother => by
              by_cases hkey : slot.key = other.key
              · exact .inl (hkey ▸ hothers)
              · have := h other hother
                rw [textsOf_cons_of_ne hkey] at this
                rwa [hlawful.apart slot hmem other hother (Ne.symm hkey) htext]
            exact ⟨e, .fill slot hslot hfree htext htakes⟩

/-! ## Slots that keep what they read -/

/-- A slot keeps what a text stands for in one place of the draft. -/
structure Slot.Keeps (slot : Slot δ) (depth : Nat) (get : δ → Option α) (put : α → δ → δ)
    (Text : List Char → α → Prop) : Prop where
  isFilled_eq : ∀ d, slot.isFilled d = (get d).isSome
  get_put : ∀ a d, get (put a d) = some a
  value : ∀ {text : List Char} {a : α}, Text text a → IsValue text
  sound : ∀ {cs rest : List Char} {fill : δ → δ}, slot.read depth cs = .ok (.ok fill, rest) →
    ∃ text a, skipSpace cs = text ++ rest ∧ Text text a ∧ fill = put a
  complete : ∀ {text cs rest : List Char} {a : α}, Text text a → skipSpace cs = text ++ rest →
    Stops rest → slot.read depth cs = .ok (.ok (put a), rest)

variable {slot : Slot δ} {get : δ → Option α} {put : α → δ → δ} {Text : List Char → α → Prop}

theorem Slot.Keeps.takes_iff (h : slot.Keeps depth get put Text) {text : List Char} {fill : δ → δ} :
    slot.Takes depth text fill ↔ ∃ a, Text text a ∧ fill = put a := by
  constructor
  · rintro ⟨cs, rest, hspace, -, hread⟩
    obtain ⟨text', a, hspace', htext, rfl⟩ := h.sound hread
    obtain rfl : text = text' := List.append_cancel_right (hspace.symm.trans hspace')
    exact ⟨a, htext, rfl⟩
  · rintro ⟨a, htext, rfl⟩
    have hspace : skipSpace text = text ++ [] := by
      rw [List.append_nil, (h.value htext).skipSpace_eq]
    exact ⟨text, [], hspace, stops_nil, h.complete htext hspace stops_nil⟩

theorem Slot.Keeps.regular (h : slot.Keeps depth get put Text) : slot.Regular depth where
  value hread := by
    obtain ⟨text, a, hspace, htext, -⟩ := h.sound hread
    exact (h.value htext).stands_of_eq hspace
  everywhere htakes _ _ hspace hstops := by
    obtain ⟨a, htext, rfl⟩ := h.takes_iff.mp htakes
    exact h.complete htext hspace hstops

/-- A text that a slot keeps stands for one thing. -/
theorem Slot.Keeps.unique (h : slot.Keeps depth get put Text) {text : List Char} {a b : α}
    (ha : Text text a) (hb : Text text b) (d : δ) : a = b := by
  have hspace : skipSpace text = text ++ [] := by
    rw [List.append_nil, (h.value ha).skipSpace_eq]
  have hread := h.complete ha hspace stops_nil
  rw [h.complete hb hspace stops_nil] at hread
  have hput : put b = put a := Except.ok.inj (Prod.mk.inj (Except.ok.inj hread)).1
  have hget := h.get_put b d
  rw [hput, h.get_put] at hget
  exact Option.some.inj hget

/-- A slot of a shape keeps what it reads in a place that no other slot touches. -/
structure Shape.Keeps (shape : Shape δ ρ) (depth : Nat) (slot : Slot δ) (get : δ → Option α)
    (put : α → δ → δ) (Text : List Char → α → Prop) : Prop
    extends slot.Keeps depth get put Text where
  found : shape.slots.find? (fun other => other.key == slot.key) = some slot
  blank : get shape.blank = none
  apart : ∀ other ∈ shape.slots, other.key ≠ slot.key → ∀ {text : List Char} {fill : δ → δ},
    other.Takes depth text fill → ∀ d, get (fill d) = get d

theorem Shape.Keeps.isFilled_blank (h : shape.Keeps depth slot get put Text) :
    slot.isFilled shape.blank = false := by
  rw [h.isFilled_eq, h.blank]
  rfl

/-- A slot takes the one text that is given for its key. -/
theorem Shape.Keeps.accepts (h : shape.Keeps depth slot get put Text) {texts : List (List Char)}
    {a : α} (hgiven : ∃ text, texts = [text] ∧ Text text a) :
    slot.isFilled shape.blank = false ∧
      ∃ text fill, texts = [text] ∧ slot.Takes depth text fill := by
  obtain ⟨text, rfl, htext⟩ := hgiven
  exact ⟨h.isFilled_blank, text, put a, rfl, h.takes_iff.mpr ⟨a, htext, rfl⟩⟩

/-- If each slot keeps what it reads in a place of its own, the slots leave each other alone. -/
theorem Shape.Lawful.of_keeps (hdistinct : (shape.slots.map fun slot => slot.key).Nodup)
    (h : ∀ slot ∈ shape.slots, ∃ (α : Type) (get : δ → Option α) (put : α → δ → δ)
      (Text : List Char → α → Prop), shape.Keeps depth slot get put Text) :
    shape.Lawful depth where
  regular slot hslot := by
    obtain ⟨_, _, _, _, hkeeps⟩ := h slot hslot
    exact hkeeps.regular
  distinct := hdistinct
  free slot hslot := by
    obtain ⟨_, _, _, _, hkeeps⟩ := h slot hslot
    exact hkeeps.isFilled_blank
  apart slot hslot other hother hkey _ _ htext d := by
    obtain ⟨_, _, _, _, hkeeps⟩ := h other hother
    rw [hkeeps.isFilled_eq, hkeeps.isFilled_eq, hkeeps.apart slot hslot (Ne.symm hkey) htext]

/-- What is in the place of a slot comes from the one text that is given for its key. -/
theorem Shape.Keeps.of_takes (h : shape.Keeps depth slot get put Text)
    {fields : List (String × List Char)} {d e : δ} (htakes : shape.Takes depth fields d e) :
    (get d = none → textsOf slot.key fields = [] ∧ get e = none ∨
      ∃ text a, textsOf slot.key fields = [text] ∧ Text text a ∧ get e = some a) ∧
    ((get d).isSome = true → textsOf slot.key fields = [] ∧ get e = get d) := by
  induction htakes with
  | nil d => exact ⟨fun hd => .inl ⟨rfl, hd⟩, fun _ => ⟨rfl, rfl⟩⟩
  | @pass key text fields d e hnone _ ih =>
      have hkey : key ≠ slot.key := by
        rintro rfl
        rw [h.found] at hnone
        cases hnone
      rwa [textsOf_cons_of_ne hkey]
  | @fill key text fields d e fill other hother hfree htext _ ih =>
      have hname : other.key = key := by simpa using List.find?_some hother
      by_cases hkey : key = slot.key
      · subst hkey
        obtain rfl : slot = other := Option.some.inj (h.found.symm.trans hother)
        obtain ⟨a, hgiven, rfl⟩ := h.takes_iff.mp htext
        rw [h.isFilled_eq] at hfree
        have hput : get (put a d) = some a := h.get_put a d
        obtain ⟨hothers, he⟩ := ih.2 (by rw [hput]; rfl)
        refine ⟨fun _ => .inr ⟨text, a, ?_, hgiven, he.trans hput⟩, fun hd => ?_⟩
        · rw [textsOf_cons_self, hothers]
        · rw [hd] at hfree
          cases hfree
      · rw [textsOf_cons_of_ne hkey]
        rw [h.apart other (List.mem_of_find?_eq_some hother) (hname ▸ hkey) htext d] at ih
        exact ih

/-- What is meant by the texts that are given for a key which may be missing, or be `null`. -/
inductive OrMissing (Text : List Char → α → Prop) : List (List Char) → Option α → Prop
  | missing : OrMissing Text [] none
  | null : OrMissing Text [['n', 'u', 'l', 'l']] none
  | given {text : List Char} {a : α} (h : Text text a) : OrMissing Text [text] (some a)

/-- What a text or `null` stands for. -/
inductive OrNull (Text : List Char → α → Prop) : List Char → Option α → Prop
  | null : OrNull Text ['n', 'u', 'l', 'l'] none
  | given {text : List Char} {a : α} (h : Text text a) : OrNull Text text (some a)

theorem OrMissing.given_or_nil {texts : List (List Char)} {a : Option α}
    (h : OrMissing Text texts a) : texts = [] ∨ ∃ b text, texts = [text] ∧ OrNull Text text b := by
  cases h with
  | missing => exact .inl rfl
  | null => exact .inr ⟨_, _, rfl, .null⟩
  | given h => exact .inr ⟨_, _, rfl, .given h⟩

/-- What is meant by the texts that are given for a key which may be missing, and then means
something all the same. -/
inductive OrInitial (Text : List Char → α → Prop) (initial : α) : List (List Char) → α → Prop
  | missing : OrInitial Text initial [] initial
  | given {text : List Char} {a : α} (h : Text text a) : OrInitial Text initial [text] a

theorem OrInitial.given_or_nil {texts : List (List Char)} {initial a : α}
    (h : OrInitial Text initial texts a) : texts = [] ∨ ∃ text, texts = [text] ∧ Text text a := by
  cases h with
  | missing => exact .inl rfl
  | given h => exact .inr ⟨_, rfl, h⟩

theorem OrInitial.elim {texts : List (List Char)} {initial a : α} {P : α → Prop}
    (h : OrInitial Text initial texts a) (hinitial : P initial)
    (hgiven : ∀ {text : List Char} {b : α}, Text text b → P b) : P a := by
  cases h with
  | missing => exact hinitial
  | given h => exact hgiven h

/-- What a record has to have is given once. -/
theorem Shape.Keeps.get_eq_some_iff (h : shape.Keeps depth slot get put Text)
    {fields : List (String × List Char)} {e : δ} (htakes : shape.Takes depth fields shape.blank e)
    {a : α} : get e = some a ↔ ∃ text, textsOf slot.key fields = [text] ∧ Text text a := by
  rcases (h.of_takes htakes).1 h.blank with ⟨hnone, he⟩ | ⟨text, b, hgiven, htext, he⟩
  · rw [hnone, he]
    simp
  · rw [hgiven, he]
    constructor
    · intro heq
      obtain rfl := Option.some.inj heq
      exact ⟨text, rfl, htext⟩
    · rintro ⟨_, heq, ha⟩
      obtain ⟨rfl, -⟩ := List.cons.inj heq
      rw [h.unique htext ha e]

/-- What a record may have is missing, `null` or given once. -/
theorem Shape.Keeps.join_eq_iff {get : δ → Option (Option α)} {put : Option α → δ → δ}
    (h : shape.Keeps depth slot get put (OrNull Text)) {fields : List (String × List Char)} {e : δ}
    (htakes : shape.Takes depth fields shape.blank e) {a : Option α} :
    (get e).join = a ↔ OrMissing Text (textsOf slot.key fields) a := by
  rcases (h.of_takes htakes).1 h.blank with ⟨hnone, he⟩ | ⟨text, b, hgiven, htext, he⟩
  · rw [hnone, he]
    constructor
    · rintro rfl
      exact .missing
    · intro ha
      cases ha
      rfl
  · rw [hgiven, he]
    constructor
    · rintro rfl
      cases htext with
      | null => exact .null
      | given htext => exact .given htext
    · intro ha
      cases ha with
      | null => exact h.unique htext .null e
      | given ha => exact h.unique htext (.given ha) e

/-- What stands for itself when it is missing is given at most once. -/
theorem Shape.Keeps.getD_eq_iff (h : shape.Keeps depth slot get put Text)
    {fields : List (String × List Char)} {e : δ} (htakes : shape.Takes depth fields shape.blank e)
    (initial : α) {a : α} :
    (get e).getD initial = a ↔ OrInitial Text initial (textsOf slot.key fields) a := by
  rcases (h.of_takes htakes).1 h.blank with ⟨hnone, he⟩ | ⟨text, b, hgiven, htext, he⟩
  · rw [hnone, he]
    constructor
    · rintro rfl
      exact .missing
    · rintro ⟨⟩
      rfl
  · rw [hgiven, he]
    constructor
    · rintro rfl
      exact .given htext
    · rintro (_ | ha)
      exact h.unique htext ha e

/-! ## Readers of texts -/

/-- A reader finds exactly what a text stands for. -/
structure Reads (read : Reader α) (Text : List Char → α → Prop) : Prop where
  value : ∀ {text : List Char} {a : α}, Text text a → IsValue text
  sound : ∀ {cs rest : List Char} {a : α}, read cs = .ok (a, rest) →
    ∃ text, skipSpace cs = text ++ rest ∧ Text text a
  complete : ∀ {text cs rest : List Char} {a : α}, Text text a → skipSpace cs = text ++ rest →
    Stops rest → read cs = .ok (a, rest)

theorem reads_readText (expected : String) : Reads (readText expected) Quotes where
  value := by
    rintro text s ⟨inside, rfl, hinside⟩
    exact (IsScalar.text hinside.quotable).isValue
  sound h := by
    rw [readText] at h
    split at h
    next => cases h
    next c tail hspace =>
      split at h
      next hc =>
        subst hc
        obtain ⟨inside, rfl, hinside⟩ := readString_eq_ok_iff.mp h
        exact ⟨'"' :: inside ++ ['"'], by simp [hspace], inside, rfl, hinside⟩
      next => cases h
  complete := by
    rintro text cs rest s ⟨inside, rfl, hinside⟩ hspace -
    rw [List.cons_append, List.cons_append, List.append_assoc] at hspace
    simp only [readText, hspace, ↓reduceIte, List.singleton_append,
      readString_of_spells hinside]

theorem readOptional_eq_ok {read : Reader α} {cs rest : List Char} {a : Option α}
    (h : readOptional read cs = .ok (a, rest)) :
    a = none ∧ skipSpace cs = ['n', 'u', 'l', 'l'] ++ rest ∨
      ∃ b, a = some b ∧ read cs = .ok (b, rest) := by
  have hgiven : (read cs).map (fun p => (some p.1, p.2)) = .ok (a, rest) →
      ∃ b, a = some b ∧ read cs = .ok (b, rest) := by
    intro hmap
    obtain ⟨⟨b, left⟩, hvalue, heq⟩ := map_eq_ok hmap
    cases heq
    exact ⟨b, rfl, hvalue⟩
  rw [readOptional] at h
  split at h
  next => exact .inr (hgiven h)
  next c tail hspace =>
    split at h
    next hc =>
      subst hc
      obtain ⟨left, hword, heq⟩ := map_eq_ok h
      cases heq
      exact .inl ⟨rfl, by rw [hspace, expectWord_eq_ok_iff.mp hword]; rfl⟩
    next => exact .inr (hgiven h)

theorem readOptional_of_null {cs rest : List Char}
    (hspace : skipSpace cs = ['n', 'u', 'l', 'l'] ++ rest) (read : Reader α) :
    readOptional read cs = .ok (none, rest) := by
  have hword : expectWord ['u', 'l', 'l'] (['u', 'l', 'l'] ++ rest) = .ok rest :=
    expectWord_eq_ok_iff.mpr rfl
  rw [readOptional, hspace]
  simp only [List.cons_append, ↓reduceIte]
  exact congrArg (Except.map _) hword

theorem readOptional_of_read {read : Reader α} {cs rest : List Char} {a : α}
    (h : read cs = .ok (a, rest)) (hother : (skipSpace cs).head? ≠ some 'n') :
    readOptional read cs = .ok (some a, rest) := by
  rw [readOptional, h]
  split
  next => rfl
  next c tail hspace =>
    rw [if_neg]
    · rfl
    · rintro rfl
      exact hother (by rw [hspace]; rfl)

/-- What does not begin like `null` does not in front of a rest either. -/
theorem IsValue.head?_append {text : List Char} (h : IsValue text)
    (hother : text.head? ≠ some 'n') (rest : List Char) : (text ++ rest).head? ≠ some 'n' := by
  obtain ⟨c, tail, hspace, -⟩ := h.stands.head stops_nil
  obtain rfl : text = c :: tail := h.skipSpace_eq.symm.trans hspace
  exact hother

theorem Reads.orNull {read : Reader α} (h : Reads read Text)
    (hother : ∀ {text : List Char} {a : α}, Text text a → text.head? ≠ some 'n') :
    Reads (readOptional read) (OrNull Text) where
  value := by
    rintro text a (_ | htext)
    · exact IsScalar.isValue (.word (by decide))
    · exact h.value htext
  sound hread := by
    obtain ⟨rfl, hspace⟩ | ⟨b, rfl, hvalue⟩ := readOptional_eq_ok hread
    · exact ⟨_, hspace, .null⟩
    · obtain ⟨text, hspace, htext⟩ := h.sound hvalue
      exact ⟨text, hspace, .given htext⟩
  complete := by
    rintro text cs rest a (_ | htext) hspace hstops
    · exact readOptional_of_null hspace read
    · refine readOptional_of_read (h.complete htext hspace hstops) ?_
      rw [hspace]
      exact (h.value htext).head?_append (hother htext) rest

/-- A slot that took a value read one. -/
theorem Slot.read_of_eq_ok {key : String} {mayBeAbsent : Bool} {get : δ → Option α}
    {put : α → δ → δ} {read : Nat → Reader α} {depth : Nat} {cs rest : List Char} {fill : δ → δ}
    (h : (Slot.of key mayBeAbsent get put read).read depth cs = .ok (.ok fill, rest)) :
    ∃ a, read depth cs = .ok (a, rest) ∧ fill = put a := by
  obtain ⟨⟨a, left⟩, hread, heq⟩ := map_eq_ok h
  cases heq
  exact ⟨a, hread, rfl⟩

theorem Reads.keeps {read : Nat → Reader α} (h : Reads (read depth) Text) {key : String}
    {mayBeAbsent : Bool} (hput : ∀ a d, get (put a d) = some a) :
    (Slot.of key mayBeAbsent get put read).Keeps depth get put Text where
  isFilled_eq _ := rfl
  get_put := hput
  value := h.value
  sound hread := by
    obtain ⟨a, hvalue, rfl⟩ := Slot.read_of_eq_ok hread
    obtain ⟨text, hspace, htext⟩ := h.sound hvalue
    exact ⟨text, a, hspace, htext, rfl⟩
  complete htext hspace hstops := by
    simp only [Slot.of, h.complete htext hspace hstops]
    rfl

end SessionKeeper.Json
