import SessionKeeper.Json.Items
import SessionKeeper.Proofs.Json.Numeral
import SessionKeeper.Proofs.Json.Text

/-!
# The grammar of JSON

Which texts are values, with brackets nested to any depth. Passing over a value keeps a list of the
brackets that are open in place of a derivation; it accepts what the grammar derives and stops where
the derivation ends.
-/

namespace SessionKeeper.Json

/-! ## The grammar -/

/-- The values that have a name. -/
def words : List (List Char) :=
  [['n', 'u', 'l', 'l'], ['t', 'r', 'u', 'e'], ['f', 'a', 'l', 's', 'e']]

/-- A value without brackets. -/
inductive IsScalar : List Char → Prop
  | word {cs : List Char} (h : cs ∈ words) : IsScalar cs
  | number {cs : List Char} (h : IsNumber cs) : IsScalar cs
  | text {inside : List Char} (h : Quotable inside) : IsScalar ('"' :: inside ++ ['"'])

/-- The character that opens a bracket. -/
def Bracket.opening : Bracket → Char
  | .list => '['
  | .object => '{'

/-- What stands before an item of a bracket: the key and the colon of a member. -/
def Bracket.Leads : Bracket → List Char → List Char → Prop
  | .list, cs, item => item = cs
  | .object, cs, item =>
    ∃ inside behind, skipSpace cs = '"' :: inside ++ '"' :: behind ∧ Quotable inside ∧
      skipSpace behind = ':' :: item

/-- A part of a text: a value, or what follows an item of a bracket up to the end of that. -/
inductive Part
  | value
  | others (b : Bracket)

/-- A part stands in front of a rest, behind white space. -/
inductive Stands : Part → List Char → List Char → Prop
  | scalar {s cs rest : List Char} (hscalar : IsScalar s) (h : skipSpace cs = s ++ rest) :
      Stands .value cs rest
  | empty (b : Bracket) {cs tail rest : List Char} (hopen : skipSpace cs = b.opening :: tail)
      (hclose : skipSpace tail = b.closing :: rest) : Stands .value cs rest
  | items (b : Bracket) {cs tail item behind rest : List Char}
      (hopen : skipSpace cs = b.opening :: tail) (hlead : b.Leads tail item)
      (hitem : Stands .value item behind) (hothers : Stands (.others b) behind rest) :
      Stands .value cs rest
  | close (b : Bracket) {cs rest : List Char} (hclose : skipSpace cs = b.closing :: rest) :
      Stands (.others b) cs rest
  | next (b : Bracket) {cs tail item behind rest : List Char}
      (hcomma : skipSpace cs = ',' :: tail) (hlead : b.Leads tail item)
      (hitem : Stands .value item behind) (hothers : Stands (.others b) behind rest) :
      Stands (.others b) cs rest

/-! ## White space -/

theorem length_skipSpace_le (cs : List Char) : (skipSpace cs).length ≤ cs.length :=
  (List.dropWhile_sublist isSpace).length_le

theorem length_lt_of_skipSpace {cs tail : List Char} {c : Char} (h : skipSpace cs = c :: tail) :
    tail.length < cs.length := by
  have hlength := length_skipSpace_le cs
  rw [h, List.length_cons] at hlength
  omega

theorem isSpace_of_skipSpace {cs tail : List Char} {c : Char} (h : skipSpace cs = c :: tail) :
    isSpace c = false := by
  have hhead := List.head?_dropWhile_not isSpace cs
  rw [skipSpace] at h
  rw [h] at hhead
  exact hhead

theorem skipSpace_skipSpace (cs : List Char) : skipSpace (skipSpace cs) = skipSpace cs := by
  cases h : skipSpace cs with
  | nil => rfl
  | cons c tail => exact skipSpace_cons_of_not_isSpace (isSpace_of_skipSpace h) tail

/-- A number cannot go on with white space. -/
theorem stops_of_skipSpace {cs : List Char} (h : Stops (skipSpace cs)) : Stops cs := by
  intro c tail heq
  subst heq
  cases hspace : isSpace c with
  | false =>
      rw [skipSpace_cons_of_not_isSpace hspace] at h
      exact h c tail rfl
  | true =>
      simp only [isSpace, Bool.or_eq_true, beq_iff_eq] at hspace
      rcases hspace with ((rfl | rfl) | rfl) | rfl <;> exact ⟨rfl, by decide⟩

theorem Bracket.stops_closing (b : Bracket) (rest : List Char) : Stops (b.closing :: rest) := by
  intro c tail heq
  obtain ⟨rfl, -⟩ := List.cons.inj heq
  cases b <;> exact ⟨rfl, by decide⟩

theorem stops_comma (rest : List Char) : Stops (',' :: rest) := by
  intro c tail heq
  obtain ⟨rfl, -⟩ := List.cons.inj heq
  exact ⟨rfl, by decide⟩

/-- What follows an item stops a number. -/
theorem Stands.stops {b : Bracket} {cs rest : List Char} (h : Stands (.others b) cs rest) :
    Stops cs := by
  refine stops_of_skipSpace ?_
  cases h with
  | close _ hclose => rw [hclose]; exact b.stops_closing rest
  | next _ hcomma => rw [hcomma]; exact stops_comma _

/-! ## Scalars -/

theorem expectWord_eq_ok_iff {word cs rest : List Char} :
    expectWord word cs = .ok rest ↔ cs = word ++ rest := by
  induction word generalizing cs with
  | nil => simp [expectWord, eq_comm]
  | cons w word ih =>
      cases cs with
      | nil => simp [expectWord]
      | cons c cs =>
          rw [expectWord]
          split
          next hc => simp [hc, ih]
          next hc => simp [hc]

theorem isScalar_of_skipScalar {c : Char} {cs rest : List Char} (h : skipScalar c cs = .ok rest) :
    ∃ s, c :: cs = s ++ rest ∧ IsScalar s := by
  have hword : ∀ word, c :: word ∈ words → expectWord word cs = .ok rest →
      ∃ s, c :: cs = s ++ rest ∧ IsScalar s := by
    intro word hmem hread
    exact ⟨c :: word, congrArg (c :: ·) (expectWord_eq_ok_iff.mp hread), .word hmem⟩
  rw [skipScalar] at h
  split at h
  next hc => exact hword _ (by rw [hc]; decide) h
  split at h
  next hc => exact hword _ (by rw [hc]; decide) h
  split at h
  next hc => exact hword _ (by rw [hc]; decide) h
  split at h
  next =>
    obtain ⟨number, heq, hnumber⟩ := isNumber_of_skipNumber h
    exact ⟨number, heq, .number hnumber⟩
  split at h
  next hc =>
    obtain ⟨inside, rfl, hinside⟩ := skipString_eq_ok_iff.mp h
    exact ⟨_, by rw [hc]; simp, .text hinside⟩
  next => cases h

theorem skipScalar_of_word {c : Char} {word rest : List Char} (h : c :: word ∈ words) :
    ¬ (c = '[' ∨ c = '{') ∧ c ≠ ']' ∧ skipScalar c (word ++ rest) = .ok rest := by
  simp only [words, List.mem_cons, List.cons.injEq, List.not_mem_nil, or_false] at h
  rcases h with ⟨rfl, rfl⟩ | ⟨rfl, rfl⟩ | ⟨rfl, rfl⟩ <;>
    exact ⟨by decide, by decide, expectWord_eq_ok_iff.mpr rfl⟩

theorem skipScalar_of_number {c : Char} {digits rest : List Char} (h : IsNumber (c :: digits))
    (hrest : Stops rest) :
    ¬ (c = '[' ∨ c = '{') ∧ c ≠ ']' ∧ skipScalar c (digits ++ rest) = .ok rest := by
  refine ⟨not_or.mpr ⟨h.head_ne (by decide) rfl, h.head_ne (by decide) rfl⟩,
    h.head_ne (by decide) rfl, ?_⟩
  rw [skipScalar, if_neg (h.head_ne (by decide) rfl), if_neg (h.head_ne (by decide) rfl),
    if_neg (h.head_ne (by decide) rfl), if_pos h.head]
  exact skipNumber_of_isNumber h hrest

/-- A scalar begins with no bracket, and is passed over in front of what would stop a number. -/
theorem IsScalar.skipScalar_eq {s rest : List Char} (h : IsScalar s) (hrest : Stops rest) :
    ∃ c s', s = c :: s' ∧ ¬ (c = '[' ∨ c = '{') ∧ c ≠ ']' ∧
      skipScalar c (s' ++ rest) = .ok rest := by
  cases h with
  | word hword =>
      cases s with
      | nil => simp [words] at hword
      | cons c s' => exact ⟨c, s', rfl, skipScalar_of_word hword⟩
  | number hnumber =>
      obtain ⟨c, digits, rfl, -⟩ := hnumber.exists_cons
      exact ⟨c, digits, rfl, skipScalar_of_number hnumber hrest⟩
  | text hinside =>
      refine ⟨'"', _, rfl, by decide, by decide, skipString_eq_ok_iff.mpr ⟨_, ?_, hinside⟩⟩
      simp

theorem IsScalar.skipSpace_eq {s : List Char} (h : IsScalar s) : skipSpace s = s := by
  have hblank : ∀ c : Char, c.isDigit = true → isSpace c = false := by
    intro c hdigit
    cases hspace : isSpace c with
    | false => rfl
    | true =>
        simp only [isSpace, Bool.or_eq_true, beq_iff_eq] at hspace
        rcases hspace with ((rfl | rfl) | rfl) | rfl <;> cases hdigit
  cases h with
  | word hword =>
      simp only [words, List.mem_cons, List.not_mem_nil, or_false] at hword
      rcases hword with rfl | rfl | rfl <;> rfl
  | number hnumber =>
      obtain ⟨c, digits, rfl, rfl | hdigit⟩ := hnumber.exists_cons
      · rfl
      · exact skipSpace_cons_of_not_isSpace (hblank c hdigit) digits
  | text => rfl

/-! ## The text of a value -/

theorem Bracket.Leads.suffix {b : Bracket} {cs item : List Char} (h : b.Leads cs item) :
    item <:+ cs := by
  cases b with
  | list => exact h ▸ List.suffix_refl _
  | object =>
      obtain ⟨inside, behind, hspace, -, hcolon⟩ := h
      have hitem : item <:+ behind :=
        (List.suffix_cons ':' item).trans (hcolon ▸ List.dropWhile_suffix isSpace)
      have hbehind : behind <:+ skipSpace cs := by
        rw [hspace]
        exact (List.suffix_cons '"' behind).trans (List.suffix_append _ _)
      exact (hitem.trans hbehind).trans (List.dropWhile_suffix isSpace)

theorem Stands.suffix {part : Part} {cs rest : List Char} (h : Stands part cs rest) :
    rest <:+ skipSpace cs := by
  induction h with
  | scalar _ heq => exact heq ▸ List.suffix_append _ _
  | empty b hopen hclose =>
      rw [hopen]
      refine List.IsSuffix.trans ?_ (List.suffix_cons b.opening _)
      exact (List.suffix_cons b.closing _).trans (hclose ▸ List.dropWhile_suffix isSpace)
  | items b hopen hlead _ _ ih ihothers =>
      rw [hopen]
      refine List.IsSuffix.trans ?_ (List.suffix_cons b.opening _)
      refine List.IsSuffix.trans ?_ hlead.suffix
      refine (ihothers.trans (List.dropWhile_suffix isSpace)).trans ?_
      exact ih.trans (List.dropWhile_suffix isSpace)
  | close b hclose => exact hclose ▸ List.suffix_cons _ _
  | next b hcomma hlead _ _ ih ihothers =>
      rw [hcomma]
      refine List.IsSuffix.trans ?_ (List.suffix_cons ',' _)
      refine List.IsSuffix.trans ?_ hlead.suffix
      refine (ihothers.trans (List.dropWhile_suffix isSpace)).trans ?_
      exact ih.trans (List.dropWhile_suffix isSpace)

theorem Stands.exists_text {part : Part} {cs rest : List Char} (h : Stands part cs rest) :
    ∃ text, skipSpace cs = text ++ rest := by
  obtain ⟨text, heq⟩ := h.suffix
  exact ⟨text, heq.symm⟩

theorem stands_skipSpace {cs rest : List Char} (h : Stands .value (skipSpace cs) rest) :
    Stands .value cs rest := by
  cases h with
  | scalar hscalar heq => exact .scalar hscalar ((skipSpace_skipSpace cs).symm.trans heq)
  | empty b hopen hclose => exact .empty b ((skipSpace_skipSpace cs).symm.trans hopen) hclose
  | items b hopen hlead hitem hothers =>
      exact .items b ((skipSpace_skipSpace cs).symm.trans hopen) hlead hitem hothers

theorem skipSpace_append {cs tail : List Char} {c : Char} (h : skipSpace cs = c :: tail)
    (more : List Char) : skipSpace (cs ++ more) = c :: tail ++ more := by
  rw [skipSpace, List.dropWhile_append, show cs.dropWhile isSpace = c :: tail from h]
  rfl

/-- What is found behind white space ends where that does. -/
theorem exists_front {cs rest : List Char} {c : Char} (tail : List Char)
    (h : skipSpace cs = c :: tail ++ rest) :
    ∃ front, cs = front ++ rest ∧ skipSpace front = c :: tail := by
  refine ⟨cs.takeWhile isSpace ++ c :: tail, ?_, ?_⟩
  · rw [List.append_assoc, ← h, skipSpace, List.takeWhile_append_dropWhile]
  · rw [skipSpace, List.dropWhile_append_of_pos fun d hd => List.mem_takeWhile_imp hd]
    exact skipSpace_cons_of_not_isSpace (isSpace_of_skipSpace h) tail

theorem Bracket.Leads.append {b : Bracket} {cs item : List Char} (h : b.Leads cs item)
    (more : List Char) : b.Leads (cs ++ more) (item ++ more) := by
  cases b with
  | list => exact congrArg (· ++ more) h
  | object =>
      obtain ⟨inside, behind, hspace, hinside, hcolon⟩ := h
      refine ⟨inside, behind ++ more, ?_, hinside, skipSpace_append hcolon more⟩
      rw [skipSpace_append hspace]
      simp

theorem IsScalar.ne_nil {s : List Char} (h : IsScalar s) : s ≠ [] := by
  obtain ⟨c, s', rfl, -⟩ := h.skipScalar_eq stops_nil
  exact List.cons_ne_nil c s'

/-- A part stands in front of whatever is added to the rest. -/
theorem Stands.append {part : Part} {cs rest : List Char} (h : Stands part cs rest)
    (more : List Char) : Stands part (cs ++ more) (rest ++ more) := by
  induction h with
  | @scalar s cs rest hscalar h =>
      obtain ⟨c, s', rfl⟩ := List.exists_cons_of_ne_nil hscalar.ne_nil
      refine .scalar hscalar ?_
      rw [skipSpace_append h, ← List.append_assoc]
      rfl
  | empty b hopen hclose =>
      exact .empty b (skipSpace_append hopen more) (skipSpace_append hclose more)
  | items b hopen hlead _ _ ih ihothers =>
      exact .items b (skipSpace_append hopen more) (hlead.append more) ih ihothers
  | close b hclose => exact .close b (skipSpace_append hclose more)
  | next b hcomma hlead _ _ ih ihothers =>
      exact .next b (skipSpace_append hcomma more) (hlead.append more) ih ihothers

/-- The text of a value, from its first character to its last. -/
structure IsValue (text : List Char) : Prop where
  skipSpace_eq : skipSpace text = text
  stands : Stands .value text []

theorem IsScalar.isValue {s : List Char} (h : IsScalar s) : IsValue s where
  skipSpace_eq := h.skipSpace_eq
  stands := .scalar h (by rw [h.skipSpace_eq, List.append_nil])

/-- A value stands wherever its text does. -/
theorem IsValue.stands_of_eq {text cs rest : List Char} (h : IsValue text)
    (hspace : skipSpace cs = text ++ rest) : Stands .value cs rest :=
  stands_skipSpace (hspace ▸ h.stands.append rest)

/-! ## What is passed over is a value -/

theorem expectColon_eq_ok_iff {cs rest : List Char} :
    expectColon cs = .ok rest ↔ skipSpace cs = ':' :: rest := by
  rw [expectColon]
  split
  next h => simp [h]
  next c tail h =>
    rw [h]
    split
    next hc => simp [hc]
    next hc => simp [hc]

theorem Bracket.skipLead_eq_ok_iff {b : Bracket} {cs item : List Char} :
    b.skipLead cs = .ok item ↔ b.Leads cs item := by
  cases b with
  | list => simp [Bracket.skipLead, Bracket.Leads, eq_comm]
  | object =>
      simp only [Bracket.skipLead, Bracket.Leads, skipKey]
      constructor
      · intro h
        split at h
        next => cases h
        next c tail hspace =>
          split at h
          next hc =>
            split at h
            next => cases h
            next behind hstring =>
              obtain ⟨inside, rfl, hinside⟩ := skipString_eq_ok_iff.mp hstring
              exact ⟨inside, behind, by rw [hspace, hc]; rfl, hinside,
                expectColon_eq_ok_iff.mp h⟩
          next => cases h
      · rintro ⟨inside, behind, hspace, hinside, hcolon⟩
        have hstring : skipString (inside ++ '"' :: behind) = .ok behind :=
          skipString_eq_ok_iff.mpr ⟨inside, rfl, hinside⟩
        simp only [hspace, List.cons_append, ↓reduceIte, hstring]
        exact expectColon_eq_ok_iff.mpr hcolon

/-- What follows an item inside some brackets, up to the end of the outermost. -/
def Closes : List Bracket → List Char → List Char → Prop
  | [], cs, rest => cs = rest
  | b :: open?, cs, rest => ∃ mid, Stands (.others b) cs mid ∧ Closes open? mid rest

/-- What follows where a bracket goes on: its next item, and what follows that. -/
def Resumes : List Bracket → List Char → List Char → Prop
  | [], cs, rest => cs = rest
  | b :: open?, cs, rest => ∃ mid, Stands .value cs mid ∧ Closes (b :: open?) mid rest

/-- Goes on behind an item. -/
def resume (fuel : Nat) (open? : List Bracket) (cs : List Char) : Except Fault (List Char) :=
  match closeWithin (cs.length + 1) open? cs with
  | .error f => .error f
  | .ok ([], rest) => .ok rest
  | .ok (open?, rest) => skipWithin fuel open? rest

theorem closes_of_closeWithin {fuel : Nat} {open? left : List Bracket} {cs tail : List Char}
    (h : closeWithin fuel open? cs = .ok (left, tail)) {rest : List Char}
    (hrest : Resumes left tail rest) : Closes open? cs rest := by
  induction fuel generalizing open? cs with
  | zero => cases h
  | succ fuel ih =>
      cases open? with
      | nil =>
          cases h
          exact hrest
      | cons b open? =>
          rw [closeWithin] at h
          split at h
          next => cases h
          next c behind hspace =>
            split at h
            next hcomma =>
              split at h
              next => cases h
              next item hlead =>
                cases h
                obtain ⟨mid, hitem, last, hothers, hcloses⟩ := hrest
                exact ⟨last, .next b (hcomma ▸ hspace) (Bracket.skipLead_eq_ok_iff.mp hlead) hitem
                  hothers, hcloses⟩
            next =>
              split at h
              next hclosing => exact ⟨behind, .close b (hclosing ▸ hspace), ih h⟩
              next => cases h

theorem stands_of_skipWithin {fuel : Nat} {open? : List Bracket} {cs rest : List Char}
    (h : skipWithin fuel open? cs = .ok rest) :
    ∃ mid, Stands .value cs mid ∧ Closes open? mid rest := by
  induction fuel generalizing open? cs with
  | zero => cases h
  | succ fuel ih =>
      -- behind an item either everything is closed or a bracket goes on with its next item
      have hresume : ∀ {mid : List Char}, resume fuel open? mid = .ok rest →
          Closes open? mid rest := by
        intro mid hmid
        unfold resume at hmid
        split at hmid
        next => cases hmid
        next hclose =>
          cases hmid
          exact closes_of_closeWithin hclose rfl
        next left tail hleft hclose =>
          obtain ⟨b, left, rfl⟩ := List.exists_cons_of_ne_nil hleft
          exact closes_of_closeWithin hclose (ih hmid)
      rw [skipWithin] at h
      split at h
      next => cases h
      next c tail hspace =>
        split at h
        next hopen =>
          obtain ⟨b, hb, hc⟩ : ∃ b, (if c = '[' then Bracket.list else .object) = b ∧
              c = b.opening := by
            rcases hopen with rfl | rfl
            · exact ⟨.list, rfl, rfl⟩
            · exact ⟨.object, rfl, rfl⟩
          subst hc
          dsimp only at h
          rw [hb] at h
          split at h
          next => cases h
          next d behind hbehind =>
            split at h
            next hclose =>
              exact ⟨behind, .empty b hspace (hclose ▸ hbehind), hresume h⟩
            next =>
              split at h
              next => cases h
              next item hlead =>
                obtain ⟨mid, hitem, last, hothers, hcloses⟩ := ih h
                exact ⟨last, .items b hspace (Bracket.skipLead_eq_ok_iff.mp hlead) hitem hothers,
                  hcloses⟩
        next =>
          split at h
          next => cases h
          next behind hscalar =>
            obtain ⟨s, heq, hs⟩ := isScalar_of_skipScalar hscalar
            exact ⟨behind, .scalar hs (hspace.trans heq), hresume h⟩

theorem stands_of_skipValue {cs rest : List Char} (h : skipValue cs = .ok rest) :
    Stands .value cs rest := by
  obtain ⟨mid, hvalue, rfl⟩ := stands_of_skipWithin h
  exact hvalue

/-! ## A value is passed over -/

theorem closeWithin_congr {m n : Nat} {open? : List Bracket} {cs : List Char}
    (hm : cs.length < m) (hn : cs.length < n) :
    closeWithin m open? cs = closeWithin n open? cs := by
  induction m generalizing n open? cs with
  | zero => cases hm
  | succ m ih =>
      obtain ⟨n, rfl⟩ := Nat.exists_eq_add_one_of_ne_zero (Nat.ne_zero_of_lt hn)
      cases open? with
      | nil => rfl
      | cons b open? =>
          rw [closeWithin, closeWithin]
          split
          next => rfl
          next c tail hspace =>
            have hlength := length_lt_of_skipSpace hspace
            rw [ih (n := n) (by omega) (by omega)]

theorem Bracket.Leads.length_le {b : Bracket} {cs item : List Char} (h : b.Leads cs item) :
    item.length ≤ cs.length := by
  cases b with
  | list => exact h ▸ Nat.le_refl _
  | object =>
      obtain ⟨inside, behind, hspace, -, hcolon⟩ := h
      have hkey := length_lt_of_skipSpace hspace
      have hitem := length_lt_of_skipSpace hcolon
      simp only [List.append_eq, List.length_append, List.length_cons] at hkey
      omega

/-- A value does not begin with the end of a list. -/
theorem Stands.head {cs rest : List Char} (h : Stands .value cs rest) (hrest : Stops rest) :
    ∃ c tail, skipSpace cs = c :: tail ∧ c ≠ ']' := by
  cases h with
  | scalar hscalar heq =>
      obtain ⟨c, s, rfl, -, hc, -⟩ := hscalar.skipScalar_eq hrest
      exact ⟨c, _, heq, hc⟩
  | empty b hopen => exact ⟨_, _, hopen, by cases b <;> decide⟩
  | items b hopen => exact ⟨_, _, hopen, by cases b <;> decide⟩

/-- The first item of a bracket does not begin with its end. -/
theorem Bracket.Leads.head {b : Bracket} {cs item rest : List Char} (h : b.Leads cs item)
    (hitem : Stands .value item rest) (hrest : Stops rest) :
    ∃ c tail, skipSpace cs = c :: tail ∧ c ≠ b.closing := by
  cases b with
  | list =>
      obtain rfl : item = cs := h
      exact hitem.head hrest
  | object =>
      obtain ⟨inside, behind, hspace, -, -⟩ := h
      exact ⟨'"', _, hspace, by decide⟩

theorem skipWithin_of_opening {b : Bracket} {cs tail : List Char}
    (h : skipSpace cs = b.opening :: tail) (fuel : Nat) (open? : List Bracket) :
    skipWithin (fuel + 1) open? cs =
      match skipSpace tail with
      | [] => .error ⟨b.eof, 0⟩
      | d :: behind =>
        if d = b.closing then resume fuel open? behind
        else
          match b.skipLead tail with
          | .error f => .error f
          | .ok item => skipWithin fuel (b :: open?) item := by
  rw [skipWithin, h]
  cases b <;> rfl

/-- What passing over a part comes to: it goes on behind the part. -/
def Passes : Part → List Char → List Char → Prop
  | .value, cs, rest => Stops rest → ∀ fuel open?, cs.length < fuel →
    ∃ n, rest.length < n ∧ skipWithin fuel open? cs = resume n open? rest
  | .others b, cs, rest => ∀ fuel open?, cs.length < fuel →
    ∃ n, rest.length < n ∧ resume fuel (b :: open?) cs = resume n open? rest

theorem Stands.passes {part : Part} {cs rest : List Char} (h : Stands part cs rest) :
    Passes part cs rest := by
  induction h with
  | scalar hscalar heq =>
      intro hrest fuel open? hfuel
      obtain ⟨fuel, rfl⟩ := Nat.exists_eq_add_one_of_ne_zero (Nat.ne_zero_of_lt hfuel)
      obtain ⟨c, s, rfl, hopen, -, hskip⟩ := hscalar.skipScalar_eq hrest
      have hlength := length_lt_of_skipSpace heq
      refine ⟨fuel, ?_, ?_⟩
      · rw [List.append_eq, List.length_append] at hlength
        omega
      · simp only [skipWithin, heq, List.cons_append, hopen, ↓reduceIte, hskip]
        rfl
  | @empty b cs tail rest hopen hclose =>
      intro _ fuel open? hfuel
      obtain ⟨fuel, rfl⟩ := Nat.exists_eq_add_one_of_ne_zero (Nat.ne_zero_of_lt hfuel)
      have hcs := length_lt_of_skipSpace hopen
      have htail := length_lt_of_skipSpace hclose
      refine ⟨fuel, by omega, ?_⟩
      rw [skipWithin_of_opening hopen, hclose]
      simp only [↓reduceIte]
  | @items b cs tail item behind rest hopen hlead hitem hothers ih ihothers =>
      intro _ fuel open? hfuel
      obtain ⟨fuel, rfl⟩ := Nat.exists_eq_add_one_of_ne_zero (Nat.ne_zero_of_lt hfuel)
      have hcs := length_lt_of_skipSpace hopen
      have htail := hlead.length_le
      obtain ⟨m, hm, hresume⟩ := ih hothers.stops fuel (b :: open?) (by omega)
      obtain ⟨n, hn, hbehind⟩ := ihothers m open? hm
      refine ⟨n, hn, ?_⟩
      obtain ⟨c, more, hspace, hclosing⟩ := hlead.head hitem hothers.stops
      rw [skipWithin_of_opening hopen, hspace]
      simp only [hclosing, ↓reduceIte, Bracket.skipLead_eq_ok_iff.mpr hlead, hresume, hbehind]
  | @close b cs rest hclose =>
      intro fuel open? hfuel
      have hcs := length_lt_of_skipSpace hclose
      refine ⟨fuel, by omega, ?_⟩
      have hcomma : b.closing ≠ ',' := by cases b <;> decide
      rw [resume, resume, closeWithin]
      simp only [hclose, hcomma, ↓reduceIte, closeWithin_congr hcs (Nat.lt_succ_self rest.length)]
  | @next b cs tail item behind rest hcomma hlead hitem hothers ih ihothers =>
      intro fuel open? hfuel
      have hcs := length_lt_of_skipSpace hcomma
      have htail := hlead.length_le
      obtain ⟨m, hm, hresume⟩ := ih hothers.stops fuel (b :: open?) (by omega)
      obtain ⟨n, hn, hbehind⟩ := ihothers m open? hm
      refine ⟨n, hn, ?_⟩
      rw [resume, closeWithin]
      simp only [hcomma, ↓reduceIte, Bracket.skipLead_eq_ok_iff.mpr hlead, hresume, hbehind]

/-- What is passed over in front of what would stop a number are exactly the values. -/
theorem skipValue_eq_ok_iff {cs rest : List Char} (hrest : Stops rest) :
    skipValue cs = .ok rest ↔ Stands .value cs rest := by
  refine ⟨stands_of_skipValue, fun h => ?_⟩
  obtain ⟨n, -, hskip⟩ := h.passes hrest (cs.length + 1) [] (Nat.lt_succ_self _)
  exact hskip

end SessionKeeper.Json
