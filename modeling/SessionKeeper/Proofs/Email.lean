import SessionKeeper.Form
import SessionKeeper.Proofs.Url.Pieces

/-!
# The grammar of email addresses

An address is a name, an `@` and a domain, and a domain is made of labels with single dots between
them. The check splits at the first `@` and at every dot, and looks at the pieces; it accepts
exactly what the grammar derives.
-/

namespace SessionKeeper.Email

/-! ## The grammar -/

/-- The letters and digits of ASCII. -/
def IsLetterOrDigit (c : Char) : Prop :=
  ('a' ≤ c ∧ c ≤ 'z') ∨ ('A' ≤ c ∧ c ≤ 'Z') ∨ ('0' ≤ c ∧ c ≤ '9')

/-- The characters of a name. -/
def IsNameChar (c : Char) : Prop :=
  IsLetterOrDigit c ∨ c ∈ ".!#$%&'*+/=?^_`\x7b|\x7d~-".toList

/-- A label of a domain. -/
structure IsDomainLabel (label : List Char) : Prop where
  nonempty : 1 ≤ label.length
  short : label.length ≤ 63
  chars : ∀ c ∈ label, IsLetterOrDigit c ∨ c = '-'
  first : label.head? ≠ some '-'
  last : label.getLast? ≠ some '-'

/-- Labels with single dots between them. -/
inductive IsDomain : List Char → Prop
  | label {label : List Char} (hlabel : IsDomainLabel label) : IsDomain label
  | dotted {label rest : List Char} (hlabel : IsDomainLabel label) (hrest : IsDomain rest) :
      IsDomain (label ++ '.' :: rest)

/-- A name and a domain with an `@` between them. -/
inductive IsAddress : List Char → Prop
  | mk {name domain : List Char} (hne : name ≠ []) (hname : ∀ c ∈ name, IsNameChar c)
      (hdomain : IsDomain domain) : IsAddress (name ++ '@' :: domain)

/-! ## Characters -/

variable {c : Char} {cs ds : List Char}

theorem isAlphanum_iff : c.isAlphanum = true ↔ IsLetterOrDigit c := by
  delta Char.isAlphanum Char.isAlpha Char.isUpper Char.isLower Char.isDigit
  simp only [Bool.or_eq_true, Bool.and_eq_true, decide_eq_true_eq, IsLetterOrDigit, Char.le_def]
  constructor
  · rintro ((h | h) | h)
    · exact .inr (.inl h)
    · exact .inl h
    · exact .inr (.inr h)
  · rintro (h | h | h)
    · exact .inl (.inr h)
    · exact .inl (.inl h)
    · exact .inr h

theorem isLocalChar_iff : isLocalChar c = true ↔ IsNameChar c := by
  rw [isLocalChar, Bool.or_eq_true, isAlphanum_iff, List.contains_iff_mem]
  rfl

theorem isLabelChar_iff : isLabelChar c = true ↔ IsLetterOrDigit c ∨ c = '-' := by
  rw [isLabelChar, Bool.or_eq_true, isAlphanum_iff, beq_iff_eq]

/-- No `@` is a character of a name. -/
theorem IsNameChar.ne_at (h : IsNameChar c) : c ≠ '@' := by
  rintro rfl
  have hat : isLocalChar '@' = false := by decide
  rw [isLocalChar_iff.mpr h] at hat
  cases hat

theorem ne_dot_of_labelChar (h : IsLetterOrDigit c ∨ c = '-') : c ≠ '.' := by
  rintro rfl
  have hdot : isLabelChar '.' = false := by decide
  rw [isLabelChar_iff.mpr h] at hdot
  cases hdot

theorem utf8Size_of_labelChar (h : IsLetterOrDigit c ∨ c = '-') : c.utf8Size = 1 := by
  rw [Char.utf8Size_eq_one_iff]
  rcases h with (h | h | h) | rfl
  · exact UInt32.le_trans h.2 (by decide)
  · exact UInt32.le_trans h.2 (by decide)
  · exact UInt32.le_trans h.2 (by decide)
  · decide

/-- The bytes of a label are as many as its characters. -/
theorem size_of_labelChars (h : ∀ c ∈ cs, IsLetterOrDigit c ∨ c = '-') :
    Text.size cs = cs.length := by
  induction cs with
  | nil => rfl
  | cons c cs ih =>
      have hc := utf8Size_of_labelChar (h c List.mem_cons_self)
      have hcs := ih fun d hd => h d (List.mem_cons_of_mem _ hd)
      rw [Text.size_cons, hc, hcs, List.length_cons, Nat.add_comm]

/-! ## Pieces -/

theorem isLabel_iff : isLabel cs = true ↔ IsDomainLabel cs := by
  simp only [isLabel, Bool.and_eq_true, Bool.not_eq_true', List.isEmpty_eq_false_iff,
    decide_eq_true_eq, bne_iff_ne, List.all_eq_true, isLabelChar_iff]
  constructor
  · rintro ⟨⟨⟨⟨hne, hsize⟩, hfirst⟩, hlast⟩, hchars⟩
    rw [size_of_labelChars hchars] at hsize
    exact ⟨List.length_pos_iff.mpr hne, hsize, hchars, hfirst, hlast⟩
  · rintro ⟨hne, hshort, hchars, hfirst, hlast⟩
    refine ⟨⟨⟨⟨List.length_pos_iff.mp hne, ?_⟩, hfirst⟩, hlast⟩, hchars⟩
    rwa [size_of_labelChars hchars]

theorem labels_eq_splitOn (cs : List Char) : labels cs = Url.splitOn '.' cs := by
  induction cs with
  | nil => rfl
  | cons c cs ih =>
      cases hsplit : Url.splitOn '.' cs with
      | nil => exact absurd hsplit (Url.splitOn_ne_nil '.' cs)
      | cons label labels => simp [Email.labels, Url.splitOn, ih, hsplit]

theorem IsDomainLabel.dot_not_mem (h : IsDomainLabel cs) : '.' ∉ cs :=
  fun hdot => ne_dot_of_labelChar (h.chars _ hdot) rfl

/-- A domain is what splits into labels at its dots. -/
theorem isDomain_iff : IsDomain cs ↔ ∀ label ∈ Url.splitOn '.' cs, IsDomainLabel label := by
  constructor
  · intro h
    induction h with
    | label hlabel =>
        rw [Url.splitOn_of_not_mem hlabel.dot_not_mem]
        simpa using hlabel
    | dotted hlabel _ ih =>
        rw [Url.splitOn_append hlabel.dot_not_mem]
        exact List.forall_mem_cons.mpr ⟨hlabel, ih⟩
  · -- on the length of the text, which the rest behind a dot is shorter than
    intro h
    induction hn : cs.length using Nat.strongRecOn generalizing cs with
    | ind n ih =>
        rcases Url.splitOn_cases '.' cs with ⟨-, hsplit⟩ | ⟨front, rest, -, rfl, hsplit⟩
        · rw [hsplit] at h
          exact .label (h cs (List.mem_singleton_self cs))
        · rw [hsplit] at h
          obtain ⟨hfront, hrest⟩ := List.forall_mem_cons.mp h
          refine .dotted hfront (ih rest.length ?_ hrest rfl)
          simp only [List.length_append, List.length_cons] at hn
          omega

theorem IsDomain.ne_nil (h : IsDomain cs) : cs ≠ [] := by
  rintro rfl
  have hlabel := isDomain_iff.mp h [] (List.mem_singleton_self _)
  exact absurd hlabel.nonempty (by simp)

/-- Splitting finds the first `@`. -/
theorem splitAt?_eq_some_iff {before behind : List Char} :
    splitAt? cs = some (before, behind) ↔ '@' ∉ before ∧ cs = before ++ '@' :: behind := by
  induction cs generalizing before with
  | nil => simp [splitAt?]
  | cons c cs ih =>
      rw [splitAt?]
      by_cases hc : c = '@'
      · subst hc
        rw [if_pos rfl, Option.some.injEq, Prod.mk.injEq]
        constructor
        · rintro ⟨rfl, rfl⟩
          exact ⟨List.not_mem_nil, rfl⟩
        · rintro ⟨hbefore, heq⟩
          cases before with
          | nil => exact ⟨rfl, (List.cons.inj heq).2⟩
          | cons d before =>
              obtain ⟨rfl, -⟩ := List.cons.inj heq
              exact absurd List.mem_cons_self hbefore
      · rw [if_neg hc, Option.map_eq_some_iff]
        constructor
        · rintro ⟨⟨front, rest⟩, hsplit, heq⟩
          obtain ⟨rfl, rfl⟩ := Prod.mk.inj heq
          obtain ⟨hfront, rfl⟩ := ih.mp hsplit
          refine ⟨fun hmem => ?_, rfl⟩
          rcases List.mem_cons.mp hmem with rfl | hmem
          · exact hc rfl
          · exact hfront hmem
        · rintro ⟨hbefore, heq⟩
          cases before with
          | nil => exact absurd (List.cons.inj heq).1 hc
          | cons d before =>
              obtain ⟨rfl, rfl⟩ := List.cons.inj heq
              exact ⟨(before, behind), ih.mpr ⟨fun hmem => hbefore (List.mem_cons_of_mem _ hmem),
                rfl⟩, rfl⟩

theorem isAddress_iff :
    IsAddress cs ↔ ∃ name domain, cs = name ++ '@' :: domain ∧ name ≠ [] ∧
      (∀ c ∈ name, IsNameChar c) ∧ IsDomain domain := by
  constructor
  · rintro ⟨hne, hname, hdomain⟩
    exact ⟨_, _, rfl, hne, hname, hdomain⟩
  · rintro ⟨name, domain, rfl, hne, hname, hdomain⟩
    exact .mk hne hname hdomain

/-! ## The check -/

/-- The check accepts what has the characters of a name in front of its first `@`, and a domain
behind it. -/
theorem isValid_eq_true_iff {s : String} :
    isValid s = true ↔ ∃ name domain, s.toList = name ++ '@' :: domain ∧ name ≠ [] ∧
      (∀ c ∈ name, IsNameChar c) ∧ IsDomain domain := by
  rw [isValid]
  constructor
  · intro h
    split at h
    next => cases h
    next before behind hsplit =>
      obtain ⟨-, hs⟩ := splitAt?_eq_some_iff.mp hsplit
      simp only [isLocal, Bool.and_eq_true, Bool.not_eq_true', List.isEmpty_eq_false_iff,
        List.all_eq_true, isLocalChar_iff, isLabel_iff, labels_eq_splitOn] at h
      obtain ⟨⟨⟨hne, hname⟩, -⟩, hdomain⟩ := h
      exact ⟨before, behind, hs, hne, hname, isDomain_iff.mpr hdomain⟩
  · rintro ⟨name, domain, hs, hne, hname, hdomain⟩
    have hat : '@' ∉ name := fun hmem => (hname _ hmem).ne_at rfl
    rw [splitAt?_eq_some_iff.mpr ⟨hat, hs⟩]
    simp only [isLocal, Bool.and_eq_true, Bool.not_eq_true', List.isEmpty_eq_false_iff,
      List.all_eq_true, isLocalChar_iff, isLabel_iff, labels_eq_splitOn]
    exact ⟨⟨⟨hne, hname⟩, hdomain.ne_nil⟩, isDomain_iff.mp hdomain⟩

/-- The check of an email address accepts a text exactly if the grammar derives it. -/
theorem isValid_iff_isAddress (s : String) : isValid s = true ↔ IsAddress s.toList := by
  rw [isValid_eq_true_iff, isAddress_iff]

end SessionKeeper.Email
