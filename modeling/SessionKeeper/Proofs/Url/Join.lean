import Mathlib.Data.List.TakeWhile
import SessionKeeper.Proofs.Url.Host

/-!
# Paths behind a base

What a path that is put behind a base can do to the server that the base names. The base ends before
a slash, so its authority is read as it was, unless there is nothing behind its scheme but slashes:
then the path is read as the authority.
-/

namespace SessionKeeper.Url

/-- The text of a URL behind the colon of its scheme, if it has one. -/
def afterScheme? (text : String) : Option (List Char) :=
  (splitScheme (significant text.toList)).map Prod.snd

/-- The text of the authority, which begins behind all slashes. -/
def authorityText (rest : List Char) : List Char :=
  (rest.dropWhile isSlash).takeWhile fun c => !endsAuthority c

/-- The user name and password that are named by what follows the scheme of a URL. -/
def userAfterScheme (rest : List Char) : List Char × Option (List Char) :=
  readUser ((splitUser (authorityText rest)).1.getD [])

/-- Whether a text with a scheme names somebody in its authority. -/
def namesUser (text : String) : Bool :=
  (afterScheme? text).any fun rest => userAfterScheme rest != ([], none)

/-- Whether a text is a scheme with nothing behind it but slashes. -/
def isBareScheme (text : String) : Bool :=
  (afterScheme? text).any fun rest => rest.all isSlash

/-! ## What counts of a joined text -/

/-- Trimming the end of a text stops at a character that is not trimmed. -/
theorem trimEnd_append {p : Char → Bool} {c : Char} (hc : p c = false)
    (before behind : List Char) :
    ((before ++ c :: behind).reverse.dropWhile p).reverse =
      before ++ c :: (behind.reverse.dropWhile p).reverse := by
  rw [List.reverse_append, List.reverse_cons, List.append_assoc, List.dropWhile_append]
  split
  next h =>
    rw [List.isEmpty_iff.mp h, List.singleton_append, List.dropWhile_cons_of_neg (by simp [hc])]
    simp
  next => simp

/-- What is trimmed off the end of a text is made of what is trimmed. -/
theorem trimEnd_append_trimmed (p : Char → Bool) (cs : List Char) :
    ∃ trimmed, (∀ c ∈ trimmed, p c = true) ∧
      (cs.reverse.dropWhile p).reverse ++ trimmed = cs := by
  refine ⟨(cs.reverse.takeWhile p).reverse, fun c hc => ?_, ?_⟩
  · exact List.all_eq_true.mp List.all_takeWhile c (List.mem_reverse.mp hc)
  · rw [← List.reverse_append, List.takeWhile_append_dropWhile, List.reverse_reverse]

/-- What counts of a text that something else stands before. -/
def significantEnd (cs : List Char) : List Char :=
  ((cs.reverse.dropWhile isMargin).reverse).filter fun c => !isIgnored c

theorem significantEnd_subset (cs : List Char) : significantEnd cs ⊆ cs := by
  intro c hc
  have hkept := List.mem_reverse.mp (List.mem_filter.mp hc).1
  exact List.mem_reverse.mp ((List.dropWhile_suffix _).subset hkept)

/-- What counts of a base and a path that are joined by a slash: what counts of the base, characters
that count only now that something follows them, and what the slash begins. -/
theorem significant_join (base : String) :
    ∃ gap, (∀ c ∈ gap, isMargin c = true) ∧ ∀ behind : String,
      significant (base ++ "/" ++ behind).toList =
        significant base.toList ++ (gap ++ '/' :: significantEnd behind.toList) := by
  obtain ⟨trimmed, htrimmed, hbase⟩ :=
    trimEnd_append_trimmed isMargin (base.toList.dropWhile isMargin)
  refine ⟨trimmed.filter fun c => !isIgnored c, fun c hc => htrimmed c (List.mem_filter.mp hc).1,
    fun behind => ?_⟩
  have hslash : isMargin '/' = false := by decide
  have hjoined : (base ++ "/" ++ behind).toList = base.toList ++ '/' :: behind.toList := by
    simp [String.toList_append]
  have hfront : (base.toList ++ '/' :: behind.toList).dropWhile isMargin =
      base.toList.dropWhile isMargin ++ '/' :: behind.toList := by
    rw [List.dropWhile_append]
    split
    next h =>
      rw [List.isEmpty_iff.mp h, List.dropWhile_cons_of_neg (by simp [hslash]), List.nil_append]
    next => rfl
  rw [significant, significant, hjoined, hfront, trimEnd_append hslash, ← List.append_assoc,
    ← List.filter_append, hbase, List.filter_append, List.filter_cons_of_pos (by decide)]
  rfl

/-! ## The scheme of a joined text -/

theorem not_isSchemeChar_of_isMargin {c : Char} (h : isMargin c = true) :
    isSchemeChar c = false ∧ c ≠ ':' := by
  have hall : ∀ n < 33, isSchemeChar (Char.ofNat n) = false ∧ Char.ofNat n ≠ ':' := by decide
  have hc := hall c.toNat (Nat.lt_succ_of_le (by simpa [isMargin] using h))
  rwa [Char.ofNat_toNat] at hc

/-- The scheme of a text is read before anything behind it. -/
theorem splitScheme_append {cs scheme rest : List Char} (h : splitScheme cs = some (scheme, rest))
    (more : List Char) : splitScheme (cs ++ more) = some (scheme, rest ++ more) := by
  cases cs with
  | nil => cases h
  | cons c cs =>
      rw [splitScheme] at h
      rw [List.cons_append, splitScheme]
      split at h
      next halpha =>
        rw [if_pos halpha]
        split at h
        next behind hbehind =>
          obtain ⟨rfl, rfl⟩ := Prod.mk.inj (Option.some.inj h)
          have hshort : (cs.takeWhile isSchemeChar).length ≠ cs.length := by
            have hlength := congrArg List.length
              (List.takeWhile_append_dropWhile (p := isSchemeChar) (l := cs))
            rw [hbehind, List.length_append, List.length_cons] at hlength
            omega
          rw [List.dropWhile_append, List.takeWhile_append, hbehind, if_neg hshort]
          rfl
        next => cases h
      next => cases h

/-- A text without a scheme gets none from what follows, if this does not begin with what a scheme
is made of. -/
theorem splitScheme_append_of_none {cs more : List Char} {c : Char}
    (h : splitScheme cs = none) (hchar : isSchemeChar c = false) (hcolon : c ≠ ':') :
    splitScheme (cs ++ c :: more) = none := by
  cases cs with
  | nil =>
      have halpha : c.isAlpha = false := by
        simp only [isSchemeChar, Char.isAlphanum, Bool.or_eq_false_iff] at hchar
        exact hchar.1.1.1.1
      rw [List.nil_append, splitScheme, if_neg (by simp [halpha])]
  | cons d cs =>
      rw [splitScheme] at h
      rw [List.cons_append, splitScheme]
      split at h
      next halpha =>
        rw [if_pos halpha, List.dropWhile_append]
        split at h
        next => cases h
        next hother =>
          split
          next behind hbehind =>
            split at hbehind
            next =>
              rw [List.dropWhile_cons_of_neg (by simp [hchar])] at hbehind
              exact absurd (List.cons.inj hbehind).1 hcolon
            next hleft =>
              cases hdrop : cs.dropWhile isSchemeChar with
              | nil => simp [hdrop] at hleft
              | cons e rest =>
                  rw [hdrop] at hbehind
                  obtain ⟨rfl, -⟩ := List.cons.inj hbehind
                  exact absurd hdrop (hother rest)
          next => rfl
      next halpha => rw [if_neg halpha]

/-- A base keeps its scheme, and what follows it, when a path is joined to it. -/
theorem splitScheme_join (base : String) :
    ∃ gap, (∀ c ∈ gap, isMargin c = true) ∧ ∀ behind : String,
      splitScheme (significant (base ++ "/" ++ behind).toList) =
        (splitScheme (significant base.toList)).map fun (scheme, after) =>
          (scheme, after ++ (gap ++ '/' :: significantEnd behind.toList)) := by
  obtain ⟨gap, hgap, hjoined⟩ := significant_join base
  refine ⟨gap, hgap, fun behind => ?_⟩
  rw [hjoined]
  cases hsplit : splitScheme (significant base.toList) with
  | some split => exact splitScheme_append hsplit _
  | none =>
      cases gap with
      | nil => exact splitScheme_append_of_none hsplit (by decide) (by decide)
      | cons c gap =>
          obtain ⟨hchar, hcolon⟩ := not_isSchemeChar_of_isMargin (hgap c List.mem_cons_self)
          exact splitScheme_append_of_none hsplit hchar hcolon

/-- What follows the scheme of a base is still there when a path is joined to it. -/
theorem afterScheme?_join (base : String) :
    ∃ gap, (∀ c ∈ gap, isMargin c = true) ∧ ∀ behind : String,
      afterScheme? (base ++ "/" ++ behind) = (afterScheme? base).map fun after =>
        after ++ (gap ++ '/' :: significantEnd behind.toList) := by
  obtain ⟨gap, hgap, hjoined⟩ := splitScheme_join base
  refine ⟨gap, hgap, fun behind => ?_⟩
  rw [afterScheme?, afterScheme?, hjoined, Option.map_map, Option.map_map]
  rfl

/-! ## The authority of a joined text -/

theorem not_endsAuthority_of_isMargin {c : Char} (h : isMargin c = true) :
    endsAuthority c = false ∧ c ≠ '@' := by
  have hall : ∀ n < 33, endsAuthority (Char.ofNat n) = false ∧ Char.ofNat n ≠ '@' := by decide
  have hc := hall c.toNat (Nat.lt_succ_of_le (by simpa [isMargin] using h))
  rwa [Char.ofNat_toNat] at hc

theorem takeWhile_gap {gap : List Char} (hgap : ∀ c ∈ gap, isMargin c = true)
    {rest : List Char} : (gap ++ '/' :: rest).takeWhile (fun c => !endsAuthority c) = gap := by
  rw [List.takeWhile_append_of_pos fun c hc => by
    simp [(not_endsAuthority_of_isMargin (hgap c hc)).1], List.takeWhile_cons_of_neg (by decide),
    List.append_nil]

/-- If there is an authority, or what ends an empty one, a slash behind it leaves it as it is, but
for blanks in front of the slash. -/
theorem authorityText_append {after gap : List Char} (hafter : after.all isSlash = false)
    (hgap : ∀ c ∈ gap, isMargin c = true) :
    ∃ blanks, (∀ c ∈ blanks, isMargin c = true) ∧ ∀ rest : List Char,
      authorityText (after ++ (gap ++ '/' :: rest)) = authorityText after ++ blanks := by
  have hfront : ((after.dropWhile isSlash).isEmpty) = false := by
    rw [Bool.eq_false_iff]
    intro hempty
    have hall := List.takeWhile_append_dropWhile (p := isSlash) (l := after)
    rw [List.isEmpty_iff.mp hempty, List.append_nil] at hall
    rw [← hall, List.all_takeWhile] at hafter
    cases hafter
  have hjoined (rest : List Char) : authorityText (after ++ (gap ++ '/' :: rest)) =
      if (authorityText after).length = (after.dropWhile isSlash).length then
        after.dropWhile isSlash ++ gap
      else authorityText after := by
    rw [authorityText, List.dropWhile_append, hfront, if_neg Bool.false_ne_true,
      List.takeWhile_append, takeWhile_gap hgap]
    rfl
  by_cases hall : (authorityText after).length = (after.dropWhile isSlash).length
  · refine ⟨gap, hgap, fun rest => ?_⟩
    rw [hjoined, if_pos hall, authorityText, (List.takeWhile_prefix _).eq_of_length hall]
  · exact ⟨[], nofun, fun rest => by rw [hjoined, if_neg hall, List.append_nil]⟩

/-- Behind a bare scheme the authority is made of the blanks in front of the slashes. -/
theorem authorityText_append_of_bare {after gap rest : List Char}
    (hafter : after.all isSlash = true) (hgap : ∀ c ∈ gap, isMargin c = true)
    (hrest : rest.all isSlash = true) : authorityText (after ++ (gap ++ '/' :: rest)) = gap := by
  rw [authorityText, List.dropWhile_append_of_pos (List.all_eq_true.mp hafter)]
  cases gap with
  | nil =>
      rw [List.nil_append, List.dropWhile_cons_of_pos (by decide),
        List.dropWhile_eq_nil_iff.mpr (List.all_eq_true.mp hrest), List.takeWhile_nil]
  | cons c gap =>
      have hslash : ¬ isSlash c = true := by
        have hends := (not_endsAuthority_of_isMargin (hgap c List.mem_cons_self)).1
        rw [endsAuthority, Bool.or_assoc, Bool.or_eq_false_iff] at hends
        simp [hends.1]
      rw [List.cons_append, List.dropWhile_cons_of_neg hslash, ← List.cons_append,
        takeWhile_gap hgap]

/-- Joining a path to a base names no other user than the base does, if there is more to the base
than a scheme. -/
theorem namesUser_join {base : String} (hbare : isBareScheme base = false) (behind : String) :
    namesUser (base ++ "/" ++ behind) = namesUser base := by
  obtain ⟨gap, hgap, hjoined⟩ := afterScheme?_join base
  rw [namesUser, namesUser, hjoined]
  cases hafter : afterScheme? base with
  | none => rfl
  | some after =>
      rw [isBareScheme, hafter] at hbare
      obtain ⟨blanks, hblanks, hauthority⟩ := authorityText_append hbare hgap
      have huser (rest : List Char) :
          userAfterScheme (after ++ (gap ++ '/' :: rest)) = userAfterScheme after := by
        rw [userAfterScheme, hauthority, splitUser_append fun c hc =>
          (not_endsAuthority_of_isMargin (hblanks c hc)).2, userAfterScheme]
      simp [huser]

/-! ## The user of a URL that was read -/

theorem readAuthority_of_readHttp {scheme : Scheme} {rest : List Char} {url : HttpUrl}
    (h : readHttp scheme rest = .ok url) :
    readAuthority scheme (authorityText rest) = .ok url.authority := by
  rw [readHttp] at h
  dsimp only at h
  split at h
  next => cases h
  next authority hread =>
    cases h
    exact hread

theorem user_of_readHttp {scheme : Scheme} {rest : List Char} {url : HttpUrl}
    (h : readHttp scheme rest = .ok url) :
    (url.authority.user, url.authority.password) = userAfterScheme rest := by
  have hauthority := readAuthority_of_readHttp h
  rw [readAuthority] at hauthority
  dsimp only at hauthority
  split at hauthority
  next => cases hauthority
  next =>
    split at hauthority
    next => cases hauthority
    next =>
      rw [← Except.ok.inj hauthority]
      rfl

/-- A URL that was read has a scheme, and the authority that follows it. -/
theorem exists_scheme_of_parse {text : String} {url : HttpUrl} (h : parse text = .ok url) :
    ∃ (scheme : Scheme) (rest : List Char),
      splitScheme (significant text.toList) = some (scheme.name, rest) ∧
        readAuthority scheme (authorityText rest) = .ok url.authority := by
  rw [parse] at h
  split at h
  next => cases h
  next name rest hsplit =>
    split at h
    next hname => exact ⟨.http, rest, hname ▸ hsplit, readAuthority_of_readHttp h⟩
    next =>
      split at h
      next hname => exact ⟨.https, rest, hname ▸ hsplit, readAuthority_of_readHttp h⟩
      next => cases h

theorem Scheme.name_inj {a b : Scheme} : a.name = b.name → a = b := by
  cases a <;> cases b <;> decide

/-! ## The server of a joined URL -/

/-- A path that is joined to a URL does not change where it leads. -/
theorem authority_join {base behind : String} {b url : HttpUrl} (hbase : parse base = .ok b)
    (hurl : parse (base ++ "/" ++ behind) = .ok url) : url.authority = b.authority := by
  obtain ⟨gap, hgap, hjoined⟩ := splitScheme_join base
  obtain ⟨scheme, after, hsplit, hauthority⟩ := exists_scheme_of_parse hbase
  obtain ⟨scheme', rest, hsplit', hauthority'⟩ := exists_scheme_of_parse hurl
  rw [hjoined, hsplit, Option.map_some, Option.some.injEq, Prod.mk.injEq] at hsplit'
  obtain ⟨hscheme, rfl⟩ := hsplit'
  obtain rfl := Scheme.name_inj hscheme
  cases hafter : after.all isSlash with
  | true =>
      have hnone : authorityText after = [] := by
        rw [authorityText, List.dropWhile_eq_nil_iff.mpr (List.all_eq_true.mp hafter),
          List.takeWhile_nil]
      rw [hnone] at hauthority
      exact absurd hauthority (readAuthority_blanks (List.forall_mem_nil _) scheme _)
  | false =>
      obtain ⟨blanks, hblanks, hsame⟩ := authorityText_append hafter hgap
      rw [hsame] at hauthority'
      -- blanks at the end would be refused, so there are none
      rcases List.eq_nil_or_concat' blanks with rfl | ⟨front, c, rfl⟩
      · rw [List.append_nil] at hauthority'
        exact Except.ok.inj (hauthority'.symm.trans hauthority)
      · rw [← List.append_assoc] at hauthority'
        exact absurd hauthority' (readAuthority_concat (hblanks c (by simp)) scheme _ _)

/-- Two paths that are joined to one text lead to one server, if the first is made of slashes. -/
theorem authority_join_join {base first second : String} {a b : HttpUrl}
    (hslashes : first.toList.all isSlash = true) (ha : parse (base ++ "/" ++ first) = .ok a)
    (hb : parse (base ++ "/" ++ second) = .ok b) : b.authority = a.authority := by
  obtain ⟨gap, hgap, hjoined⟩ := splitScheme_join base
  obtain ⟨scheme, rest, hsplit, hauthority⟩ := exists_scheme_of_parse ha
  obtain ⟨scheme', rest', hsplit', hauthority'⟩ := exists_scheme_of_parse hb
  rw [hjoined, Option.map_eq_some_iff] at hsplit hsplit'
  obtain ⟨⟨name, after⟩, hbase, heq⟩ := hsplit
  obtain ⟨⟨name', after'⟩, hbase', heq'⟩ := hsplit'
  obtain ⟨rfl, rfl⟩ := Prod.mk.inj (Option.some.inj (hbase.symm.trans hbase'))
  obtain ⟨hname, rfl⟩ := Prod.mk.inj heq
  obtain ⟨hname', rfl⟩ := Prod.mk.inj heq'
  obtain rfl := Scheme.name_inj (hname.symm.trans hname')
  cases hafter : after.all isSlash with
  | true =>
      have hrest : (significantEnd first.toList).all isSlash = true :=
        List.all_eq_true.mpr fun c hc =>
          List.all_eq_true.mp hslashes c (significantEnd_subset first.toList hc)
      rw [authorityText_append_of_bare hafter hgap hrest] at hauthority
      exact absurd hauthority (readAuthority_blanks hgap scheme _)
  | false =>
      obtain ⟨blanks, -, hsame⟩ := authorityText_append hafter hgap
      rw [hsame] at hauthority hauthority'
      exact Except.ok.inj (hauthority'.symm.trans hauthority)

/-- A URL names a user exactly if its text does. -/
theorem namesUser_of_parse {text : String} {url : HttpUrl} (h : parse text = .ok url) :
    namesUser text = ((url.authority.user, url.authority.password) != ([], none)) := by
  rw [parse] at h
  split at h
  next => cases h
  next scheme rest hsplit =>
    have hafter : afterScheme? text = some rest := by rw [afterScheme?, hsplit]; rfl
    rw [namesUser, hafter, Option.any_some]
    split at h
    next => rw [user_of_readHttp h]
    next =>
      split at h
      next => rw [user_of_readHttp h]
      next => cases h

end SessionKeeper.Url
