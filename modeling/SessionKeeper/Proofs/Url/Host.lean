import Mathlib.Data.List.Basic
import SessionKeeper.Url.Basic

/-!
# Blanks at the end of a host

No host ends with a control or a space. Such a character is neither percent-encoded nor taken for
another; composing a name keeps it, and so does writing its last label. In the ASCII form of the
name it is forbidden.
-/

namespace SessionKeeper

/-! ## Bytes and characters -/

namespace Text

variable {c : Char}

theorem utf8EncodeChar_of_ascii (hc : c.toNat < 0x80) :
    String.utf8EncodeChar c = [UInt8.ofNat c.toNat] :=
  if_pos (Nat.le_of_lt_succ hc)

theorem eq_of_getLast?_utf8EncodeChar (hc : c.toNat < 0x80) {d : Char}
    (h : (String.utf8EncodeChar d).getLast? = some (UInt8.ofNat c.toNat)) : d = c := by
  have hlast (n : Nat) (hn : n < 256) (heq : UInt8.ofNat n = UInt8.ofNat c.toNat) :
      n = c.toNat := by
    have hvalue := congrArg UInt8.toNat heq
    rwa [UInt8.toNat_ofNat', UInt8.toNat_ofNat', Nat.mod_eq_of_lt hn,
      Nat.mod_eq_of_lt (by omega)] at hvalue
  -- the last of several bytes is not ASCII
  have hcontinued (n : Nat) (heq : UInt8.ofNat (n % 0x40 + 0x80) = UInt8.ofNat c.toNat) :
      False := by
    have hvalue := hlast _ (by omega) heq
    omega
  unfold String.utf8EncodeChar at h
  dsimp only at h
  split at h
  next hascii =>
    have hvalue : d.toNat = c.toNat := hlast d.val.toNat (by omega) (Option.some.inj h)
    exact Char.toNat_inj.mp hvalue
  next =>
    split at h
    next => exact (hcontinued _ (Option.some.inj h)).elim
    next =>
      split at h
      next => exact (hcontinued _ (Option.some.inj h)).elim
      next => exact (hcontinued _ (Option.some.inj h)).elim

theorem flatMap_of_decode {bytes : List UInt8} {s : String}
    (h : decode ⟨bytes.toArray⟩ = some s) : s.toList.flatMap String.utf8EncodeChar = bytes := by
  rw [decode, String.fromUTF8?] at h
  split at h
  next hvalid =>
    cases h
    have hencoded : (String.fromUTF8 _ hvalid).toList.utf8Encode = ⟨bytes.toArray⟩ :=
      String.utf8Encode_toList
    simpa [List.utf8Encode] using congrArg (fun b => b.data.toList) hencoded
  next => cases h

/-- A text whose bytes end with an ASCII character ends with that character. -/
theorem toList_of_decode {bytes : List UInt8} {s : String} (hc : c.toNat < 0x80)
    (h : decode ⟨(bytes ++ [UInt8.ofNat c.toNat]).toArray⟩ = some s) :
    ∃ cs, s.toList = cs ++ [c] := by
  have hbytes := flatMap_of_decode h
  rcases List.eq_nil_or_concat' s.toList with hnil | ⟨cs, d, hcs⟩
  · simp [hnil] at hbytes
  · have hlast := congrArg List.getLast? hbytes
    have hne : String.utf8EncodeChar d ≠ [] := List.ne_nil_of_length_pos (by
      rw [String.length_utf8EncodeChar]
      exact d.utf8Size_pos)
    obtain ⟨b, hb⟩ := Option.isSome_iff_exists.mp (List.getLast?_isSome.mpr hne)
    rw [hcs, List.flatMap_append, List.flatMap_singleton, List.getLast?_append, hb,
      List.getLast?_concat, Option.some_or] at hlast
    rw [hlast] at hb
    exact ⟨cs, eq_of_getLast?_utf8EncodeChar hc hb ▸ hcs⟩

/-! ## Composed texts -/

theorem decomposeWithin_of_ascii (hc : c.toNat < 0x80) (fuel : Nat) :
    decomposeWithin fuel c = [c] := by
  cases fuel with
  | zero => rfl
  | succ fuel => rw [decomposeWithin, split?, if_pos hc]

theorem combiningClass_of_ascii (hc : c.toNat < 0x80) : combiningClass c = 0 :=
  if_pos (by omega)

theorem insertMark_concat (hc : c.toNat < 0x80) (d : Char) (cs : List Char) :
    ∃ ds, insertMark d (cs ++ [c]) = ds ++ [c] := by
  induction cs with
  | nil =>
      refine ⟨[d], ?_⟩
      rw [List.nil_append, insertMark, if_neg fun h => h.1 (combiningClass_of_ascii hc)]
      rfl
  | cons e cs ih =>
      obtain ⟨ds, hds⟩ := ih
      rw [List.cons_append, insertMark, hds]
      split
      next => exact ⟨e :: ds, rfl⟩
      next => exact ⟨d :: e :: cs, rfl⟩

/-- What follows a character that is ASCII is never put before it. -/
theorem decompose_concat (hc : c.toNat < 0x80) (cs : List Char) :
    ∃ ds, decompose (cs ++ [c]) = ds ++ [c] := by
  rw [decompose, List.flatMap_append, List.flatMap_singleton, decomposeWithin_of_ascii hc,
    List.foldr_append]
  generalize cs.flatMap (decomposeWithin deepestSplit) = es
  induction es with
  | nil => exact ⟨[], rfl⟩
  | cons e es ih =>
      obtain ⟨ds, hds⟩ := ih
      rw [List.foldr_cons, hds]
      exact insertMark_concat hc e ds

namespace Composing

theorem reversed_push (s : Composing) (c : Char) : (s.push c).reversed = c :: s.reversed := by
  rw [push]
  split
  next => rfl
  next =>
    split
    next hletter => simp [reversed, hletter]
    next hletter =>
      obtain ⟨letter, hletter⟩ := Option.ne_none_iff_exists'.mp hletter
      simp [reversed, hletter]

/-- A character that is ASCII is composed with no other before it. -/
theorem reversed_add (s : Composing) (hc : c.toNat < 0x80) :
    (s.add c).reversed = c :: s.reversed := by
  rw [add]
  split
  next => exact s.reversed_push c
  next letter hletter =>
    split
    next => exact s.reversed_push c
    next =>
      rw [join?, if_pos hc]
      exact s.reversed_push c

end Composing

theorem mem_compose_concat (hc : c.toNat < 0x80) (cs : List Char) : c ∈ compose (cs ++ [c]) := by
  rw [compose]
  split
  next => simp
  next =>
    obtain ⟨ds, hds⟩ := decompose_concat hc cs
    rw [hds, List.foldl_append, List.foldl_cons, List.foldl_nil, List.mem_reverse,
      Composing.reversed_add _ hc]
    exact List.mem_cons_self

end Text

namespace Url

variable {c : Char}

theorem ascii_of_isMargin (hc : isMargin c = true) : c.toNat < 0x80 := by
  have hle : c.toNat ≤ 0x20 := by simpa [isMargin] using hc
  omega

/-- A property that the thirty-three blanks have one by one. -/
theorem forall_isMargin {P : Char → Prop} (h : ∀ n < 33, P (Char.ofNat n))
    (hc : isMargin c = true) : P c := by
  have hP := h c.toNat (Nat.lt_succ_of_le (by simpa [isMargin] using hc))
  rwa [Char.ofNat_toNat] at hP

/-! ## The ASCII form of a name -/

theorem mapText_concat {cs mapped : List Char} (hc : isMargin c = true)
    (h : mapText (cs ++ [c]) = some mapped) : ∃ ds, mapped = ds ++ [c] := by
  have hself : mapChar c = some [c] := by
    refine forall_isMargin (P := fun c => mapChar c = some [c]) ?_ hc
    decide
  rw [mapText, List.mapM_append] at h
  simp only [List.mapM_cons, List.mapM_nil, hself, Option.pure_def, Option.bind_eq_bind,
    Option.bind_some, Option.map_eq_some_iff, Option.bind_eq_some_iff, Option.some.injEq] at h
  obtain ⟨pieces, ⟨front, -, rfl⟩, rfl⟩ := h
  exact ⟨front.flatten, by simp⟩

theorem exists_mem_splitOn {separator : Char} {cs : List Char} (hmem : c ∈ cs)
    (hc : c ≠ separator) : ∃ piece ∈ splitOn separator cs, c ∈ piece := by
  induction cs with
  | nil => cases hmem
  | cons d cs ih =>
      rw [splitOn]
      cases hsplit : splitOn separator cs with
      | nil =>
          rcases List.mem_cons.mp hmem with rfl | hrest
          · exact ⟨[c], List.mem_singleton_self _, List.mem_singleton_self _⟩
          · obtain ⟨piece, hpiece, -⟩ := ih hrest
            simp [hsplit] at hpiece
      | cons piece pieces =>
          dsimp only
          rcases List.mem_cons.mp hmem with rfl | hrest
          · rw [if_neg hc]
            exact ⟨c :: piece, List.mem_cons_self, List.mem_cons_self⟩
          · obtain ⟨found, hfound, hin⟩ := ih hrest
            rw [hsplit] at hfound
            split
            next => exact ⟨found, List.mem_cons_of_mem _ hfound, hin⟩
            next =>
              rcases List.mem_cons.mp hfound with rfl | hlater
              · exact ⟨d :: found, List.mem_cons_self, List.mem_cons_of_mem _ hin⟩
              · exact ⟨found, List.mem_cons_of_mem _ hlater, hin⟩

namespace Punycode

theorem text_prefix_foldl (basic point : Nat) (label : List Char) (s : Writing) :
    s.text <+: (label.foldl (Writing.pass basic point) s).text := by
  induction label generalizing s with
  | nil => exact List.prefix_rfl
  | cons d label ih =>
      refine List.IsPrefix.trans ?_ (ih _)
      rw [Writing.pass]
      split
      next => exact List.prefix_rfl
      next =>
        split
        next => exact List.prefix_append ..
        next => exact List.prefix_rfl

theorem text_prefix_writeFrom (label : List Char) (basic next : Nat) (points : List Nat)
    (s : Writing) : s.text <+: writeFrom label basic next points s := by
  induction points generalizing next s with
  | nil => exact List.prefix_rfl
  | cons point points ih =>
      rw [writeFrom]
      refine List.IsPrefix.trans ?_ (ih _ _)
      exact text_prefix_foldl basic point label
        { s with distance := s.distance + (point - next) * (s.known + 1) }

/-- The ASCII characters of a label are written as they are. -/
theorem mem_encode {label : List Char} (hmem : c ∈ label) (hc : c.toNat < 0x80) :
    c ∈ encode label := by
  have hbasic : c ∈ label.filter fun d => d.toNat < initialPoint :=
    List.mem_filter.mpr ⟨hmem, decide_eq_true hc⟩
  refine (text_prefix_writeFrom _ _ _ _ _).subset ?_
  dsimp only
  rw [if_neg (List.ne_nil_of_mem hbasic)]
  exact List.mem_append_left _ hbasic

end Punycode

theorem Label.mem_written {cs : List Char} {l : Label} (hmem : c ∈ cs) (hc : c.toNat < 0x80)
    (h : Label.read cs = some l) : c ∈ l.written := by
  rw [Label.read] at h
  split at h
  next hlead =>
    split at h
    next =>
      rw [Label.ofCode] at h
      split at h
      next => cases h
      next =>
        split at h
        next => cases h
        next =>
          split at h
          next =>
            cases h
            rwa [← hlead, List.take_append_drop]
          next => cases h
    next => cases h
  next =>
    split at h
    next => cases h; exact hmem
    next =>
      split at h
      next => cases h
      next =>
        cases h
        exact List.mem_append_right _ (Punycode.mem_encode hmem hc)

theorem exists_mem_of_mapM {α β : Type} {f : α → Option β} {as : List α} {bs : List β} {a : α}
    (h : as.mapM f = some bs) (ha : a ∈ as) : ∃ b ∈ bs, f a = some b := by
  induction as generalizing bs with
  | nil => cases ha
  | cons d as ih =>
      simp only [List.mapM_cons, Option.pure_def, Option.bind_eq_bind, Option.bind_eq_some_iff,
        Option.some.injEq] at h
      obtain ⟨b, hb, rest, hrest, rfl⟩ := h
      rcases List.mem_cons.mp ha with rfl | hlater
      · exact ⟨b, List.mem_cons_self, hb⟩
      · obtain ⟨b', hb', hfound⟩ := ih hrest hlater
        exact ⟨b', List.mem_cons_of_mem _ hb', hfound⟩

theorem mem_joinLabels {labels : List (List Char)} {label : List Char} (hlabel : label ∈ labels)
    (hmem : c ∈ label) : c ∈ joinLabels labels := by
  induction labels with
  | nil => cases hlabel
  | cons first rest ih =>
      cases rest with
      | nil =>
          obtain rfl := List.mem_singleton.mp hlabel
          exact hmem
      | cons second rest =>
          rw [joinLabels]
          · rcases List.mem_cons.mp hlabel with rfl | hlater
            · exact List.mem_append_left _ hmem
            · exact List.mem_append_right _ (List.mem_cons_of_mem _ (ih hlater))
          · nofun

/-- A name that ends with a blank has no ASCII form. -/
theorem domainToAscii_concat (hc : isMargin c = true) (cs : List Char) :
    domainToAscii (cs ++ [c]) = none := by
  have hascii := ascii_of_isMargin hc
  have hdot : c ≠ '.' := by
    rintro rfl
    cases hc
  have hforbidden : isForbidden c = true := by
    rw [isForbidden, show decide (c.toNat ≤ 0x20) = true from hc]
    simp
  rw [domainToAscii]
  split
  next => rfl
  next labels hlabels =>
    rw [readLabels] at hlabels
    split at hlabels
    next => cases hlabels
    next mapped hmapped =>
      split at hlabels
      next => cases hlabels
      next read hread =>
        obtain rfl : read = labels := by
          split at hlabels
          next => exact Option.some.inj hlabels
          next => cases hlabels
        obtain ⟨ds, rfl⟩ := mapText_concat hc hmapped
        obtain ⟨piece, hpiece, hin⟩ :=
          exists_mem_splitOn (Text.mem_compose_concat hascii ds) hdot
        obtain ⟨l, hl, hlabel⟩ := exists_mem_of_mapM hread hpiece
        have hmem : c ∈ joinLabels (read.map Label.written) :=
          mem_joinLabels (List.mem_map_of_mem hl) (Label.mem_written hin hascii hlabel)
        exact if_pos (List.any_eq_true.mpr ⟨c, hmem, hforbidden⟩)

/-! ## Hosts -/

/-- A byte that is no digit stays at the end. -/
theorem decodeBytes_concat {b : UInt8} (hdigit : hexDigit? (Char.ofNat b.toNat) = none)
    (bytes : List UInt8) :
    ∃ front, decodeBytes (bytes ++ [b]) = front ++ [b] := by
  induction bytes using decodeBytes.induct with
  | case1 => exact ⟨[], rfl⟩
  | case2 x => exact ⟨[x], rfl⟩
  | case3 x y =>
      refine ⟨[x, y], ?_⟩
      rw [List.cons_append, List.cons_append, List.nil_append, decodeBytes]
      split
      next =>
        split
        next m n hm hn => exact absurd (hdigit.symm.trans hn) nofun
        next => rfl
      next => rfl
  | case4 y z rest m n hn hm ih =>
      obtain ⟨front, hfront⟩ := ih
      refine ⟨UInt8.ofNat (m * 16 + n) :: front, ?_⟩
      simp only [List.cons_append, decodeBytes, hm, hn, ↓reduceIte, hfront]
  | case5 y z rest hnone ih =>
      obtain ⟨front, hfront⟩ := ih
      refine ⟨0x25 :: front, ?_⟩
      rw [List.cons_append, List.cons_append, List.cons_append, decodeBytes, if_pos rfl]
      split
      next m n hm hn => exact (hnone m n hm hn).elim
      next => rw [← List.cons_append, ← List.cons_append, hfront]; rfl
  | case6 x y z rest hx ih =>
      obtain ⟨front, hfront⟩ := ih
      refine ⟨x :: front, ?_⟩
      rw [List.cons_append, List.cons_append, List.cons_append, decodeBytes, if_neg hx,
        ← List.cons_append, ← List.cons_append, hfront]
      rfl

theorem readName_concat (hc : isMargin c = true) (cs : List Char) :
    readName (cs ++ [c]) = .error .invalidDomain := by
  have hascii := ascii_of_isMargin hc
  have hdigit : hexDigit? (Char.ofNat (UInt8.ofNat c.toNat).toNat) = none := by
    refine forall_isMargin
      (P := fun c => hexDigit? (Char.ofNat (UInt8.ofNat c.toNat).toNat) = none) ?_ hc
    decide
  obtain ⟨front, hfront⟩ := decodeBytes_concat hdigit (cs.flatMap String.utf8EncodeChar)
  rw [readName, decodePercent, List.flatMap_append, List.flatMap_singleton,
    Text.utf8EncodeChar_of_ascii hascii, hfront]
  split
  next => rfl
  next name hname =>
    obtain ⟨ds, hds⟩ := Text.toList_of_decode hascii hname
    rw [hds, domainToAscii_concat hc]

/-- No host ends with a blank. -/
theorem readHost_concat (hc : isMargin c = true) (cs : List Char) (host : Host) :
    readHost (cs ++ [c]) ≠ .ok host := by
  intro h
  unfold readHost at h
  split at h
  next => cases h
  next tail hbracketed =>
    rw [readBracketed] at h
    split at h
    next hlast =>
      have hend := congrArg List.getLast? hbracketed
      rw [List.getLast?_concat, List.getLast?_cons, hlast, Option.getD_some] at hend
      rw [Option.some.inj hend] at hc
      cases hc
    next => cases h
  next =>
    rw [readName_concat hc] at h
    cases h

theorem splitPort_concat (hcolon : c ≠ ':') (inside : Bool) (cs : List Char) :
    splitPort inside (cs ++ [c]) =
      match splitPort inside cs with
      | (host, none) => (host ++ [c], none)
      | (host, some port) => (host, some (port ++ [c])) := by
  induction cs generalizing inside with
  | nil => simp [splitPort, hcolon]
  | cons d cs ih =>
      rw [List.cons_append, splitPort, splitPort]
      split
      next => rfl
      next =>
        dsimp only
        rw [ih]
        rcases splitPort _ cs with ⟨host, _ | port⟩ <;> rfl

/-- Behind the last `@` there is nothing that could name a user. -/
theorem splitUser_append {cs more : List Char} (hmore : ∀ d ∈ more, d ≠ '@') :
    splitUser (cs ++ more) = ((splitUser cs).1, (splitUser cs).2 ++ more) := by
  have hdrop : (cs ++ more).reverse.dropWhile (fun d => d != '@') =
      cs.reverse.dropWhile fun d => d != '@' := by
    rw [List.reverse_append, List.dropWhile_append_of_pos fun d hd => by
      simpa using hmore d (List.mem_reverse.mp hd)]
  have htake : (cs ++ more).reverse.takeWhile (fun d => d != '@') =
      more.reverse ++ cs.reverse.takeWhile fun d => d != '@' := by
    rw [List.reverse_append, List.takeWhile_append_of_pos fun d hd => by
      simpa using hmore d (List.mem_reverse.mp hd)]
  rw [splitUser, splitUser, hdrop, htake]
  split <;> simp

/-- What is read as an authority does not end with a blank: neither a host nor a port does. -/
theorem readAuthority_concat (hc : isMargin c = true) (scheme : Scheme) (cs : List Char)
    (a : Authority) : readAuthority scheme (cs ++ [c]) ≠ .ok a := by
  have hother : c ≠ '@' ∧ c ≠ ':' ∧ c.isDigit = false := by
    refine forall_isMargin (P := fun c => c ≠ '@' ∧ c ≠ ':' ∧ c.isDigit = false) ?_ hc
    decide
  intro h
  rw [readAuthority, splitUser_append fun d hd => List.mem_singleton.mp hd ▸ hother.1] at h
  dsimp only at h
  rw [splitPort_concat hother.2.1] at h
  generalize splitPort false (splitUser cs).2 = server at h
  rcases server with ⟨host, _ | port⟩
  · dsimp only at h
    split at h
    next => cases h
    next read hread => exact readHost_concat hc _ _ hread
  · dsimp only [Option.getD_some] at h
    have hport : readPort scheme (port ++ [c]) = .error .invalidPort := by
      simp [readPort, hother.2.2]
    rw [hport] at h
    split at h <;> cases h

/-- Blanks are no authority. -/
theorem readAuthority_blanks {blanks : List Char} (hblanks : ∀ d ∈ blanks, isMargin d = true)
    (scheme : Scheme) (a : Authority) : readAuthority scheme blanks ≠ .ok a := by
  rcases List.eq_nil_or_concat' blanks with rfl | ⟨front, d, rfl⟩
  · nofun
  · exact readAuthority_concat (hblanks d (by simp)) scheme front a

end Url

end SessionKeeper
