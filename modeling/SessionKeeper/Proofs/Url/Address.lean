import Mathlib.Algebra.Group.Nat.Defs
import SessionKeeper.Proofs.Url.Pieces

/-!
# Texts of addresses

What an address may look like, apart from how it is read: digits of a base, groups with colons
between them, and a double colon for groups of zero. Every such text of a version 6 address is read
as the address, and the text that is written of an address is one of them, so that an address is
read back from its text.
-/

namespace SessionKeeper.Url

variable {base n : Nat} {c : Char} {cs ds : List Char} {groups : List Nat}

/-! ## Numerals -/

/-- A digit of a base; if it is a letter, in either case. -/
def IsDigitOf (base d : Nat) (c : Char) : Prop :=
  d < base ∧ (c = d.digitChar ∨ c = d.digitChar.toUpper)

/-- Digits of a base, and the number that they denote. -/
inductive Numeral (base : Nat) : Nat → List Char → Prop
  | nil : Numeral base 0 []
  | snoc {n d : Nat} {cs : List Char} {c : Char} (hcs : Numeral base n cs)
      (hc : IsDigitOf base d c) : Numeral base (n * base + d) (cs ++ [c])

theorem digitIn?_eq_some_iff (hbase : base ≤ 16) {d : Nat} :
    digitIn? base c = some d ↔ digitIn? 16 c = some d ∧ d < base := by
  simp only [digitIn?, Option.filter_eq_some_iff, decide_eq_true_eq]
  constructor
  · rintro ⟨hvalue, hlt⟩
    exact ⟨⟨hvalue, Nat.lt_of_lt_of_le hlt hbase⟩, hlt⟩
  · rintro ⟨⟨hvalue, -⟩, hlt⟩
    exact ⟨hvalue, hlt⟩

theorem IsDigitOf.digitIn? {d : Nat} (h : IsDigitOf base d c) (hbase : base ≤ 16) :
    digitIn? base c = some d := by
  have hall : ∀ d < 16, Url.digitIn? 16 d.digitChar = some d ∧
      Url.digitIn? 16 d.digitChar.toUpper = some d := by decide
  obtain ⟨hlt, hchar⟩ := h
  obtain ⟨hlower, hupper⟩ := hall d (Nat.lt_of_lt_of_le hlt hbase)
  rw [digitIn?_eq_some_iff hbase]
  rcases hchar with rfl | rfl
  · exact ⟨hlower, hlt⟩
  · exact ⟨hupper, hlt⟩

/-- What is no digit is none of the digits. -/
theorem IsDigitOf.ne {d : Nat} (h : IsDigitOf base d c) (hbase : base ≤ 16) {x : Char}
    (hx : Url.digitIn? 16 x = none) : c ≠ x := by
  rintro rfl
  have hdigit := ((digitIn?_eq_some_iff hbase).mp (h.digitIn? hbase)).1
  rw [hx] at hdigit
  cases hdigit

theorem Numeral.isDigitOf (h : Numeral base n cs) (hc : c ∈ cs) : ∃ d, IsDigitOf base d c := by
  induction h with
  | nil => cases hc
  | snoc _ hlast ih =>
      rcases List.mem_append.mp hc with hfront | hend
      · exact ih hfront
      · exact List.mem_singleton.mp hend ▸ ⟨_, hlast⟩

theorem Numeral.not_mem (h : Numeral base n cs) (hbase : base ≤ 16) {x : Char}
    (hx : Url.digitIn? 16 x = none) : x ∉ cs := by
  intro hmem
  obtain ⟨d, hd⟩ := h.isDigitOf hmem
  exact hd.ne hbase hx rfl

theorem readIn_append (base acc : Nat) (cs ds : List Char) :
    readIn base acc (cs ++ ds) = (readIn base acc cs).bind fun n => readIn base n ds := by
  induction cs generalizing acc with
  | nil => rfl
  | cons c cs ih =>
      rw [List.cons_append, readIn, readIn]
      cases digitIn? base c with
      | none => rfl
      | some d => exact ih _

/-- A numeral is read as the number that it denotes. -/
theorem Numeral.readIn (h : Numeral base n cs) (hbase : base ≤ 16) :
    readIn base 0 cs = some n := by
  induction h with
  | nil => rfl
  | snoc _ hc ih => simp [readIn_append, ih, Url.readIn, hc.digitIn? hbase]

/-- The text that is written of a number is one of its numerals. -/
theorem numeral_toDigits (hbase : 1 < base) (n : Nat) : Numeral base n (Nat.toDigits base n) := by
  induction n using Nat.strongRecOn with
  | ind n ih =>
      by_cases hn : n < base
      · rw [Nat.toDigits_of_lt_base hn]
        have hdigit : IsDigitOf base n n.digitChar := ⟨hn, .inl rfl⟩
        simpa using Numeral.nil.snoc hdigit
      · have hle : base ≤ n := Nat.le_of_not_lt hn
        have hless : n / base < n := Nat.div_lt_self (by omega) hbase
        have hdigit : IsDigitOf base (n % base) (n % base).digitChar :=
          ⟨Nat.mod_lt n (by omega), .inl rfl⟩
        have hsnoc := (ih _ hless).snoc hdigit
        rwa [Nat.div_add_mod', ← Nat.toDigits_of_base_le hbase hle] at hsnoc

/-- Digits are read as less than the power of the base that there are digits. -/
theorem readIn_lt {acc : Nat} (h : readIn base acc cs = some n) :
    n < (acc + 1) * base ^ cs.length := by
  induction cs generalizing acc with
  | nil =>
      obtain rfl := Option.some.inj h
      simp
  | cons c cs ih =>
      rw [readIn] at h
      split at h
      next => cases h
      next d hd =>
        have hlt : d < base := by
          rw [digitIn?, Option.filter_eq_some_iff] at hd
          exact of_decide_eq_true hd.2
        have hstep : acc * base + d + 1 ≤ (acc + 1) * base := by
          rw [Nat.add_mul, Nat.one_mul]
          omega
        calc n < (acc * base + d + 1) * base ^ cs.length := ih h
          _ ≤ (acc + 1) * base * base ^ cs.length := Nat.mul_le_mul_right _ hstep
          _ = (acc + 1) * base ^ (c :: cs).length := by
              rw [List.length_cons, Nat.pow_succ', Nat.mul_assoc]

/-! ## Four bytes -/

theorem readByte_toDigits : ∀ n < 256, readByte (Nat.toDigits 10 n) = some n := by
  decide +kernel

theorem readByte_le (h : readByte cs = some n) : n ≤ 255 := by
  rw [readByte] at h
  split at h
  next =>
    rw [Option.filter_eq_some_iff] at h
    exact of_decide_eq_true h.2
  next => cases h

theorem readV4Value_lt (h : readV4Value cs = some n) : n < 256 ^ 4 := by
  rw [readV4Value] at h
  split at h
  next a b c d hbytes =>
    have hle : ∀ x ∈ [a, b, c, d], x ≤ 255 := by
      intro x hx
      obtain ⟨piece, -, hpiece⟩ := exists_of_mem_mapM hbytes hx
      exact readByte_le hpiece
    simp only [List.forall_mem_cons, List.not_mem_nil, false_implies, implies_true] at hle
    obtain rfl := Option.some.inj h
    omega
  next => cases h

theorem dot_not_mem_toDigits (hbase : 1 < base) (hle : base ≤ 16) (n : Nat) :
    '.' ∉ Nat.toDigits base n :=
  (numeral_toDigits hbase n).not_mem hle (by decide)

theorem splitOn_writeV4 (n : Nat) :
    splitOn '.' (writeV4 n) = [Nat.toDigits 10 (n / Nat.pow 256 3 % 256),
      Nat.toDigits 10 (n / Nat.pow 256 2 % 256), Nat.toDigits 10 (n / 256 % 256),
      Nat.toDigits 10 (n % 256)] := by
  have hdot (m : Nat) : '.' ∉ Nat.toDigits 10 m := dot_not_mem_toDigits (by decide) (by decide) m
  simp only [writeV4, List.append_assoc, List.cons_append]
  rw [splitOn_append (hdot _), splitOn_append (hdot _), splitOn_append (hdot _),
    splitOn_of_not_mem (hdot _)]

theorem readV4Value_writeV4 (hn : n < 256 ^ 4) : readV4Value (writeV4 n) = some n := by
  have hbyte (m : Nat) : readByte (Nat.toDigits 10 (m % 256)) = some (m % 256) :=
    readByte_toDigits _ (Nat.mod_lt m (by decide))
  rw [readV4Value, splitOn_writeV4]
  simp only [List.mapM_cons, List.mapM_nil, hbyte, Option.pure_def, Option.bind_eq_bind,
    Option.bind_some, Option.some.injEq]
  have h2 : n / Nat.pow 256 2 = n / 256 / 256 := (Nat.div_div_eq_div_mul n 256 256).symm
  have h3 : n / Nat.pow 256 3 = n / 256 / 256 / 256 := by
    rw [Nat.div_div_eq_div_mul, Nat.div_div_eq_div_mul]
  rw [h3, h2]
  omega

theorem not_mem_writeV4 {x : Char} (hx : digitIn? 16 x = none) (hdot : x ≠ '.') (n : Nat) :
    x ∉ writeV4 n := by
  have hdigits (m : Nat) : x ∉ Nat.toDigits 10 m := by
    intro hmem
    obtain ⟨d, hd⟩ := (numeral_toDigits (by decide) m).isDigitOf hmem
    exact hd.ne (by decide) hx rfl
  simp [writeV4, hdigits, hdot]

/-! ## Groups with colons -/

/-- A group of sixteen bits in one to four hexadecimal digits. -/
structure GroupText (n : Nat) (cs : List Char) : Prop where
  digits : Numeral 16 n cs
  nonempty : cs ≠ []
  short : cs.length ≤ 4

/-- Groups with colons between them. At the end of an address the last two may be written as four
bytes with dots between them. -/
inductive GroupsText (final : Bool) : List Nat → List Char → Prop
  | group {n : Nat} {cs : List Char} (h : GroupText n cs) : GroupsText final [n] cs
  | bytes {n : Nat} (hfinal : final = true) (hn : n < 256 ^ 4) :
      GroupsText final [n / 65536, n % 65536] (writeV4 n)
  | cons {n : Nat} {ns : List Nat} {cs ds : List Char} (h : GroupText n cs)
      (hrest : GroupsText final ns ds) : GroupsText final (n :: ns) (cs ++ ':' :: ds)

/-- The groups on one side of a double colon, of which there may be none. -/
inductive SideText (final : Bool) : List Nat → List Char → Prop
  | none : SideText final [] []
  | some {ns : List Nat} {cs : List Char} (h : GroupsText final ns cs) : SideText final ns cs

/-- Eight groups, any one run of zeros among them as a double colon. -/
inductive V6Text : List Nat → List Char → Prop
  | whole {groups : List Nat} {cs : List Char} (h : GroupsText true groups cs)
      (hlength : groups.length = 8) : V6Text groups cs
  | compressed {front back : List Nat} {before behind : List Char} {zeros : Nat}
      (hfront : SideText false front before) (hback : SideText true back behind)
      (hzeros : 0 < zeros) (hlength : front.length + zeros + back.length = 8) :
      V6Text (front ++ List.replicate zeros 0 ++ back) (before ++ ':' :: ':' :: behind)

theorem GroupText.readGroup (h : GroupText n cs) : readGroup cs = some n := by
  rw [Url.readGroup, if_pos ⟨h.nonempty, h.short⟩]
  exact h.digits.readIn (by decide)

theorem GroupText.colon_not_mem (h : GroupText n cs) : ':' ∉ cs :=
  h.digits.not_mem (by decide) (by decide)

theorem groupText_toDigits (hn : n < 65536) : GroupText n (Nat.toDigits 16 n) where
  digits := numeral_toDigits (by decide) n
  nonempty := Nat.toDigits_ne_nil
  short := (Nat.length_toDigits_le_iff (by decide) (by decide)).mpr hn

/-- Four bytes with dots are too long for a group. -/
theorem readGroup_writeV4 (n : Nat) : readGroup (writeV4 n) = none := by
  refine if_neg fun h => absurd h.2 ?_
  have hpos (m : Nat) : 0 < (Nat.toDigits 10 m).length := Nat.length_toDigits_pos
  have h3 := hpos (n / Nat.pow 256 3 % 256)
  have h2 := hpos (n / Nat.pow 256 2 % 256)
  have h1 := hpos (n / 256 % 256)
  have h0 := hpos (n % 256)
  simp only [writeV4, List.length_append, List.length_cons]
  omega

namespace GroupsText

variable {final : Bool} {ns : List Nat}

/-- No colon stands in front of groups. -/
theorem exists_cons (h : GroupsText final ns cs) : ∃ c rest, cs = c :: rest ∧ c ≠ ':' := by
  have hhead {cs : List Char} (hne : cs ≠ []) (hcolon : ':' ∉ cs) :
      ∃ c rest, cs = c :: rest ∧ c ≠ ':' := by
    obtain ⟨c, rest, rfl⟩ := List.exists_cons_of_ne_nil hne
    refine ⟨c, rest, rfl, ?_⟩
    rintro rfl
    exact hcolon List.mem_cons_self
  cases h with
  | group h => exact hhead h.nonempty h.colon_not_mem
  | bytes =>
      refine hhead ?_ (not_mem_writeV4 (by decide) (by decide) _)
      simp [writeV4]
  | cons h =>
      obtain ⟨c, rest, rfl, hc⟩ := hhead h.nonempty h.colon_not_mem
      exact ⟨c, _, rfl, hc⟩

theorem ne_nil (h : GroupsText final ns cs) : cs ≠ [] := by
  obtain ⟨c, rest, rfl, -⟩ := h.exists_cons
  exact List.cons_ne_nil c rest

/-- Groups are read between the colons. -/
theorem readGroups (h : GroupsText final ns cs) : readGroups (splitOn ':' cs) = some ns := by
  induction h with
  | group h =>
      rw [splitOn_of_not_mem h.colon_not_mem, Url.readGroups, h.readGroup]
  | bytes _ hn =>
      rw [splitOn_of_not_mem (not_mem_writeV4 (by decide) (by decide) _), Url.readGroups,
        readGroup_writeV4, readV4Value_writeV4 hn]
      rfl
  | cons h _ ih =>
      rw [splitOn_append h.colon_not_mem, Url.readGroups, h.readGroup, ih]
      exact fun hnil => splitOn_ne_nil _ _ hnil

theorem mapM_readGroup (h : GroupsText false ns cs) :
    (splitOn ':' cs).mapM Url.readGroup = some ns := by
  induction h with
  | group h => simp [splitOn_of_not_mem h.colon_not_mem, h.readGroup]
  | bytes hfinal => cases hfinal
  | cons h _ ih => simp [splitOn_append h.colon_not_mem, h.readGroup, ih]

end GroupsText

/-! ## The double colon -/

/-- A character that begins no double colon stands before it. -/
theorem splitDoubleColon_cons (h : ∀ rest, c :: cs ≠ ':' :: ':' :: rest) :
    splitDoubleColon (c :: cs) = (splitDoubleColon cs).map (Prod.map (c :: ·) id) := by
  rw [splitDoubleColon]
  · rfl
  · rintro rest rfl rfl
    exact h rest rfl

theorem splitDoubleColon_append (h : ':' ∉ cs) (ds : List Char) :
    splitDoubleColon (cs ++ ds) = (splitDoubleColon ds).map (Prod.map (cs ++ ·) id) := by
  induction cs with
  | nil => exact (congrFun Option.map_id (splitDoubleColon ds)).symm
  | cons c cs ih =>
      obtain ⟨hc, hcs⟩ := not_or.mp (mt List.mem_cons.mpr h)
      have hother (rest : List Char) : c :: (cs ++ ds) ≠ ':' :: ':' :: rest :=
        fun heq => hc (List.cons.inj heq).1.symm
      rw [List.cons_append, splitDoubleColon_cons hother, ih hcs, Option.map_map]
      cases splitDoubleColon ds <;> rfl

/-- There is no double colon in groups, and none that begins at their end. -/
theorem GroupsText.splitDoubleColon_append {final : Bool} {ns : List Nat}
    (h : GroupsText final ns cs) (rest : List Char) :
    splitDoubleColon (cs ++ rest) =
      (splitDoubleColon rest).map (Prod.map (cs ++ ·) id) := by
  induction h with
  | group h => exact Url.splitDoubleColon_append h.colon_not_mem rest
  | bytes =>
      exact Url.splitDoubleColon_append (not_mem_writeV4 (by decide) (by decide) _) rest
  | @cons n ns cs ds h hrest ih =>
      obtain ⟨d, ds, rfl, hd⟩ := hrest.exists_cons
      have hother (more : List Char) : ':' :: d :: (ds ++ rest) ≠ ':' :: ':' :: more := by
        intro heq
        exact hd (List.cons.inj (List.cons.inj heq).2).1
      rw [List.append_assoc, Url.splitDoubleColon_append h.colon_not_mem, List.cons_append,
        List.cons_append, splitDoubleColon_cons hother, ← List.cons_append, ih, Option.map_map,
        Option.map_map]
      cases splitDoubleColon rest <;> simp [Prod.map]

namespace SideText

variable {final : Bool} {ns : List Nat}

theorem splitDoubleColon (h : SideText final ns cs) (behind : List Char) :
    splitDoubleColon (cs ++ ':' :: ':' :: behind) = .some (cs, behind) := by
  cases h with
  | none => rfl
  | some h => simp [h.splitDoubleColon_append, Url.splitDoubleColon]

theorem readGroups (h : SideText final ns cs) : readGroups (colonParts cs) = .some ns := by
  cases h with
  | none => rfl
  | some h => rw [colonParts, if_neg h.ne_nil, h.readGroups]

theorem mapM_readGroup (h : SideText false ns cs) : (colonParts cs).mapM readGroup =
    .some ns := by
  cases h with
  | none => rfl
  | some h => rw [colonParts, if_neg h.ne_nil, h.mapM_readGroup]

end SideText

/-- Every text of a version 6 address is read as the address. -/
theorem V6Text.readV6 (h : V6Text groups cs) : readV6 cs = some (.v6 groups) := by
  cases h with
  | whole h hlength =>
      have hnone : splitDoubleColon cs = none := by
        simpa [splitDoubleColon] using h.splitDoubleColon_append []
      rw [Url.readV6, hnone]
      dsimp only
      rw [colonParts, if_neg h.ne_nil, h.readGroups]
      exact if_pos hlength
  | @compressed front back before behind zeros hfront hback hzeros hlength =>
      have hcount : 8 - front.length - back.length = zeros := by omega
      rw [Url.readV6, hfront.splitDoubleColon]
      dsimp only
      rw [hfront.mapM_readGroup, hback.readGroups]
      dsimp only
      rw [hcount, if_pos (by omega)]

/-! ## Texts that are written -/

theorem GroupsText.writeGroups {final : Bool} (hne : groups ≠ [])
    (hsmall : ∀ n ∈ groups, n < 65536) : GroupsText final groups (writeGroups groups) := by
  induction groups with
  | nil => exact absurd rfl hne
  | cons n rest ih =>
      obtain ⟨hn, hrest⟩ := List.forall_mem_cons.mp hsmall
      cases rest with
      | nil => exact .group (groupText_toDigits hn)
      | cons m rest => exact .cons (groupText_toDigits hn) (ih (List.cons_ne_nil m rest) hrest)

theorem SideText.writeGroups {final : Bool} (hsmall : ∀ n ∈ groups, n < 65536) :
    SideText final groups (writeGroups groups) := by
  by_cases hne : groups = []
  · subst hne
    exact .none
  · exact .some (.writeGroups hne hsmall)

theorem takeWhile_zeros (groups : List Nat) :
    groups.takeWhile (fun n => n == 0) = List.replicate (leadingZeros groups) 0 := by
  refine List.eq_replicate_iff.mpr ⟨rfl, fun n hn => ?_⟩
  exact beq_iff_eq.mp (List.all_eq_true.mp List.all_takeWhile n hn)

/-- The longest run of zeros is a run of zeros. -/
theorem longestZeros_eq (position : Nat) (groups : List Nat) :
    ∃ front back, groups = front ++ List.replicate (longestZeros position groups).2 0 ++ back ∧
      (longestZeros position groups).1 = position + front.length := by
  induction groups generalizing position with
  | nil => exact ⟨[], [], rfl, rfl⟩
  | cons n rest ih =>
      rw [longestZeros]
      split
      next =>
        refine ⟨[], (n :: rest).dropWhile fun n => n == 0, ?_, rfl⟩
        rw [List.nil_append, ← takeWhile_zeros, List.takeWhile_append_dropWhile]
      next =>
        obtain ⟨front, back, heq, hposition⟩ := ih (position + 1)
        refine ⟨n :: front, back, congrArg (n :: ·) heq, ?_⟩
        rw [hposition, List.length_cons]
        omega

/-- What is written of eight groups is a text of the address. -/
theorem V6Text.writeV6 (hlength : groups.length = 8) (hsmall : ∀ n ∈ groups, n < 65536) :
    V6Text groups (writeV6 groups) := by
  obtain ⟨front, back, heq, hposition⟩ := longestZeros_eq 0 groups
  rw [Url.writeV6]
  generalize longestZeros 0 groups = run at heq hposition
  obtain ⟨position, zeros⟩ := run
  dsimp only at heq hposition ⊢
  by_cases hzeros : 2 ≤ zeros
  · obtain rfl : position = front.length := by omega
    have htake : groups.take front.length = front := by simp [heq]
    have hdrop : groups.drop (front.length + zeros) = back := by simp [heq]
    have hlengths : front.length + zeros + back.length = 8 := by
      rw [← hlength, heq, List.length_append, List.length_append, List.length_replicate]
    rw [if_pos hzeros, htake, hdrop]
    subst heq
    simp only [List.forall_mem_append] at hsmall
    exact .compressed (.writeGroups hsmall.1.1) (.writeGroups hsmall.2) (by omega) hlengths
  · have hne : groups ≠ [] := by
      rintro rfl
      cases hlength
    rw [if_neg hzeros]
    exact .whole (.writeGroups hne hsmall) hlength

/-! ## Addresses that are read -/

/-- Whether the numbers of an address are as small as they have to be. -/
def Address.IsValid : Address → Prop
  | .v4 n => n < 256 ^ 4
  | .v6 groups => groups.length = 8 ∧ ∀ n ∈ groups, n < 65536

theorem combine_lt {position : Nat} {numbers : List Nat} (hposition : position ≤ 3)
    (h : combine position numbers = some n) : n < 256 ^ (4 - position) := by
  induction numbers generalizing position n with
  | nil => cases h
  | cons first rest ih =>
      cases rest with
      | nil =>
          rw [combine] at h
          split at h
          next hlt =>
            obtain rfl := Option.some.inj h
            exact hlt
          next => cases h
      | cons second rest =>
          rw [combine] at h
          · split at h
            next hfirst =>
              obtain ⟨m, hm, rfl⟩ := Option.map_eq_some_iff.mp h
              have hrest : m < 256 ^ (4 - (position + 1)) := ih hfirst.2 hm
              have hpow : 256 ^ (4 - position) = 256 * 256 ^ (3 - position) := by
                rw [← Nat.pow_succ']
                congr 1
                omega
              have hpart : first * 256 ^ (3 - position) ≤ 255 * 256 ^ (3 - position) :=
                Nat.mul_le_mul_right _ hfirst.1
              rw [show 4 - (position + 1) = 3 - position by omega] at hrest
              change first * 256 ^ (3 - position) + m < 256 ^ (4 - position)
              rw [hpow]
              omega
            next => cases h
          · nofun

theorem isValid_of_readV4Lenient {a : Address} (h : readV4Lenient cs = some a) : a.IsValid := by
  rw [readV4Lenient] at h
  split at h
  next => cases h
  next numbers _ =>
    obtain ⟨n, hn, rfl⟩ := Option.map_eq_some_iff.mp h
    exact combine_lt (Nat.zero_le 3) hn

theorem readGroup_lt (h : readGroup cs = some n) : n < 65536 := by
  rw [readGroup] at h
  split at h
  next hshort =>
    have hlt := readIn_lt h
    have hpow : 16 ^ cs.length ≤ 16 ^ 4 := Nat.pow_le_pow_right (by decide) hshort.2
    omega
  next => cases h

theorem readGroups_lt {parts : List (List Char)} {ns : List Nat}
    (h : readGroups parts = some ns) : ∀ n ∈ ns, n < 65536 := by
  induction parts generalizing ns with
  | nil =>
      obtain rfl := Option.some.inj h
      exact List.forall_mem_nil _
  | cons first rest ih =>
      cases rest with
      | nil =>
          rw [readGroups] at h
          split at h
          next n hn =>
            obtain rfl := Option.some.inj h
            exact List.forall_mem_singleton.mpr (readGroup_lt hn)
          next =>
            obtain ⟨n, hn, rfl⟩ := Option.map_eq_some_iff.mp h
            have hlt := readV4Value_lt hn
            intro m hm
            simp only [List.mem_cons, List.not_mem_nil, or_false] at hm
            omega
      | cons second rest =>
          rw [readGroups] at h
          · split at h
            next n ns hn hns =>
              obtain rfl := Option.some.inj h
              exact List.forall_mem_cons.mpr ⟨readGroup_lt hn, ih hns⟩
            next => cases h
          · nofun

theorem isValid_of_readV6 {a : Address} (h : readV6 cs = some a) : a.IsValid := by
  rw [readV6] at h
  split at h
  next =>
    split at h
    next groups hgroups =>
      split at h
      next hlength =>
        obtain rfl := Option.some.inj h
        exact ⟨hlength, readGroups_lt hgroups⟩
      next => cases h
    next => cases h
  next before behind _ =>
    split at h
    next front back hfront hback =>
      split at h
      next hlength =>
        obtain rfl := Option.some.inj h
        refine ⟨?_, ?_⟩
        · simp only [List.length_append, List.length_replicate]
          omega
        · intro n hn
          rcases List.mem_append.mp hn with hn | hn
          · rcases List.mem_append.mp hn with hn | hn
            · obtain ⟨piece, -, hpiece⟩ := exists_of_mem_mapM hfront hn
              exact readGroup_lt hpiece
            · rw [List.eq_of_mem_replicate hn]
              decide
          · exact readGroups_lt hback n hn
      next => cases h
    next => cases h

/-! ## Addresses that are read back -/

/-- Text without dots is no four bytes. -/
theorem readV4Value_of_not_mem (h : '.' ∉ cs) : readV4Value cs = none := by
  rw [readV4Value, splitOn_of_not_mem h]
  split
  next a b c d hbytes =>
    have hlength := (mapM_eq_some_iff.mp hbytes).length_eq
    cases hlength
  next => rfl

theorem not_mem_writeGroups {x : Char} (hx : digitIn? 16 x = none) (hcolon : x ≠ ':')
    (groups : List Nat) : x ∉ writeGroups groups := by
  have hdigits (m : Nat) : x ∉ Nat.toDigits 16 m :=
    (numeral_toDigits (by decide) m).not_mem (by decide) hx
  induction groups with
  | nil => exact List.not_mem_nil
  | cons n rest ih =>
      cases rest with
      | nil => exact hdigits n
      | cons m rest =>
          rw [writeGroups]
          · intro hmem
            rcases List.mem_append.mp hmem with hmem | hmem
            · exact hdigits n hmem
            · rcases List.mem_cons.mp hmem with hmem | hmem
              · exact hcolon hmem
              · exact ih hmem
          · nofun

theorem not_mem_writeV6 {x : Char} (hx : digitIn? 16 x = none) (hcolon : x ≠ ':')
    (groups : List Nat) : x ∉ writeV6 groups := by
  have hgroups := not_mem_writeGroups hx hcolon
  rw [writeV6]
  dsimp only
  split
  next => simp [hgroups, hcolon]
  next => exact hgroups groups

/-- The text of an address, without brackets. -/
def Address.write : Address → List Char
  | .v4 n => writeV4 n
  | .v6 groups => writeV6 groups

/-- An address is read back from its text. -/
theorem readAddress_write {a : Address} (h : a.IsValid) : readAddress a.write = some a := by
  rw [readAddress]
  cases a with
  | v4 n => rw [Address.write, readV4Value_writeV4 h]
  | v6 groups =>
      have hdot := not_mem_writeV6 (x := '.') (by decide) (by decide) groups
      rw [Address.write, readV4Value_of_not_mem hdot]
      exact (V6Text.writeV6 h.1 h.2).readV6

end SessionKeeper.Url
