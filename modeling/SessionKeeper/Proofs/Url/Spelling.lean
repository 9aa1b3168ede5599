import SessionKeeper.Proofs.Url.Address
import SessionKeeper.Proofs.Url.Join

/-!
# Spellings of hosts

How a name or an address may be spelled in a URL, apart from how it is read: numbers in three bases,
one to four of them, letters in either case, and any of the characters percent-encoded. Every
spelling is read as the host that it is a spelling of, whatever stands around it in the URL.
-/

namespace SessionKeeper

/-- The bytes of a text are decoded as the text. -/
theorem Text.decode_flatMap (cs : List Char) :
    decode ⟨(cs.flatMap String.utf8EncodeChar).toArray⟩ = some (String.ofList cs) := by
  have hbytes : (⟨(cs.flatMap String.utf8EncodeChar).toArray⟩ : ByteArray) =
      (String.ofList cs).toByteArray := by
    rw [String.toByteArray_ofList, List.utf8Encode]
    ext1
    simp
  have hvalid : (String.ofList cs).toByteArray.IsValidUTF8 := (String.ofList cs).isValidUTF8
  rw [hbytes, decode, String.fromUTF8?, dif_pos hvalid]
  rfl

namespace Url

variable {c : Char} {n : Nat} {name cs ds : List Char}

/-! ## Plain names -/

/-- A character that a name in ASCII may have, whatever its place. -/
def IsPlainChar (c : Char) : Prop :=
  c.toNat < 0x80 ∧ isForbidden c.toLower = false ∧ c ≠ '-'

instance instDecidableIsPlainChar (c : Char) : Decidable (IsPlainChar c) :=
  inferInstanceAs (Decidable (_ ∧ _ ∧ _))

/-- Characters that are forbidden are not plain. -/
theorem IsPlainChar.ne (h : IsPlainChar c) {x : Char} (hx : isForbidden x.toLower = true) :
    c ≠ x := by
  rintro rfl
  rw [h.2.1] at hx
  cases hx

theorem toNat_toLower (hc : c.toNat < 0x80) : c.toLower.toNat < 0x80 := by
  have hall : ∀ n < 0x80, (Char.ofNat n).toLower.toNat < 0x80 := by decide
  simpa using hall c.toNat hc

theorem toLower_ne_hyphen (hascii : c.toNat < 0x80) (hc : c ≠ '-') : c.toLower ≠ '-' := by
  have hall : ∀ n < 0x80, Char.ofNat n ≠ '-' → (Char.ofNat n).toLower ≠ '-' := by decide
  simpa [hc] using hall c.toNat hascii

theorem toLower_of_not_isUpper (h : c.isUpper = false) : c.toLower = c := by
  have hrange : ¬('A'.val ≤ c.val ∧ c.val ≤ 'Z'.val) := by
    delta Char.isUpper at h
    simpa using h
  exact dif_neg hrange

theorem mapText_of_ascii (h : ∀ c ∈ name, c.toNat < 0x80) :
    mapText name = some (name.map Char.toLower) := by
  have hmap : name.mapM mapChar = some (name.map fun c => [c.toLower]) := by
    rw [mapM_eq_some_iff, List.forall₂_map_right_iff, List.forall₂_same]
    exact fun c hc => if_pos (h c hc)
  rw [mapText, hmap, Option.map_some, ← List.flatMap_def, ← List.map_eq_flatMap]

theorem joinLabels_splitOn (cs : List Char) : joinLabels (splitOn '.' cs) = cs := by
  induction cs with
  | nil => rfl
  | cons c cs ih =>
      obtain ⟨first, rest, hsplit⟩ := List.exists_cons_of_ne_nil (splitOn_ne_nil '.' cs)
      rw [hsplit] at ih
      by_cases hc : c = '.'
      · subst hc
        rw [splitOn_cons_self, hsplit, joinLabels, ih]
        · rfl
        · simp
      · rw [splitOn_cons_of_ne hc hsplit]
        cases rest with
        | nil => exact congrArg (c :: ·) ih
        | cons second rest =>
            rw [joinLabels] at ih ⊢
            · rw [List.cons_append, ih]
            · simp
            · simp

theorem areJoinersIn_of_ascii (before : List Char) (h : ∀ c ∈ cs, c.toNat < 0x80) :
    areJoinersIn before cs = true := by
  induction cs generalizing before with
  | nil => rfl
  | cons c cs ih =>
      obtain ⟨hc, hcs⟩ := List.forall_mem_cons.mp h
      have hjoiner : c ≠ joiner := by
        rintro rfl
        exact absurd hc (by decide)
      have hnonJoiner : c ≠ nonJoiner := by
        rintro rfl
        exact absurd hc (by decide)
      rw [areJoinersIn, if_neg hjoiner, if_neg hnonJoiner, ih _ hcs]
      rfl

/-- A label in ASCII stands for itself. -/
theorem Label.read_of_ascii (h : ∀ c ∈ cs, c.toNat < 0x80) (hhyphen : '-' ∉ cs) :
    Label.read cs = some ⟨cs, cs⟩ := by
  have hlead : cs.take 4 ≠ punycodeLead := by
    intro htake
    have hmem : '-' ∈ cs.take 4 := by
      rw [htake]
      decide
    exact hhyphen (List.mem_of_mem_take hmem)
  have hall : cs.all isAscii = true :=
    List.all_eq_true.mpr fun c hc => decide_eq_true (h c hc)
  rw [Label.read, if_neg hlead, if_pos hall]

theorem Label.isValid_of_ascii (h : ∀ c ∈ cs, c.toNat < 0x80) :
    Label.isValid ⟨cs, cs⟩ = true := by
  have hmark : cs.head?.any Text.isMark = false := by
    cases cs with
    | nil => rfl
    | cons c cs =>
        have hc := h c List.mem_cons_self
        simp only [List.head?_cons, Option.any_some, Text.isMark, Bool.and_eq_false_iff,
          decide_eq_false_iff_not]
        omega
  rw [isValid, hmark, areJoinersIn_of_ascii [] h]
  rfl

/-- The labels of a name in ASCII without hyphens are its pieces in lower case. -/
theorem readLabels_of_ascii (h : ∀ c ∈ name, c.toNat < 0x80)
    (hlowered : ∀ c ∈ name.map Char.toLower, c.toNat < 0x80 ∧ c ≠ '-') :
    readLabels name =
      some ((splitOn '.' (name.map Char.toLower)).map fun piece => Label.mk piece piece) := by
  generalize hlower : name.map Char.toLower = lowered at hlowered
  have hpieces : ∀ piece ∈ splitOn '.' lowered, (∀ c ∈ piece, c.toNat < 0x80) ∧ '-' ∉ piece := by
    intro piece hpiece
    refine ⟨fun c hc => (hlowered c (mem_of_mem_splitOn hpiece hc)).1, fun hmem => ?_⟩
    exact (hlowered _ (mem_of_mem_splitOn hpiece hmem)).2 rfl
  have hcomposed : Text.compose lowered = lowered :=
    if_pos (List.all_eq_true.mpr fun c hc => decide_eq_true (hlowered c hc).1)
  let labels := (splitOn '.' lowered).map fun piece => Label.mk piece piece
  have hread : (splitOn '.' lowered).mapM Label.read = some labels := by
    rw [mapM_eq_some_iff, List.forall₂_map_right_iff, List.forall₂_same]
    exact fun piece hpiece => Label.read_of_ascii (hpieces piece hpiece).1 (hpieces piece hpiece).2
  have hvalid : labels.all Label.isValid = true := by
    rw [List.all_map, List.all_eq_true]
    exact fun piece hpiece => Label.isValid_of_ascii (hpieces piece hpiece).1
  have hordered : areOrdered labels = true := by
    have hascii : labels.all (fun l => l.meant.all isAscii) = true := by
      rw [List.all_map, List.all_eq_true]
      intro piece hpiece
      exact List.all_eq_true.mpr fun c hc => decide_eq_true ((hpieces piece hpiece).1 c hc)
    rw [areOrdered, hascii, Bool.true_or, Bool.true_or]
  rw [readLabels, mapText_of_ascii h, hlower]
  dsimp only
  rw [hcomposed, hread]
  dsimp only
  rw [hvalid, hordered]
  rfl

/-- The ASCII form of a plain name is the name in lower case. -/
theorem domainToAscii_of_plain (h : ∀ c ∈ name, IsPlainChar c) :
    domainToAscii name = some (name.map Char.toLower) := by
  have hlowered : ∀ c ∈ name.map Char.toLower,
      (c.toNat < 0x80 ∧ c ≠ '-') ∧ isForbidden c = false := by
    intro c hc
    obtain ⟨d, hd, rfl⟩ := List.mem_map.mp hc
    obtain ⟨hascii, hallowed, hhyphen⟩ := h d hd
    exact ⟨⟨toNat_toLower hascii, toLower_ne_hyphen hascii hhyphen⟩, hallowed⟩
  have hallowed : ¬(name.map Char.toLower).any isForbidden = true := by
    rw [List.any_eq_true]
    rintro ⟨c, hc, hforbidden⟩
    rw [(hlowered c hc).2] at hforbidden
    cases hforbidden
  rw [domainToAscii, readLabels_of_ascii (fun c hc => (h c hc).1) fun c hc => (hlowered c hc).1]
  dsimp only
  rw [List.map_map, Function.comp_def, List.map_id', joinLabels_splitOn, if_neg hallowed]

/-! ## Percent-encoded names -/

/-- A text with any of its characters, all of which are ASCII, percent-encoded. -/
inductive EscapedText : List Char → List Char → Prop
  | nil : EscapedText [] []
  | plain {c : Char} {name cs : List Char} (hc : c ≠ '%') (hascii : c.toNat < 0x80)
      (h : EscapedText name cs) : EscapedText (c :: name) (c :: cs)
  | escaped {c a b : Char} {m n : Nat} {name cs : List Char} (ha : IsDigitOf 16 m a)
      (hb : IsDigitOf 16 n b) (hc : c.toNat = m * 16 + n) (hascii : c.toNat < 0x80)
      (h : EscapedText name cs) : EscapedText (c :: name) ('%' :: a :: b :: cs)

theorem IsDigitOf.hexDigit? {d : Nat} (h : IsDigitOf 16 d c) : hexDigit? c = some d := by
  have hdigit := h.digitIn? (Nat.le_refl 16)
  rw [Url.digitIn?, Option.filter_eq_some_iff] at hdigit
  exact hdigit.1

theorem IsDigitOf.isPlainChar {d : Nat} (h : IsDigitOf 16 d c) : IsPlainChar c := by
  have hall : ∀ d < 16, IsPlainChar d.digitChar ∧ IsPlainChar d.digitChar.toUpper := by decide
  obtain ⟨hlower, hupper⟩ := hall d h.1
  rcases h.2 with rfl | rfl
  · exact hlower
  · exact hupper

/-- The character of the byte of an ASCII character. -/
theorem ofNat_toNat_ofNat (hc : c.toNat < 0x80) : Char.ofNat (UInt8.ofNat c.toNat).toNat = c := by
  rw [UInt8.toNat_ofNat', Nat.mod_eq_of_lt (by omega), Char.ofNat_toNat]

theorem decodeBytes_cons {a : UInt8} (ha : a ≠ 0x25) (rest : List UInt8) :
    decodeBytes (a :: rest) = a :: decodeBytes rest := by
  match rest with
  | [] => rfl
  | [b] => rfl
  | b :: d :: rest => exact if_neg ha

/-- Percent-decoding gives back the text. -/
theorem EscapedText.decodePercent (h : EscapedText name cs) :
    decodePercent cs = name.flatMap String.utf8EncodeChar := by
  induction h with
  | nil => rfl
  | @plain c name cs hc hascii h ih =>
      have hbyte : UInt8.ofNat c.toNat ≠ 0x25 := by
        intro heq
        have hchar := ofNat_toNat_ofNat hascii
        rw [heq] at hchar
        exact hc hchar.symm
      rw [Url.decodePercent] at ih ⊢
      rw [List.flatMap_cons, List.flatMap_cons, Text.utf8EncodeChar_of_ascii hascii,
        List.singleton_append, decodeBytes_cons hbyte, ih]
      rfl
  | @escaped c a b m n name cs ha hb hc hascii h ih =>
      have hfirst := ha.isPlainChar.1
      have hsecond := hb.isPlainChar.1
      rw [Url.decodePercent] at ih ⊢
      simp only [List.flatMap_cons, Text.utf8EncodeChar_of_ascii hascii,
        Text.utf8EncodeChar_of_ascii hfirst, Text.utf8EncodeChar_of_ascii hsecond,
        Text.utf8EncodeChar_of_ascii (c := '%') (by decide), List.singleton_append]
      have hpercent : UInt8.ofNat '%'.toNat = 0x25 := by decide
      rw [decodeBytes, if_pos hpercent, ofNat_toNat_ofNat hfirst, ofNat_toNat_ofNat hsecond,
        ha.hexDigit?, hb.hexDigit?, ih, hc]

/-- A plain name is a domain if it does not end in a number, percent-encoded or not. -/
theorem readName_of_domain (h : EscapedText name cs) (hplain : ∀ c ∈ name, IsPlainChar c)
    (hne : name ≠ []) (hdomain : endsInNumber (name.map Char.toLower) = false) :
    readName cs = .ok (.domain (name.map Char.toLower)) := by
  rw [readName, h.decodePercent, Text.decode_flatMap]
  dsimp only
  rw [String.toList_ofList, domainToAscii_of_plain hplain]
  dsimp only
  rw [if_neg (mt List.map_eq_nil_iff.mp hne), hdomain]
  rfl

/-- A plain name that ends in a number is an address, percent-encoded or not. -/
theorem readName_of_address (h : EscapedText name cs) (hplain : ∀ c ∈ name, IsPlainChar c)
    (hne : name ≠ []) (hnumber : endsInNumber (name.map Char.toLower) = true) {a : Address}
    (ha : readV4Lenient (name.map Char.toLower) = some a) : readName cs = .ok (.address a) := by
  rw [readName, h.decodePercent, Text.decode_flatMap]
  dsimp only
  rw [String.toList_ofList, domainToAscii_of_plain hplain]
  dsimp only
  rw [if_neg (mt List.map_eq_nil_iff.mp hne), if_pos hnumber, ha]

/-! ## Version 4 addresses in URLs -/

/-- A number of an address: hexadecimal behind `0x`, octal behind `0`, decimal otherwise. -/
inductive PartText : Nat → List Char → Prop
  | hexadecimal {n : Nat} {x : Char} {cs : List Char} (hx : x = 'x' ∨ x = 'X')
      (h : Numeral 16 n cs) : PartText n ('0' :: x :: cs)
  | octal {n : Nat} {cs : List Char} (hne : cs ≠ []) (h : Numeral 8 n cs) : PartText n ('0' :: cs)
  | decimal {n : Nat} {cs : List Char} (hne : cs ≠ []) (hhead : cs.head? ≠ some '0')
      (h : Numeral 10 n cs) : PartText n cs
  | zero : PartText 0 ['0']

/-- Numbers with dots between them. -/
inductive PartsText : List Nat → List Char → Prop
  | one {n : Nat} {cs : List Char} (h : PartText n cs) : PartsText [n] cs
  | cons {n : Nat} {ns : List Nat} {cs ds : List Char} (h : PartText n cs)
      (hrest : PartsText ns ds) : PartsText (n :: ns) (cs ++ '.' :: ds)

/-- The address that one to four numbers stand for. All but the last are its first bytes, and the
last is what follows them. -/
inductive StandFor : List Nat → Nat → Prop
  | one {d : Nat} (hd : d < 256 ^ 4) : StandFor [d] d
  | two {a d : Nat} (ha : a < 256) (hd : d < 256 ^ 3) : StandFor [a, d] (a * 256 ^ 3 + d)
  | three {a b d : Nat} (ha : a < 256) (hb : b < 256) (hd : d < 256 ^ 2) :
      StandFor [a, b, d] (a * 256 ^ 3 + b * 256 ^ 2 + d)
  | four {a b c d : Nat} (ha : a < 256) (hb : b < 256) (hc : c < 256) (hd : d < 256) :
      StandFor [a, b, c, d] (a * 256 ^ 3 + b * 256 ^ 2 + c * 256 + d)

/-- A spelling of a version 4 address. A dot may stand at its end. -/
inductive V4Text : Nat → List Char → Prop
  | parts {numbers : List Nat} {n : Nat} {cs : List Char} (h : PartsText numbers cs)
      (hn : StandFor numbers n) : V4Text n cs
  | dotted {numbers : List Nat} {n : Nat} {cs : List Char} (h : PartsText numbers cs)
      (hn : StandFor numbers n) : V4Text n (cs ++ ['.'])

theorem IsDigitOf.toLower {base d : Nat} (h : IsDigitOf base d c) (hbase : base ≤ 16) :
    IsDigitOf base d c.toLower := by
  have hall : ∀ d < 16, d.digitChar.toLower = d.digitChar ∧
      d.digitChar.toUpper.toLower = d.digitChar := by decide
  obtain ⟨hlower, hupper⟩ := hall d (Nat.lt_of_lt_of_le h.1 hbase)
  rcases h.2 with rfl | rfl
  · exact ⟨h.1, .inl hlower⟩
  · exact ⟨h.1, .inl hupper⟩

theorem Numeral.isPlainChar {base : Nat} (h : Numeral base n cs) (hbase : base ≤ 16)
    (hc : c ∈ cs) : IsPlainChar c := by
  obtain ⟨d, hd⟩ := h.isDigitOf hc
  have hd' : IsDigitOf 16 d c := ⟨Nat.lt_of_lt_of_le hd.1 hbase, hd.2⟩
  exact hd'.isPlainChar

theorem Numeral.toLower {base : Nat} (h : Numeral base n cs) (hbase : base ≤ 16) :
    Numeral base n (cs.map Char.toLower) := by
  induction h with
  | nil => exact .nil
  | snoc _ hc ih =>
      rw [List.map_append]
      exact ih.snoc (hc.toLower hbase)

theorem Numeral.toLower_of_ten (h : Numeral 10 n cs) : cs.map Char.toLower = cs := by
  have hall : ∀ d < 10, d.digitChar.toLower = d.digitChar ∧
      d.digitChar.toUpper.toLower = d.digitChar.toUpper := by decide
  refine (List.map_congr_left fun c hc => ?_).trans (List.map_id cs)
  obtain ⟨d, hlt, hchar⟩ := h.isDigitOf hc
  obtain ⟨hlower, hupper⟩ := hall d hlt
  rcases hchar with rfl | rfl
  · exact hlower
  · exact hupper

namespace PartText

theorem toLower (h : PartText n cs) : PartText n (cs.map Char.toLower) := by
  cases h with
  | hexadecimal hx h =>
      rcases hx with rfl | rfl
      · exact .hexadecimal (.inl rfl) (h.toLower (by decide))
      · exact .hexadecimal (.inl rfl) (h.toLower (by decide))
  | octal hne h => exact .octal (mt List.map_eq_nil_iff.mp hne) (h.toLower (by decide))
  | decimal hne hhead h =>
      rw [h.toLower_of_ten]
      exact .decimal hne hhead h
  | zero => exact .zero

theorem ne_nil (h : PartText n cs) : cs ≠ [] := by
  cases h with
  | decimal hne => exact hne
  | _ => exact List.cons_ne_nil _ _

/-- A number is read as what it denotes. -/
theorem readPart (h : PartText n cs) : readPart cs = some n := by
  cases h with
  | hexadecimal hx h =>
      rcases hx with rfl | rfl
      · exact h.readIn (by decide)
      · exact h.readIn (by decide)
  | @octal n cs hne h =>
      obtain ⟨c, cs, rfl⟩ := List.exists_cons_of_ne_nil hne
      have hx : c ≠ 'x' := by
        rintro rfl
        exact h.not_mem (by decide) (by decide) List.mem_cons_self
      have hX : c ≠ 'X' := by
        rintro rfl
        exact h.not_mem (by decide) (by decide) List.mem_cons_self
      rw [Url.readPart]
      · exact h.readIn (by decide)
      · exact hx
      · exact hX
  | @decimal n cs hne hhead h =>
      obtain ⟨c, cs, rfl⟩ := List.exists_cons_of_ne_nil hne
      have hzero : c ≠ '0' := by simpa using hhead
      rw [Url.readPart]
      · exact h.readIn (by decide)
      · nofun
      · intro rest heq
        exact hzero (List.cons.inj heq).1
      · intro rest heq
        exact hzero (List.cons.inj heq).1
      · intro d rest heq
        exact hzero (List.cons.inj heq).1
  | zero => rfl

theorem isPlainChar (h : PartText n cs) (hc : c ∈ cs) : IsPlainChar c := by
  have hzero : IsPlainChar '0' := by decide
  cases h with
  | @hexadecimal n x cs hx h =>
      rcases List.mem_cons.mp hc with rfl | hc
      · exact hzero
      · rcases List.mem_cons.mp hc with rfl | hc
        · rcases hx with rfl | rfl
          · decide
          · decide
        · exact h.isPlainChar (by decide) hc
  | octal _ h =>
      rcases List.mem_cons.mp hc with rfl | hc
      · exact hzero
      · exact h.isPlainChar (by decide) hc
  | decimal _ _ h => exact h.isPlainChar (by decide) hc
  | zero => exact List.mem_singleton.mp hc ▸ hzero

theorem dot_not_mem (h : PartText n cs) : '.' ∉ cs := by
  have hdot : digitIn? 16 '.' = none := by decide
  cases h with
  | hexadecimal hx h =>
      have hdigits := h.not_mem (by decide) hdot
      rcases hx with rfl | rfl
      · simpa using hdigits
      · simpa using hdigits
  | octal _ h => simpa using h.not_mem (by decide) hdot
  | decimal _ _ h => exact h.not_mem (by decide) hdot
  | zero => decide

end PartText

namespace PartsText

variable {numbers : List Nat}

theorem toLower (h : PartsText numbers cs) : PartsText numbers (cs.map Char.toLower) := by
  induction h with
  | one h => exact .one h.toLower
  | cons h _ ih =>
      rw [List.map_append]
      exact .cons h.toLower ih

theorem isPlainChar (h : PartsText numbers cs) (hc : c ∈ cs) : IsPlainChar c := by
  induction h with
  | one h => exact h.isPlainChar hc
  | cons h _ ih =>
      rcases List.mem_append.mp hc with hc | hc
      · exact h.isPlainChar hc
      · rcases List.mem_cons.mp hc with rfl | hc
        · decide
        · exact ih hc

theorem ne_nil (h : PartsText numbers cs) : cs ≠ [] := by
  cases h with
  | one h => exact h.ne_nil
  | cons h => exact List.append_ne_nil_of_left_ne_nil h.ne_nil _

/-- The pieces between the dots are read as the numbers. -/
theorem mapM_readPart (h : PartsText numbers cs) :
    (splitOn '.' cs).mapM readPart = some numbers := by
  induction h with
  | one h => simp [splitOn_of_not_mem h.dot_not_mem, h.readPart]
  | cons h _ ih => simp [splitOn_append h.dot_not_mem, h.readPart, ih]

/-- The last piece is a number. -/
theorem exists_getLast? (h : PartsText numbers cs) :
    ∃ last n, (splitOn '.' cs).getLast? = some last ∧ PartText n last := by
  induction h with
  | one h => exact ⟨_, _, by rw [splitOn_of_not_mem h.dot_not_mem]; rfl, h⟩
  | cons h _ ih =>
      obtain ⟨last, n, hlast, hn⟩ := ih
      refine ⟨last, n, ?_, hn⟩
      rw [splitOn_append h.dot_not_mem, List.getLast?_cons, hlast]
      rfl

end PartsText

/-- A first byte stands before what the numbers behind it stand for. -/
theorem combine_cons {first position m : Nat} {rest : List Nat} (hfirst : first < 256)
    (hposition : position < 3) (hrest : rest ≠ []) (h : combine (position + 1) rest = some m) :
    combine position (first :: rest) = some (first * 256 ^ (3 - position) + m) := by
  rw [combine]
  · rw [if_pos ⟨Nat.le_of_lt_succ hfirst, hposition⟩, h]
    rfl
  · exact fun hnil => hrest hnil

/-- Numbers are combined to the address that they stand for. -/
theorem StandFor.combine {numbers : List Nat} (h : StandFor numbers n) :
    combine 0 numbers = some n := by
  cases h with
  | one hd => exact if_pos hd
  | two ha hd => exact combine_cons ha (by decide) nofun (if_pos hd)
  | three ha hb hd =>
      rw [Nat.add_assoc]
      exact combine_cons ha (by decide) nofun (combine_cons hb (by decide) nofun (if_pos hd))
  | four ha hb hc hd =>
      rw [Nat.add_assoc, Nat.add_assoc]
      refine combine_cons ha (by decide) nofun (combine_cons hb (by decide) nofun ?_)
      exact combine_cons hc (by decide) nofun (if_pos hd)

namespace V4Text

theorem toLower (h : V4Text n cs) : V4Text n (cs.map Char.toLower) := by
  cases h with
  | parts h hn => exact .parts h.toLower hn
  | dotted h hn =>
      rw [List.map_append]
      exact .dotted h.toLower hn

theorem isPlainChar (h : V4Text n cs) (hc : c ∈ cs) : IsPlainChar c := by
  cases h with
  | parts h => exact h.isPlainChar hc
  | dotted h =>
      rcases List.mem_append.mp hc with hc | hc
      · exact h.isPlainChar hc
      · rw [List.mem_singleton.mp hc]
        decide

theorem ne_nil (h : V4Text n cs) : cs ≠ [] := by
  cases h with
  | parts h => exact h.ne_nil
  | dotted h => exact List.append_ne_nil_of_left_ne_nil h.ne_nil _

/-- The numbers stand between the dots; a dot at the end makes no difference. -/
theorem mapM_readPart (h : V4Text n cs) :
    ∃ numbers, StandFor numbers n ∧ (dottedParts cs).mapM readPart = some numbers := by
  cases h with
  | parts h hn =>
      obtain ⟨last, m, hlast, hm⟩ := h.exists_getLast?
      have hfull : some last ≠ some [] := fun heq => hm.ne_nil (Option.some.inj heq)
      refine ⟨_, hn, ?_⟩
      rw [dottedParts, hlast, if_neg hfull, h.mapM_readPart]
  | dotted h hn =>
      refine ⟨_, hn, ?_⟩
      rw [dottedParts, splitOn_concat, List.getLast?_concat, if_pos rfl, List.dropLast_concat,
        h.mapM_readPart]

theorem endsInNumber (h : V4Text n cs) : endsInNumber cs = true := by
  have hpart {m : Nat} {last : List Char} (hm : PartText m last) :
      (last != [] && last.all Char.isDigit || (readPart last).isSome) = true := by
    rw [hm.readPart]
    exact Bool.or_true _
  cases h with
  | parts h =>
      obtain ⟨last, m, hlast, hm⟩ := h.exists_getLast?
      have hfull : some last ≠ some [] := fun heq => hm.ne_nil (Option.some.inj heq)
      rw [Url.endsInNumber, hlast, if_neg hfull]
      exact hpart hm
  | dotted h =>
      obtain ⟨last, m, hlast, hm⟩ := h.exists_getLast?
      rw [Url.endsInNumber, splitOn_concat, List.getLast?_concat, if_pos rfl,
        List.dropLast_concat, hlast]
      exact hpart hm

/-- Every spelling of a version 4 address is read as the address. -/
theorem readV4Lenient (h : V4Text n cs) : readV4Lenient cs = some (.v4 n) := by
  obtain ⟨numbers, hn, hnumbers⟩ := h.mapM_readPart
  rw [Url.readV4Lenient, hnumbers]
  dsimp only
  rw [hn.combine]
  rfl

end V4Text

/-! ## Hosts -/

/-- A spelling of a host in a URL: the name `localhost` in letters of either case or a version 4
address, of which any character may be percent-encoded, or a version 6 address in brackets. -/
inductive Spells : Host → List Char → Prop
  | localhost {name cs : List Char} (hname : name.map Char.toLower = "localhost".toList)
      (h : EscapedText name cs) : Spells (.domain "localhost".toList) cs
  | v4 {n : Nat} {name cs : List Char} (hname : V4Text n name) (h : EscapedText name cs) :
      Spells (.address (.v4 n)) cs
  | v6 {groups : List Nat} {cs : List Char} (h : V6Text groups cs) :
      Spells (.address (.v6 groups)) ('[' :: cs ++ [']'])

theorem EscapedText.ascii (h : EscapedText name cs) : ∀ c ∈ name, c.toNat < 0x80 := by
  induction h with
  | nil => exact List.forall_mem_nil _
  | plain _ hascii _ ih => exact List.forall_mem_cons.mpr ⟨hascii, ih⟩
  | escaped _ _ _ hascii _ ih => exact List.forall_mem_cons.mpr ⟨hascii, ih⟩

/-- The letters of `localhost` are plain in either case. -/
theorem isPlainChar_of_localhost (hname : name.map Char.toLower = "localhost".toList)
    (hascii : ∀ c ∈ name, c.toNat < 0x80) (hc : c ∈ name) : IsPlainChar c := by
  have hall : "localhost".toList.all (fun d => !isForbidden d && d != '-') = true := by
    decide +kernel
  have hletter := List.all_eq_true.mp hall c.toLower (hname ▸ List.mem_map_of_mem hc)
  simp only [Bool.and_eq_true, Bool.not_eq_true', bne_iff_ne] at hletter
  obtain ⟨hallowed, hhyphen⟩ := hletter
  refine ⟨hascii c hc, hallowed, ?_⟩
  rintro rfl
  exact hhyphen rfl

/-- A plain character that may be percent-encoded. -/
theorem EscapedText.isPlainChar (h : EscapedText name cs) (hplain : ∀ c ∈ name, IsPlainChar c)
    (hc : c ∈ cs) : c = '%' ∨ IsPlainChar c := by
  induction h with
  | nil => cases hc
  | plain _ _ _ ih =>
      obtain ⟨hfirst, hrest⟩ := List.forall_mem_cons.mp hplain
      rcases List.mem_cons.mp hc with rfl | hc
      · exact .inr hfirst
      · exact ih hrest hc
  | escaped ha hb _ _ _ ih =>
      obtain ⟨-, hrest⟩ := List.forall_mem_cons.mp hplain
      rcases List.mem_cons.mp hc with rfl | hc
      · exact .inl rfl
      · rcases List.mem_cons.mp hc with rfl | hc
        · exact .inr ha.isPlainChar
        · rcases List.mem_cons.mp hc with rfl | hc
          · exact .inr hb.isPlainChar
          · exact ih hrest hc

theorem EscapedText.ne_nil (h : EscapedText name cs) (hne : name ≠ []) : cs ≠ [] := by
  cases h with
  | nil => exact absurd rfl hne
  | _ => exact List.cons_ne_nil _ _

theorem EscapedText.not_mem (h : EscapedText name cs) (hplain : ∀ c ∈ name, IsPlainChar c)
    {x : Char} (hx : isForbidden x.toLower = true) (hpercent : x ≠ '%') : x ∉ cs := by
  intro hmem
  rcases h.isPlainChar hplain hmem with heq | hchar
  · exact hpercent heq
  · exact hchar.ne hx rfl

theorem readHost_of_not_mem (hne : cs ≠ []) (hbracket : '[' ∉ cs) : readHost cs = readName cs := by
  rw [readHost]
  · exact hne
  · rintro rest rfl
    exact hbracket List.mem_cons_self

/-- Every spelling of a host is read as the host. -/
theorem Spells.readHost {host : Host} (h : Spells host cs) : readHost cs = .ok host := by
  cases h with
  | @localhost name cs hname h =>
      have hplain : ∀ c ∈ name, IsPlainChar c := fun c hc =>
        isPlainChar_of_localhost hname h.ascii hc
      have hne : name ≠ [] := by
        rintro rfl
        exact absurd hname (by decide +kernel)
      have hdomain : endsInNumber (name.map Char.toLower) = false := by
        rw [hname]
        decide +kernel
      rw [readHost_of_not_mem (h.ne_nil hne) (h.not_mem hplain (by decide) (by decide)),
        readName_of_domain h hplain hne hdomain, hname]
  | v4 hname h =>
      have hplain : ∀ c ∈ _, IsPlainChar c := fun c hc => hname.isPlainChar hc
      rw [readHost_of_not_mem (h.ne_nil hname.ne_nil) (h.not_mem hplain (by decide) (by decide))]
      exact readName_of_address h hplain hname.ne_nil hname.toLower.endsInNumber
        hname.toLower.readV4Lenient
  | v6 h =>
      rw [List.cons_append, Url.readHost, readBracketed, List.getLast?_concat,
        List.dropLast_concat, h.readV6]
      rfl

/-! ## URLs -/

/-- A character that the text of a server may have inside a URL. -/
def IsServerChar (c : Char) : Prop :=
  isMargin c = false ∧ endsAuthority c = false ∧ c ≠ '@'

instance instDecidableIsServerChar (c : Char) : Decidable (IsServerChar c) :=
  inferInstanceAs (Decidable (_ ∧ _ ∧ _))

theorem isIgnored_of_not_isMargin (h : isMargin c = false) : isIgnored c = false := by
  rw [Bool.eq_false_iff]
  intro hignored
  simp only [isIgnored, Bool.or_eq_true, beq_iff_eq] at hignored
  rcases hignored with (rfl | rfl) | rfl <;> cases h

theorem IsPlainChar.isServerChar (h : IsPlainChar c) : IsServerChar c := by
  refine ⟨?_, ?_, h.ne (by decide)⟩
  · rw [Bool.eq_false_iff]
    intro hmargin
    refine forall_isMargin (P := fun c => IsPlainChar c → False) ?_ hmargin h
    decide
  · simp only [endsAuthority, isSlash, Bool.or_eq_false_iff, beq_eq_false_iff_ne]
    exact ⟨⟨⟨h.ne (by decide), h.ne (by decide)⟩, h.ne (by decide)⟩, h.ne (by decide)⟩

theorem isPlainChar_of_mem_writeV4 (hc : c ∈ writeV4 n) : IsPlainChar c := by
  have hdigits {m : Nat} (hmem : c ∈ Nat.toDigits 10 m) : IsPlainChar c :=
    (numeral_toDigits (by decide) m).isPlainChar (by decide) hmem
  have hdot : IsPlainChar '.' := by decide
  simp only [writeV4, List.mem_append, List.mem_cons] at hc
  rcases hc with ((hc | rfl | hc) | rfl | hc) | rfl | hc
  · exact hdigits hc
  · exact hdot
  · exact hdigits hc
  · exact hdot
  · exact hdigits hc
  · exact hdot
  · exact hdigits hc

theorem GroupsText.isPlainChar_or {final : Bool} {groups : List Nat}
    (h : GroupsText final groups cs) (hc : c ∈ cs) : IsPlainChar c ∨ c = ':' := by
  induction h with
  | group h => exact .inl (h.digits.isPlainChar (by decide) hc)
  | bytes => exact .inl (isPlainChar_of_mem_writeV4 hc)
  | cons h _ ih =>
      rcases List.mem_append.mp hc with hc | hc
      · exact .inl (h.digits.isPlainChar (by decide) hc)
      · rcases List.mem_cons.mp hc with hc | hc
        · exact .inr hc
        · exact ih hc

theorem SideText.isPlainChar_or {final : Bool} {groups : List Nat}
    (h : SideText final groups cs) (hc : c ∈ cs) : IsPlainChar c ∨ c = ':' := by
  cases h with
  | none => cases hc
  | some h => exact h.isPlainChar_or hc

theorem V6Text.isPlainChar_or {groups : List Nat} (h : V6Text groups cs) (hc : c ∈ cs) :
    IsPlainChar c ∨ c = ':' := by
  cases h with
  | whole h => exact h.isPlainChar_or hc
  | compressed hfront hback =>
      rcases List.mem_append.mp hc with hc | hc
      · exact hfront.isPlainChar_or hc
      · rcases List.mem_cons.mp hc with hc | hc
        · exact .inr hc
        · rcases List.mem_cons.mp hc with hc | hc
          · exact .inr hc
          · exact hback.isPlainChar_or hc

theorem Spells.isServerChar {host : Host} (h : Spells host cs) (hc : c ∈ cs) : IsServerChar c := by
  have hescaped {name cs : List Char} (h : EscapedText name cs)
      (hplain : ∀ c ∈ name, IsPlainChar c) (hc : c ∈ cs) : IsServerChar c := by
    rcases h.isPlainChar hplain hc with rfl | hchar
    · decide
    · exact hchar.isServerChar
  cases h with
  | localhost hname h => exact hescaped h (fun d hd => isPlainChar_of_localhost hname h.ascii hd) hc
  | v4 hname h => exact hescaped h (fun d hd => hname.isPlainChar hd) hc
  | v6 h =>
      rcases List.mem_append.mp hc with hc | hc
      · rcases List.mem_cons.mp hc with rfl | hc
        · decide
        · rcases h.isPlainChar_or hc with hchar | rfl
          · exact hchar.isServerChar
          · decide
      · rw [List.mem_singleton.mp hc]
        decide

theorem splitPort_of_not_mem (h : ':' ∉ cs) (inside : Bool) : splitPort inside cs = (cs, none) := by
  induction cs generalizing inside with
  | nil => rfl
  | cons c cs ih =>
      obtain ⟨hc, hcs⟩ := not_or.mp (mt List.mem_cons.mpr h)
      rw [splitPort, if_neg fun hcolon => hc hcolon.1.symm]
      dsimp only
      rw [ih hcs]

/-- Inside brackets no colon is in front of a port. -/
theorem splitPort_of_inside (h : ']' ∉ cs) :
    splitPort true (cs ++ [']']) = (cs ++ [']'], none) := by
  induction cs with
  | nil => rfl
  | cons c cs ih =>
      obtain ⟨hc, hcs⟩ := not_or.mp (mt List.mem_cons.mpr h)
      rw [List.cons_append, splitPort, if_neg (by simp)]
      dsimp only
      rw [if_neg (Ne.symm hc), ite_self, ih hcs]

theorem Spells.splitPort {host : Host} (h : Spells host cs) : splitPort false cs = (cs, none) := by
  cases h with
  | localhost hname h =>
      refine splitPort_of_not_mem (h.not_mem (fun d hd => ?_) (by decide) (by decide)) false
      exact isPlainChar_of_localhost hname h.ascii hd
  | v4 hname h =>
      refine splitPort_of_not_mem (h.not_mem (fun d hd => ?_) (by decide) (by decide)) false
      exact hname.isPlainChar hd
  | @v6 groups cs h =>
      have hbracket : ']' ∉ cs := by
        intro hmem
        rcases h.isPlainChar_or hmem with hchar | hcolon
        · exact hchar.ne (by decide) rfl
        · exact absurd hcolon (by decide)
      rw [List.cons_append, Url.splitPort, if_neg fun hcolon => absurd hcolon.1 (by decide)]
      dsimp only
      rw [if_pos rfl, splitPort_of_inside hbracket]

theorem splitUser_of_not_mem (h : '@' ∉ cs) : splitUser cs = (none, cs) := by
  have hdrop : cs.reverse.dropWhile (fun c => c != '@') = [] := by
    rw [List.dropWhile_eq_nil_iff]
    intro c hc
    rw [bne_iff_ne]
    rintro rfl
    exact h (List.mem_reverse.mp hc)
  rw [splitUser, hdrop]

/-- A server that is spelled without a user and a port. -/
theorem Spells.readAuthority {host : Host} (h : Spells host cs) (scheme : Scheme) :
    readAuthority scheme cs = .ok ⟨scheme, [], none, host, none⟩ := by
  have hat : '@' ∉ cs := fun hmem => (h.isServerChar hmem).2.2 rfl
  rw [Url.readAuthority, splitUser_of_not_mem hat]
  dsimp only
  rw [h.splitPort]
  dsimp only
  rw [h.readHost]
  rfl

theorem Spells.ne_nil {host : Host} (h : Spells host cs) : cs ≠ [] := by
  rintro rfl
  have hread := h.readHost
  cases hread

theorem not_isMargin_of_endsAuthority (h : endsAuthority c = true) : isMargin c = false := by
  simp only [endsAuthority, isSlash, Bool.or_eq_true, beq_iff_eq] at h
  rcases h with ((rfl | rfl) | rfl) | rfl <;> decide

theorem significantEnd_cons (hc : isMargin c = false) (cs : List Char) :
    significantEnd (c :: cs) = c :: significantEnd cs := by
  have hkept : (!isIgnored c) = true := by rw [isIgnored_of_not_isMargin hc]; rfl
  have htrim := trimEnd_append hc [] cs
  rw [List.nil_append, List.nil_append] at htrim
  rw [significantEnd, htrim, List.filter_cons_of_pos (p := fun c => !isIgnored c) hkept]
  rfl

/-- What ends a server counts, so a text that begins with it still does when its end is cut off. -/
theorem endsAuthority_of_significantEnd {tail : List Char}
    (htail : ∀ c ∈ tail.head?, endsAuthority c = true) :
    ∀ c ∈ (significantEnd tail).head?, endsAuthority c = true := by
  cases tail with
  | nil => exact htail
  | cons e tail =>
      rw [significantEnd_cons (not_isMargin_of_endsAuthority (htail e rfl))]
      exact htail

/-- What stands behind a text without blanks does not change what counts of it. -/
theorem significant_append {front : List Char} (hfront : ∀ c ∈ front, isMargin c = false)
    (hne : front ≠ []) (tail : List Char) :
    significant (front ++ tail) = front ++ significantEnd tail := by
  have hkept : front.filter (fun c => !isIgnored c) = front := by
    rw [List.filter_eq_self]
    intro c hc
    rw [isIgnored_of_not_isMargin (hfront c hc)]
    rfl
  have hstart : (front ++ tail).dropWhile isMargin = front ++ tail := by
    obtain ⟨first, rest, rfl⟩ := List.exists_cons_of_ne_nil hne
    rw [List.cons_append, List.dropWhile_cons_of_neg]
    rw [hfront first List.mem_cons_self]
    exact Bool.false_ne_true
  obtain ⟨before, last, rfl⟩ := (List.eq_nil_or_concat' front).resolve_left hne
  have hlast : isMargin last = false := hfront last (by simp)
  rw [significant, hstart, List.append_assoc, List.singleton_append, trimEnd_append hlast,
    ← List.singleton_append, ← List.append_assoc, List.filter_append, hkept]
  rfl

/-- The text of a URL, of a scheme, a server and what follows it. -/
def urlText (scheme : Scheme) (server tail : List Char) : String :=
  String.ofList (scheme.name ++ ':' :: '/' :: '/' :: (server ++ tail))

theorem splitScheme_name (scheme : Scheme) (rest : List Char) :
    splitScheme (scheme.name ++ ':' :: rest) = some (scheme.name, rest) := by
  cases scheme <;> rfl

theorem parse_of_splitScheme {text : String} {scheme : Scheme} {rest : List Char}
    (h : splitScheme (significant text.toList) = some (scheme.name, rest)) :
    parse text = readHttp scheme rest := by
  rw [parse, h]
  dsimp only
  cases scheme with
  | http => exact if_pos rfl
  | https =>
      have hother : Scheme.https.name ≠ Scheme.http.name := by decide +kernel
      rw [if_neg hother, if_pos rfl]

theorem exists_of_readAuthority {scheme : Scheme} {rest : List Char} {a : Authority}
    (h : readAuthority scheme (authorityText rest) = .ok a) :
    ∃ url, readHttp scheme rest = .ok url ∧ url.authority = a := by
  rw [authorityText] at h
  rw [readHttp]
  dsimp only
  rw [h]
  exact ⟨_, rfl, rfl⟩

/-- Between the slashes and what ends a server stands its text. -/
theorem authorityText_server {server tail : List Char} (hne : server ≠ [])
    (hserver : ∀ c ∈ server, endsAuthority c = false)
    (htail : ∀ c ∈ tail.head?, endsAuthority c = true) :
    authorityText ('/' :: '/' :: (server ++ tail)) = server := by
  have hkept : ∀ c ∈ server, (!endsAuthority c) = true := by
    intro c hc
    rw [hserver c hc]
    rfl
  have hstop : tail.takeWhile (fun c => !endsAuthority c) = [] := by
    cases tail with
    | nil => rfl
    | cons e tail => exact List.takeWhile_cons_of_neg (by simp [htail e rfl])
  obtain ⟨first, rest, rfl⟩ := List.exists_cons_of_ne_nil hne
  have hfirst : ¬isSlash first = true := by
    intro hslash
    have hends := hserver first List.mem_cons_self
    rw [endsAuthority, hslash] at hends
    cases hends
  rw [authorityText, List.dropWhile_cons_of_pos (by decide), List.dropWhile_cons_of_pos (by decide),
    List.cons_append, List.dropWhile_cons_of_neg hfirst, ← List.cons_append,
    List.takeWhile_append_of_pos hkept, hstop, List.append_nil]

/-- No blanks stand in a scheme and a server. -/
theorem Spells.not_isMargin {host : Host} (h : Spells host cs) (scheme : Scheme) :
    ∀ c ∈ scheme.name ++ ':' :: '/' :: '/' :: cs, isMargin c = false := by
  intro c hc
  have hscheme : scheme.name.all (fun c => !isMargin c) = true := by
    cases scheme <;> decide +kernel
  simp only [List.mem_append, List.mem_cons] at hc
  rcases hc with hc | rfl | rfl | rfl | hc
  · simpa using List.all_eq_true.mp hscheme c hc
  · decide
  · decide
  · decide
  · exact (h.isServerChar hc).1

/-- A text with a server that is spelled in it, and behind it nothing or what ends a server, is the
URL of this server. -/
theorem Spells.parse {host : Host} (h : Spells host cs) (scheme : Scheme) {tail : List Char}
    (htail : ∀ c ∈ tail.head?, endsAuthority c = true) :
    ∃ url, parse (urlText scheme cs tail) = .ok url ∧
      url.authority = ⟨scheme, [], none, host, none⟩ := by
  let front := scheme.name ++ ':' :: '/' :: '/' :: cs
  have htext : (urlText scheme cs tail).toList = front ++ tail := by
    rw [urlText, String.toList_ofList, List.append_assoc]
    rfl
  have hfront : ∀ c ∈ front, isMargin c = false := h.not_isMargin scheme
  have hsplit : splitScheme (significant (urlText scheme cs tail).toList) =
      some (scheme.name, '/' :: '/' :: (cs ++ significantEnd tail)) := by
    rw [htext, significant_append hfront (by simp [front])]
    simpa [front] using splitScheme_name scheme ('/' :: '/' :: (cs ++ significantEnd tail))
  have hserver : authorityText ('/' :: '/' :: (cs ++ significantEnd tail)) = cs :=
    authorityText_server h.ne_nil (fun c hc => (h.isServerChar hc).2.1)
      (endsAuthority_of_significantEnd htail)
  rw [parse_of_splitScheme hsplit]
  refine exists_of_readAuthority ?_
  rw [hserver]
  exact h.readAuthority scheme

end Url

end SessionKeeper
