import SessionKeeper.Proofs.Url.Spelling

/-!
# The own machine

Whether a URL leads to the own machine is found by writing its host and reading the text again as an
address, by another reader. An address is read back as it was, and no domain is read as an address,
because a name that looks like one would have been read as one by the URL; so the answer is that of
the host itself.
-/

namespace SessionKeeper.Url

variable {name cs : List Char} {text : String} {host : Host} {url : HttpUrl}

/-- The hosts of the own machine: the name `localhost`, the version 4 addresses that begin with the
byte 127, and the version 6 address `::1`. -/
def Host.IsOwn (host : Host) : Prop :=
  host = .domain "localhost".toList ∨
    (∃ n, host = .address (.v4 n) ∧ 127 * 256 ^ 3 ≤ n ∧ n < 128 * 256 ^ 3) ∨
    host = .address (.v6 [0, 0, 0, 0, 0, 0, 0, 1])

/-- What stands for the host in the text of a URL. -/
def hostText? (text : String) : Option (List Char) :=
  (afterScheme? text).map fun rest => (splitPort false (splitUser (authorityText rest)).2).1

/-! ## Hosts that are read -/

/-- What is known of a host that was read. -/
def Host.IsValid : Host → Prop
  | .domain name => (∀ c ∈ name, isForbidden c = false) ∧ endsInNumber name = false
  | .address a => a.IsValid

theorem not_isForbidden_of_domainToAscii {domain : List Char}
    (h : domainToAscii name = some domain) : ∀ c ∈ domain, isForbidden c = false := by
  rw [domainToAscii] at h
  split at h
  next => cases h
  next labels _ =>
    dsimp only at h
    split at h
    next => cases h
    next hallowed =>
      obtain rfl := Option.some.inj h
      rw [Bool.not_eq_true, List.any_eq_false] at hallowed
      intro c hc
      exact Bool.eq_false_iff.mpr (hallowed c hc)

theorem isValid_of_readName (h : readName cs = .ok host) : host.IsValid := by
  rw [readName] at h
  split at h
  next => cases h
  next name _ =>
    split at h
    next => cases h
    next domain hdomain =>
      split at h
      next => cases h
      next =>
        split at h
        next =>
          split at h
          next a ha =>
            cases h
            exact isValid_of_readV4Lenient ha
          next => cases h
        next hname =>
          cases h
          exact ⟨not_isForbidden_of_domainToAscii hdomain, Bool.eq_false_iff.mpr hname⟩

theorem isValid_of_readHost (h : readHost cs = .ok host) : host.IsValid := by
  unfold readHost at h
  split at h
  next => cases h
  next tail =>
    rw [readBracketed] at h
    split at h
    next =>
      split at h
      next a ha =>
        cases h
        exact isValid_of_readV6 ha
      next => cases h
    next => cases h
  next => exact isValid_of_readName h

theorem host_of_readAuthority {scheme : Scheme} {a : Authority}
    (h : readAuthority scheme cs = .ok a) :
    readHost (splitPort false (splitUser cs).2).1 = .ok a.host := by
  rw [readAuthority] at h
  dsimp only at h
  split at h
  next => cases h
  next host hread =>
    split at h
    next => cases h
    next => cases h; exact hread

/-- The host of a URL is read from the text that stands for it. -/
theorem readHost_of_parse (h : parse text = .ok url) :
    ∃ cs, hostText? text = some cs ∧ readHost cs = .ok url.authority.host := by
  obtain ⟨scheme, rest, hsplit, hauthority⟩ := exists_scheme_of_parse h
  refine ⟨_, ?_, host_of_readAuthority hauthority⟩
  rw [hostText?, afterScheme?, hsplit]
  rfl

/-! ## Domains and addresses -/

theorem isDigit_of_digitIn? {c : Char} {d : Nat} (h : digitIn? 10 c = some d) :
    c.isDigit = true := by
  by_contra hdigit
  rw [digitIn?, Option.filter_eq_some_iff, if_neg hdigit] at h
  obtain ⟨hvalue, hlt⟩ := h
  have hlt : d < 10 := of_decide_eq_true hlt
  have ha : 'a'.toNat = 97 := rfl
  have hA : 'A'.toNat = 65 := rfl
  split at hvalue
  next hletter =>
    have hle : 'a'.toNat ≤ c.toNat := hletter.1
    have heq := Option.some.inj hvalue
    omega
  next =>
    split at hvalue
    next hletter =>
      have hle : 'A'.toNat ≤ c.toNat := hletter.1
      have heq := Option.some.inj hvalue
      omega
    next => cases hvalue

theorem isDigit_of_readIn {acc n : Nat} (h : readIn 10 acc cs = some n) :
    cs.all Char.isDigit = true := by
  induction cs generalizing acc with
  | nil => rfl
  | cons c cs ih =>
      rw [readIn] at h
      split at h
      next => cases h
      next d hd => rw [List.all_cons, isDigit_of_digitIn? hd, ih h, Bool.and_self]

theorem isDigit_of_readByte {n : Nat} (h : readByte cs = some n) :
    cs ≠ [] ∧ cs.all Char.isDigit = true := by
  rw [readByte] at h
  split at h
  next hshape =>
    rw [Option.filter_eq_some_iff] at h
    exact ⟨hshape.2.1, isDigit_of_readIn h.1⟩
  next => cases h

/-- A name whose last piece is no number is no four bytes. -/
theorem readV4Value_of_domain (h : endsInNumber name = false) : readV4Value name = none := by
  obtain ⟨last, hlast⟩ : ∃ last, (splitOn '.' name).getLast? = some last :=
    Option.isSome_iff_exists.mp (List.getLast?_isSome.mpr (splitOn_ne_nil '.' name))
  rw [readV4Value]
  split
  next a b c d hbytes =>
    obtain ⟨n, -, hn⟩ := exists_mem_of_mapM hbytes (List.mem_of_getLast? hlast)
    obtain ⟨hne, hdigits⟩ := isDigit_of_readByte hn
    have hfull : some last ≠ some [] := fun heq => hne (Option.some.inj heq)
    have hnumber : endsInNumber name = true := by
      rw [endsInNumber, hlast, if_neg hfull]
      simp [hne, hdigits]
    rw [h] at hnumber
    cases hnumber
  next => rfl

/-- A text without colons has too few groups. -/
theorem readV6_of_not_mem (h : ':' ∉ cs) : readV6 cs = none := by
  have hnone : splitDoubleColon cs = none := by
    simpa [splitDoubleColon] using splitDoubleColon_append h []
  have hfew : ∀ groups, readGroups (colonParts cs) = some groups → groups.length ≠ 8 := by
    intro groups hgroups hlength
    rw [colonParts] at hgroups
    split at hgroups
    next =>
      obtain rfl := Option.some.inj hgroups
      cases hlength
    next =>
      rw [splitOn_of_not_mem h, readGroups] at hgroups
      split at hgroups
      next =>
        obtain rfl := Option.some.inj hgroups
        cases hlength
      next =>
        obtain ⟨n, -, rfl⟩ := Option.map_eq_some_iff.mp hgroups
        cases hlength
  rw [readV6, hnone]
  dsimp only
  split
  next groups hgroups => exact if_neg (hfew groups hgroups)
  next => rfl

theorem not_mem_of_isForbidden (hallowed : ∀ c ∈ name, isForbidden c = false) {x : Char}
    (hx : isForbidden x = true) : x ∉ name := by
  intro hmem
  rw [hallowed x hmem] at hx
  cases hx

/-- No domain is read as an address. -/
theorem readAddress_of_domain (hallowed : ∀ c ∈ name, isForbidden c = false)
    (hname : endsInNumber name = false) : readAddress name = none := by
  rw [readAddress, readV4Value_of_domain hname]
  exact readV6_of_not_mem (not_mem_of_isForbidden hallowed (by decide))

/-! ## The text of a host -/

theorem dropWhile_of_not_mem {x : Char} (h : x ∉ cs) : cs.dropWhile (fun c => c == x) = cs := by
  cases cs with
  | nil => rfl
  | cons c cs =>
      refine List.dropWhile_cons_of_neg fun heq => h ?_
      rw [← beq_iff_eq.mp heq]
      exact List.mem_cons_self

theorem dropBrackets_of_not_mem (hopen : '[' ∉ cs) (hclose : ']' ∉ cs) : dropBrackets cs = cs := by
  rw [dropBrackets, dropWhile_of_not_mem hopen,
    dropWhile_of_not_mem (mt List.mem_reverse.mp hclose), List.reverse_reverse]

theorem dropBrackets_bracketed (hopen : '[' ∉ cs) (hclose : ']' ∉ cs) :
    dropBrackets ('[' :: cs ++ [']']) = cs := by
  have hclosed : '[' ∉ cs ++ [']'] := by simp [hopen]
  rw [dropBrackets, List.cons_append, List.dropWhile_cons_of_pos (by decide),
    dropWhile_of_not_mem hclosed, List.reverse_concat, List.dropWhile_cons_of_pos (by decide),
    dropWhile_of_not_mem (mt List.mem_reverse.mp hclose), List.reverse_reverse]

theorem dropBrackets_write (a : Address) : dropBrackets (Host.address a).write = a.write := by
  cases a with
  | v4 n =>
      refine dropBrackets_of_not_mem ?_ ?_
      · exact not_mem_writeV4 (by decide) (by decide) n
      · exact not_mem_writeV4 (by decide) (by decide) n
  | v6 groups =>
      refine dropBrackets_bracketed ?_ ?_
      · exact not_mem_writeV6 (by decide) (by decide) groups
      · exact not_mem_writeV6 (by decide) (by decide) groups

/-- The text of an address has a character that `localhost` has not. -/
theorem map_toLower_write_ne (a : Address) :
    (Host.address a).write.map Char.toLower ≠ "localhost".toList := by
  intro heq
  have hmem {x : Char} (hx : x ∈ (Host.address a).write) : x.toLower ∈ "localhost".toList :=
    heq ▸ List.mem_map_of_mem hx
  cases a with
  | v4 n =>
      have hdot : '.' ∈ (Host.address (.v4 n)).write := by simp [Host.write, writeV4]
      exact absurd (hmem hdot) (by decide +kernel)
  | v6 groups => exact absurd (hmem List.mem_cons_self) (by decide +kernel)

/-! ## The own machine -/

theorem isLoopbackText_domain (h : (Host.domain name).IsValid) :
    isLoopbackText name = true ↔ name = "localhost".toList := by
  obtain ⟨hallowed, hname⟩ := h
  have hopen := not_mem_of_isForbidden hallowed (x := '[') (by decide)
  have hclose := not_mem_of_isForbidden hallowed (x := ']') (by decide)
  have hlower : name.map Char.toLower = name := by
    refine (List.map_congr_left fun c hc => ?_).trans (List.map_id name)
    refine toLower_of_not_isUpper (Bool.eq_false_iff.mpr fun hupper => ?_)
    have hforbidden := hallowed c hc
    rw [isForbidden, hupper, Bool.or_true] at hforbidden
    cases hforbidden
  rw [isLoopbackText, hlower, dropBrackets_of_not_mem hopen hclose,
    readAddress_of_domain hallowed hname]
  simp

theorem isLoopbackText_address {a : Address} (h : a.IsValid) :
    isLoopbackText (Host.address a).write = a.isLoopback := by
  rw [isLoopbackText, beq_eq_false_iff_ne.mpr (map_toLower_write_ne a), dropBrackets_write,
    readAddress_write h]
  rfl

theorem isLoopback_iff {a : Address} :
    a.isLoopback = true ↔ (∃ n, a = .v4 n ∧ 127 * 256 ^ 3 ≤ n ∧ n < 128 * 256 ^ 3) ∨
      a = .v6 [0, 0, 0, 0, 0, 0, 0, 1] := by
  cases a with
  | v4 n =>
      have hpow : Nat.pow 256 3 = 16777216 := rfl
      simp only [Address.isLoopback, hpow, beq_iff_eq, Address.v4.injEq, exists_eq_left',
        reduceCtorEq, or_false]
      omega
  | v6 groups => simp [Address.isLoopback]

/-- The text of a host names the own machine exactly if the host is one of it. -/
theorem isLoopbackText_write (h : host.IsValid) :
    isLoopbackText host.write = true ↔ host.IsOwn := by
  cases host with
  | domain name =>
      rw [Host.write, isLoopbackText_domain h]
      simp [Host.IsOwn]
  | address a =>
      rw [isLoopbackText_address h, isLoopback_iff]
      simp [Host.IsOwn]

theorem isLoopback_iff_isOwn (h : parse text = .ok url) :
    isLoopback text = true ↔ url.authority.host.IsOwn := by
  obtain ⟨cs, -, hread⟩ := readHost_of_parse h
  rw [isLoopback, h]
  exact isLoopbackText_write (isValid_of_readHost hread)

/-- What is said of the own machine is exact. A URL leads to it exactly if its host is the name
`localhost`, a version 4 address that begins with the byte 127, or the version 6 address `::1`. The
host is the one that is spelled in the text, however it is spelled; and every text of a scheme, a
spelling of a host, and behind it nothing or what ends a server, is the URL of this host. -/
theorem isLoopback_exact :
    (∀ {text : String} {url : HttpUrl}, parse text = .ok url →
      (isLoopback text = true ↔ url.authority.host.IsOwn)) ∧
    ∀ {host : Host} {cs : List Char}, Spells host cs →
      (∀ {text : String} {url : HttpUrl}, parse text = .ok url → hostText? text = some cs →
        url.authority.host = host ∧ (isLoopback text = true ↔ host.IsOwn)) ∧
      ∀ (scheme : Scheme) {tail : List Char}, (∀ c ∈ tail.head?, endsAuthority c = true) →
        ∃ url, parse (urlText scheme cs tail) = .ok url ∧ url.authority.host = host ∧
          (isLoopback (urlText scheme cs tail) = true ↔ host.IsOwn) := by
  refine ⟨isLoopback_iff_isOwn, ?_⟩
  intro host cs hspells
  constructor
  · intro text url hparse htext
    obtain ⟨cs, hcs, hread⟩ := readHost_of_parse hparse
    obtain rfl := Option.some.inj (htext.symm.trans hcs)
    have hhost : url.authority.host = host := Except.ok.inj (hread.symm.trans hspells.readHost)
    exact ⟨hhost, hhost ▸ isLoopback_iff_isOwn hparse⟩
  · intro scheme tail htail
    obtain ⟨url, hparse, hauthority⟩ := hspells.parse scheme htail
    have hhost : url.authority.host = host := congrArg Authority.host hauthority
    exact ⟨url, hparse, hhost, hhost ▸ isLoopback_iff_isOwn hparse⟩

namespace Sample

/-- A spelling of an address of the own machine in two numbers, hexadecimal and decimal, of which a
digit is percent-encoded. -/
def ownSpelling : List Char := "0X7f.%31".toList

/-- A URL with this spelling, a user, and a port. -/
def ownUrl : HttpUrl :=
  ⟨⟨.https, ['u'], none, .address (.v4 2130706433), some 8080⟩, ['/', 'x'], none, none⟩

theorem spells_ownSpelling : Spells (.address (.v4 2130706433)) ownSpelling := by
  have hdigit {base d : Nat} (hd : d < base) : IsDigitOf base d d.digitChar := ⟨hd, .inl rfl⟩
  have hfirst : Numeral 16 127 ['7', 'f'] :=
    (Numeral.nil.snoc (hdigit (show 7 < 16 by decide))).snoc (hdigit (show 15 < 16 by decide))
  have hsecond : Numeral 10 1 ['1'] := Numeral.nil.snoc (hdigit (show 1 < 10 by decide))
  have hparts : PartsText [127, 1] ['0', 'X', '7', 'f', '.', '1'] :=
    .cons (.hexadecimal (.inr rfl) hfirst) (.one (.decimal nofun (by decide) hsecond))
  have hescaped : EscapedText ['0', 'X', '7', 'f', '.', '1'] ownSpelling := by
    refine .plain (by decide) (by decide) <| .plain (by decide) (by decide) <|
      .plain (by decide) (by decide) <| .plain (by decide) (by decide) <|
      .plain (by decide) (by decide) ?_
    exact .escaped (hdigit (show 3 < 16 by decide)) (hdigit (show 1 < 16 by decide)) rfl
      (by decide) .nil
  exact .v4 (.parts hparts (.two (by decide) (by decide))) hescaped

end Sample

/-- A URL with a spelling of this kind leads to the own machine. -/
theorem isLoopback_exact_of_ownSpelling :
    isLoopback "https://u@0X7f.%31:8080/x" = true ∧
      ∃ url, parse (urlText .http Sample.ownSpelling ['/', 'x']) = .ok url ∧
        isLoopback (urlText .http Sample.ownSpelling ['/', 'x']) = true := by
  have hparse : parse "https://u@0X7f.%31:8080/x" = .ok Sample.ownUrl := by decide +kernel
  have hown : (Host.address (.v4 2130706433)).IsOwn :=
    .inr (.inl ⟨_, rfl, by decide, by decide⟩)
  have hslash : ∀ c ∈ (['/', 'x'] : List Char).head?, endsAuthority c = true := by
    simp [endsAuthority, isSlash]
  obtain ⟨url, htext, -, hloopback⟩ :=
    (isLoopback_exact.2 Sample.spells_ownSpelling).2 .http hslash
  exact ⟨(isLoopback_exact.1 hparse).mpr hown, url, htext, hloopback.mpr hown⟩

end SessionKeeper.Url
