import SessionKeeper.Store.File

/-!
# The parts of a path

A path with a file name is a directory part, the name, and a tail of slashes and dots that mean
nothing. Another extension changes the name and nothing else, unless the name begins with two dots:
cutting off its extension may then leave the two dots, which are no name. With either outcome the
sibling of a storage file has another last component than the file.
-/

namespace SessionKeeper.Path

/-! ## Components of texts -/

/-- The components of the text of a path. -/
def componentsOf (cs : List Char) : List String :=
  ((piecesFrom [] cs).filter fun piece => piece != []).map String.ofList

theorem components_eq (p : Path) : p.components = componentsOf p.text.toList := rfl

theorem piecesFrom_append_slash (piece cs ds : List Char) :
    piecesFrom piece (cs ++ '/' :: ds) = piecesFrom piece cs ++ piecesFrom [] ds := by
  induction cs generalizing piece with
  | nil => rfl
  | cons c cs ih =>
      rw [List.cons_append, piecesFrom, piecesFrom]
      split
      next => rw [ih, List.cons_append]
      next => exact ih _

theorem piecesFrom_of_no_slash (piece : List Char) {cs : List Char} (h : '/' ∉ cs) :
    piecesFrom piece cs = [piece ++ cs] := by
  induction cs generalizing piece with
  | nil => rw [piecesFrom, List.append_nil]
  | cons c cs ih =>
      rw [List.mem_cons, not_or] at h
      rw [piecesFrom, if_neg (Ne.symm h.1), ih _ h.2, List.append_assoc, List.singleton_append]

@[simp] theorem componentsOf_nil : componentsOf [] = [] := rfl

theorem componentsOf_append_slash (cs ds : List Char) :
    componentsOf (cs ++ '/' :: ds) = componentsOf cs ++ componentsOf ds := by
  simp [componentsOf, piecesFrom_append_slash]

theorem componentsOf_name {name : List Char} (hname : name ≠ []) (hslash : '/' ∉ name) :
    componentsOf name = [String.ofList name] := by
  simp [componentsOf, piecesFrom_of_no_slash [] hslash, hname]

/-- A text that is empty or ends in a slash. -/
def IsDirectoryPart (dir : List Char) : Prop :=
  dir = [] ∨ ∃ front, dir = front ++ ['/']

theorem componentsOf_append_name {dir name : List Char} (hdir : IsDirectoryPart dir)
    (hname : name ≠ []) (hslash : '/' ∉ name) :
    componentsOf (dir ++ name) = componentsOf dir ++ [String.ofList name] := by
  rcases hdir with rfl | ⟨front, rfl⟩
  · rw [List.nil_append, componentsOf_name hname hslash, componentsOf_nil, List.nil_append]
  · rw [List.append_assoc, List.singleton_append, componentsOf_append_slash,
      componentsOf_append_slash, componentsOf_name hname hslash, componentsOf_nil, List.append_nil]

/-! ## Tails that mean nothing -/

theorem dropTail_suffix (cs : List Char) : dropTail cs <:+ cs := by
  fun_induction dropTail cs with
  | case4 cs hne ih => exact ih.trans (List.suffix_cons ..)
  | case5 cs ih => exact ih.trans (List.suffix_cons ..)
  | _ => exact List.suffix_refl _

/-- What is dropped has no components but dots. -/
theorem componentsOf_dropTail (cs : List Char) :
    ∃ dots, (∀ c ∈ dots, c = ".") ∧
      componentsOf cs.reverse = componentsOf (dropTail cs).reverse ++ dots := by
  fun_induction dropTail cs with
  | case4 cs hne ih =>
      obtain ⟨dots, hdots, hcomponents⟩ := ih
      refine ⟨dots, hdots, ?_⟩
      rw [List.reverse_cons, componentsOf_append_slash, componentsOf_nil, List.append_nil,
        hcomponents]
  | case5 cs ih =>
      obtain ⟨dots, hdots, hcomponents⟩ := ih
      rw [List.reverse_cons, componentsOf_append_slash, componentsOf_nil,
        List.append_nil] at hcomponents
      refine ⟨dots ++ ["."], ?_, ?_⟩
      · intro c hc
        rcases List.mem_append.mp hc with hc | hc
        · exact hdots c hc
        · exact List.mem_singleton.mp hc
      · have hdot : componentsOf ['.'] = ["."] := rfl
        rw [List.reverse_cons, List.reverse_cons, List.append_assoc, List.singleton_append,
          componentsOf_append_slash, hcomponents, hdot, List.append_assoc]
  | _ => exact ⟨[], by simp, by simp⟩

/-- Slashes and single dots behind slashes, in reverse. -/
inductive IsTail : List Char → Prop
  | nil : IsTail []
  | slash {cs : List Char} (h : IsTail cs) : IsTail ('/' :: cs)
  | dot {cs : List Char} (h : IsTail ('/' :: cs)) : IsTail ('.' :: '/' :: cs)

theorem IsTail.drop {tail : List Char} (h : IsTail tail) (n : Nat) : IsTail (tail.drop n) := by
  induction h generalizing n with
  | nil => rw [List.drop_nil]; exact .nil
  | slash h ih =>
      cases n with
      | zero => exact .slash h
      | succ n => exact ih n
  | dot h ih =>
      cases n with
      | zero => exact .dot h
      | succ n => exact ih n

theorem dropTail_append {tail cs : List Char} (h : IsTail tail) (hcs : cs ≠ []) :
    dropTail (tail ++ cs) = dropTail cs := by
  induction h with
  | nil => rfl
  | slash h ih =>
      rw [List.cons_append, dropTail]
      · exact ih
      · simp [hcs]
  | dot h ih => rw [List.cons_append, List.cons_append, dropTail]; exact ih

/-- What is dropped is a tail, but for the dots behind the slash of the root. -/
theorem exists_tail {cs : List Char} (h : dropTail cs ≠ ['/']) :
    ∃ tail, IsTail tail ∧ cs = tail ++ dropTail cs := by
  fun_induction dropTail cs with
  | case4 cs hne ih =>
      obtain ⟨tail, htail, hcs⟩ := ih h
      exact ⟨'/' :: tail, .slash htail, congrArg _ hcs⟩
  | case5 cs ih =>
      obtain ⟨tail, htail, hcs⟩ := ih h
      cases htail with
      | nil =>
          -- a slash in front is dropped unless it is all there is
          have hlength := congrArg List.length hcs
          cases cs with
          | nil => exact absurd rfl h
          | cons c cs =>
              have hshort := (dropTail_suffix (c :: cs)).length_le
              have hdrop : dropTail ('/' :: c :: cs) = dropTail (c :: cs) := rfl
              rw [List.nil_append, hdrop] at hlength
              simp only [List.length_cons] at hlength hshort
              omega
      | slash htail => exact ⟨_, .dot (.slash htail), congrArg _ hcs⟩
      | dot htail =>
          have hhead := (List.cons.inj hcs).1
          cases hhead
  | _ => exact ⟨[], .nil, rfl⟩

/-! ## Names -/

theorem stem_append {before ext : List Char} (hbefore : before ≠ []) (hext : '.' ∉ ext) :
    stem (before ++ '.' :: ext) = before := by
  have hdrop : (before ++ '.' :: ext).reverse.dropWhile (fun c => c != '.') =
      '.' :: before.reverse := by
    rw [List.reverse_append, List.reverse_cons, List.append_assoc,
      List.dropWhile_append_of_pos, List.singleton_append, List.dropWhile_cons_of_neg (by simp)]
    intro c hc
    simp only [bne_iff_ne]
    rintro rfl
    exact hext (List.mem_reverse.mp hc)
  rw [stem, hdrop, List.drop_one, List.tail_cons, List.reverse_reverse]
  exact if_neg hbefore

theorem extension_append {before ext : List Char} (hbefore : before ≠ []) (hext : '.' ∉ ext) :
    extension (before ++ '.' :: ext) = ext := by
  rw [extension, stem_append hbefore hext, List.drop_append]
  simp

/-- A name without its extension is the whole name, or what stands before its last dot. -/
theorem name_eq (name : List Char) :
    stem name = name ∨
      name = stem name ++ '.' :: extension name ∧ '.' ∉ extension name := by
  have hsplit := List.takeWhile_append_dropWhile (p := fun c => c != '.') (l := name.reverse)
  have hnodot : '.' ∉ name.reverse.takeWhile fun c => c != '.' := fun hmem => by
    simpa using List.all_eq_true.mp List.all_takeWhile _ hmem
  cases hdrop : name.reverse.dropWhile fun c => c != '.' with
  | nil => exact .inl (by rw [stem, hdrop]; rfl)
  | cons dot before =>
      have hhead := List.head?_dropWhile_not (fun c => c != '.') name.reverse
      rw [hdrop] at hhead
      obtain rfl : dot = '.' := by simpa using hhead
      cases before with
      | nil => exact .inl (by rw [stem, hdrop]; rfl)
      | cons c before =>
          right
          rw [hdrop] at hsplit
          generalize name.reverse.takeWhile (fun c => c != '.') = ext at hsplit hnodot
          have hname : name = (c :: before).reverse ++ '.' :: ext.reverse := by
            simpa using (congrArg List.reverse hsplit).symm
          have hbefore : (c :: before).reverse ≠ [] := by simp
          have hext : '.' ∉ ext.reverse := by simpa using hnodot
          rw [hname, stem_append hbefore hext, extension_append hbefore hext]
          exact ⟨rfl, hext⟩

theorem stem_ne_nil {name : List Char} (h : name ≠ []) : stem name ≠ [] := by
  rw [stem]
  split
  next => exact h
  next hbefore => exact hbefore

theorem mem_of_mem_stem {name : List Char} {c : Char} (h : c ∈ stem name) : c ∈ name := by
  rcases name_eq name with hwhole | ⟨hname, -⟩
  · rwa [hwhole] at h
  · rw [hname]
    exact List.mem_append_left _ h

/-- A name with an extension of two parts is not a name with another stem and extension. -/
theorem stem_append_ne (name first second : List Char) :
    stem name ++ '.' :: (first ++ '.' :: second) ≠ name := by
  intro h
  rcases name_eq name with hwhole | ⟨hname, hdot⟩
  · have hlength := congrArg List.length h
    rw [hwhole, List.length_append, List.length_cons] at hlength
    omega
  · have hext := (List.cons.inj (List.append_cancel_left (h.trans hname))).2
    rw [← hext] at hdot
    simp at hdot

/-! ## Paths with a file name -/

/-- The parts of a path: a directory part, a name, and a tail. -/
structure Parts (p : Path) (dir name : List Char) : Prop where
  directory : IsDirectoryPart dir
  trimmed_eq : p.trimmed = name.reverse ++ dir.reverse
  name_ne : name ≠ [] ∧ name ≠ ['.', '.'] ∧ name ≠ ['.']
  no_slash : '/' ∉ name

theorem IsDirectoryPart.of_dropWhile (cs : List Char) :
    IsDirectoryPart (cs.dropWhile fun c => c != '/').reverse := by
  cases hdrop : cs.dropWhile fun c => c != '/' with
  | nil => exact .inl rfl
  | cons c rest =>
      have hhead := List.head?_dropWhile_not (fun c => c != '/') cs
      rw [hdrop] at hhead
      obtain rfl : c = '/' := by simpa using hhead
      exact .inr ⟨rest.reverse, List.reverse_cons⟩

theorem IsDirectoryPart.dropWhile {dir name : List Char} (hdir : IsDirectoryPart dir)
    (hslash : '/' ∉ name) :
    ((name.reverse ++ dir.reverse).dropWhile fun c => c != '/') = dir.reverse ∧
      ((name.reverse ++ dir.reverse).takeWhile fun c => c != '/') = name.reverse := by
  have hname : ∀ c ∈ name.reverse, (c != '/') = true := by
    intro c hc
    simp only [bne_iff_ne]
    rintro rfl
    exact hslash (List.mem_reverse.mp hc)
  rw [List.dropWhile_append_of_pos hname, List.takeWhile_append_of_pos hname]
  rcases hdir with rfl | ⟨front, rfl⟩ <;> simp

theorem exists_parts {p : Path} {name : String} (h : p.fileName? = some name) :
    ∃ dir, p.Parts dir name.toList := by
  rw [fileName?] at h
  split at h
  next => cases h
  next hname =>
    obtain rfl := Option.some.inj h
    simp only [not_or] at hname
    refine ⟨(p.trimmed.dropWhile fun c => c != '/').reverse, .of_dropWhile _, ?_, ?_, ?_⟩
    · simp
    · simpa using hname
    · rw [String.toList_ofList, List.mem_reverse]
      intro hmem
      simpa using List.all_eq_true.mp List.all_takeWhile _ hmem

variable {p : Path} {dir name : List Char}

theorem Parts.fileName?_eq (h : p.Parts dir name) : p.fileName? = some (String.ofList name) := by
  rw [fileName?, h.trimmed_eq, (h.directory.dropWhile h.no_slash).2, List.reverse_reverse]
  simp [h.name_ne]

theorem Parts.ofList_ne (h : p.Parts dir name) :
    String.ofList name ≠ "." ∧ String.ofList name ≠ ".." :=
  ⟨fun hdot => h.name_ne.2.2 (by simpa using congrArg String.toList hdot),
    fun hup => h.name_ne.2.1 (by simpa using congrArg String.toList hup)⟩

theorem Parts.trimmed_ne (h : p.Parts dir name) : p.trimmed ≠ [] ∧ p.trimmed ≠ ['/'] := by
  rw [h.trimmed_eq]
  refine ⟨by simp [h.name_ne.1], fun hslash => h.no_slash ?_⟩
  have hmem : ∀ c ∈ name.reverse, c = '/' := fun c hc => by
    have : c ∈ name.reverse ++ dir.reverse := List.mem_append_left _ hc
    rwa [hslash, List.mem_singleton] at this
  obtain ⟨c, rest, hcons⟩ := List.exists_cons_of_ne_nil h.name_ne.1
  have hc := hmem c (by simp [hcons])
  simp [hcons, hc]

/-- The components of a path with a name. -/
theorem Parts.components_eq (h : p.Parts dir name) :
    ∃ dots, (∀ c ∈ dots, c = ".") ∧
      p.components = componentsOf dir ++ String.ofList name :: dots := by
  obtain ⟨dots, hdots, hcomponents⟩ := componentsOf_dropTail p.text.toList.reverse
  refine ⟨dots, hdots, ?_⟩
  have htrimmed : dropTail p.text.toList.reverse = name.reverse ++ dir.reverse := h.trimmed_eq
  rw [List.reverse_reverse, htrimmed, List.reverse_append, List.reverse_reverse,
    List.reverse_reverse, componentsOf_append_name h.directory h.name_ne.1 h.no_slash,
    List.append_assoc] at hcomponents
  exact hcomponents

/-- The directory of a path with a name is its directory part without what means nothing. -/
theorem Parts.parent?_eq (h : p.Parts dir name) :
    p.parent? = some ⟨String.ofList (dropTail dir.reverse).reverse⟩ := by
  rw [parent?]
  split
  next hnil => exact absurd hnil h.trimmed_ne.1
  next hslash => exact absurd hslash h.trimmed_ne.2
  next => rw [h.trimmed_eq, (h.directory.dropWhile h.no_slash).1]

/-- Another extension goes behind the stem of the name. -/
theorem Parts.setExtension_eq (h : p.Parts dir name) (ext : String) :
    p.setExtension ext = ⟨String.ofList (dir ++ stem name ++ '.' :: ext.toList)⟩ := by
  rw [setExtension, h.fileName?_eq]
  dsimp only
  rw [h.trimmed_eq, (h.directory.dropWhile h.no_slash).1, List.reverse_reverse,
    String.toList_ofList]

theorem dropExtension_of_nil {p : Path} (h : extension name = []) : p.dropExtension name = p := by
  rw [dropExtension, h, List.length_nil, Nat.sub_zero, ← String.length_toList, List.take_length,
    String.ofList_toList]

theorem dropTail_of_name {name : List Char} (hlength : 1 < name.length) (hslash : '/' ∉ name)
    (behind : List Char) : dropTail (name.reverse ++ behind) = name.reverse ++ behind := by
  match hname : name.reverse with
  | [] => simp_all
  | [c] =>
      have := congrArg List.length hname
      rw [List.length_reverse, List.length_singleton] at this
      omega
  | c :: d :: rest =>
      have hc : c ≠ '/' := by
        rintro rfl
        exact hslash (List.mem_reverse.mp (hname ▸ List.mem_cons_self))
      have hd : d ≠ '/' := by
        rintro rfl
        exact hslash (List.mem_reverse.mp (hname ▸ List.mem_cons_of_mem _ List.mem_cons_self))
      rw [List.cons_append, List.cons_append]
      unfold dropTail
      split <;> simp_all

/-- Cutting off an extension leaves the stem, its dot and what may be left of the extension. -/
theorem Parts.trimmed_dropExtension (h : p.Parts dir name)
    (hname : name = stem name ++ '.' :: extension name) (hdot : '.' ∉ extension name) :
    ∃ left, '.' ∉ left ∧ '/' ∉ left ∧ (p.dropExtension name).trimmed =
      (stem name ++ '.' :: left).reverse ++ dir.reverse := by
  obtain ⟨tail, htail, htext⟩ : ∃ tail, IsTail tail ∧
      p.text.toList.reverse = tail ++ p.trimmed := exists_tail h.trimmed_ne.2
  rw [h.trimmed_eq] at htext
  -- in reverse, as many characters go as the extension has, of the tail first
  obtain ⟨left, hleft, hcut⟩ : ∃ left : List Char, (∀ c ∈ left, c ∈ extension name) ∧
      (p.dropExtension name).text.toList.reverse = tail.drop (extension name).length ++
        (left.reverse ++ '.' :: ((stem name).reverse ++ dir.reverse)) := by
    refine ⟨((extension name).reverse.drop ((extension name).length - tail.length)).reverse,
      fun c hc => List.mem_reverse.mp (List.mem_of_mem_drop (List.mem_reverse.mp hc)), ?_⟩
    have hlength := congrArg List.length htext
    have hlength' := congrArg List.length hname
    simp only [List.length_reverse, List.length_append, List.length_cons] at hlength hlength'
    have hparts : p.text.toList.reverse = tail ++ ((extension name).reverse ++
        ('.' :: ((stem name).reverse ++ dir.reverse))) := by
      rw [htext]
      conv => lhs; rw [hname]
      simp
    have hcount : p.text.toList.length - (p.text.toList.length - (extension name).length) =
        (extension name).length := by omega
    rw [dropExtension, String.toList_ofList, List.reverse_take, ← String.length_toList, hcount,
      hparts, List.drop_append, List.drop_append_of_le_length (by simp), List.reverse_reverse]
  have hslash : '/' ∉ left := fun hc => h.no_slash (by
    rw [hname]
    exact List.mem_append_right _ (List.mem_cons_of_mem _ (hleft _ hc)))
  have hslash' : '/' ∉ stem name ++ '.' :: left := by
    rw [List.mem_append, List.mem_cons]
    rintro (hc | hc | hc)
    · exact h.no_slash (mem_of_mem_stem hc)
    · cases hc
    · exact hslash hc
  have hlength : 1 < (stem name ++ '.' :: left).length := by
    have := List.length_pos_iff.mpr (stem_ne_nil h.name_ne.1)
    simp only [List.length_append, List.length_cons]
    omega
  refine ⟨left, fun hc => hdot (hleft _ hc), hslash, ?_⟩
  rw [trimmed, hcut, dropTail_append (htail.drop _) (by simp),
    ← dropTail_of_name hlength hslash' dir.reverse]
  simp

/-- Another extension goes behind the stem of the name, or what is left of the path has no name. -/
theorem Parts.withExtension_eq (h : p.Parts dir name) (ext : String) :
    p.withExtension ext = ⟨String.ofList (dir ++ stem name ++ '.' :: ext.toList)⟩ ∨
      (p.withExtension ext).fileName? = none := by
  rw [withExtension, h.fileName?_eq]
  dsimp only
  rw [String.toList_ofList]
  rcases name_eq name with hwhole | ⟨hname, hdot⟩
  · have hnil : extension name = [] := by rw [extension, hwhole]; simp
    rw [dropExtension_of_nil hnil]
    exact .inl (h.setExtension_eq ext)
  · obtain ⟨left, hleftDot, hleftSlash, htrimmed⟩ := h.trimmed_dropExtension hname hdot
    have hstem := stem_ne_nil h.name_ne.1
    have hslash : '/' ∉ stem name ++ '.' :: left := by
      rw [List.mem_append, List.mem_cons]
      rintro (hc | hc | hc)
      · exact h.no_slash (mem_of_mem_stem hc)
      · cases hc
      · exact hleftSlash hc
    by_cases hdots : stem name ++ '.' :: left = ['.', '.']
    · have hnone : (p.dropExtension name).fileName? = none := by
        rw [fileName?, htrimmed, (h.directory.dropWhile hslash).2, List.reverse_reverse, hdots]
        simp
      right
      rw [setExtension, hnone]
      exact hnone
    · left
      have hparts : (p.dropExtension name).Parts dir (stem name ++ '.' :: left) :=
        ⟨h.directory, htrimmed, ⟨by simp, hdots, by simp [List.append_eq_cons_iff, hstem]⟩, hslash⟩
      rw [hparts.setExtension_eq, stem_append hstem hleftDot]

/-- A text that is a directory part and a name is a path with these parts. -/
theorem parts_of_name {dir name : List Char} (hdir : IsDirectoryPart dir)
    (hlength : 1 < name.length) (hname : name ≠ ['.', '.']) (hslash : '/' ∉ name) :
    Parts ⟨String.ofList (dir ++ name)⟩ dir name where
  directory := hdir
  trimmed_eq := by
    rw [trimmed, String.toList_ofList, List.reverse_append, dropTail_of_name hlength hslash]
  name_ne := by
    refine ⟨?_, hname, ?_⟩ <;>
      · rintro rfl
        simp at hlength
  no_slash := hslash

/-- A name that is seen from a directory is the last component of the path. -/
theorem exists_parts_join (directory file : Path) (hlength : 1 < file.text.toList.length)
    (hname : file.text.toList ≠ ['.', '.']) (hslash : '/' ∉ file.text.toList) :
    ∃ dir, (directory.join file).Parts dir file.text.toList := by
  have hrelative : file.isAbsolute = false := by
    rw [isAbsolute, beq_eq_false_iff_ne]
    exact fun hhead => hslash (List.mem_of_mem_head? hhead)
  have hparts {dir : List Char} (hdir : IsDirectoryPart dir) {p : Path}
      (hp : p.text.toList = dir ++ file.text.toList) : p.Parts dir file.text.toList := by
    obtain rfl : p = ⟨String.ofList (dir ++ file.text.toList)⟩ := by
      rw [← hp, String.ofList_toList]
    exact parts_of_name hdir hlength hname hslash
  rw [join, hrelative, Bool.false_or]
  split
  next => exact ⟨[], hparts (.inl rfl) rfl⟩
  next =>
    split
    next hslashed =>
      obtain ⟨front, hfront⟩ := List.getLast?_eq_some_iff.mp (beq_iff_eq.mp hslashed)
      exact ⟨_, hparts (.inr ⟨front, hfront⟩) String.toList_append⟩
    next => exact ⟨_, hparts (.inr ⟨directory.text.toList, rfl⟩) (by simp)⟩

theorem not_wantsDirectory_of_name (dir : List Char) {name : List Char} (hname : name ≠ [])
    (hslash : '/' ∉ name) : wantsDirectory ⟨String.ofList (dir ++ name)⟩ = false := by
  have hlast : name.getLast hname ≠ '/' := fun hlast => hslash (hlast ▸ List.getLast_mem hname)
  simp [wantsDirectory, List.getLast?_append, List.getLast?_eq_some_getLast hname, hlast]

theorem Parts.prefix_text (h : p.Parts dir name) : dir ++ name <+: p.text.toList := by
  obtain ⟨behind, hbehind⟩ := dropTail_suffix p.text.toList.reverse
  have htrimmed : dropTail p.text.toList.reverse = name.reverse ++ dir.reverse := h.trimmed_eq
  refine ⟨behind.reverse, ?_⟩
  rw [htrimmed] at hbehind
  simpa using congrArg List.reverse hbehind

/-- Whether a path starts at the root shows in its directory part. -/
theorem Parts.isAbsolute_eq (h : p.Parts dir name) : p.isAbsolute = (dir.head? == some '/') := by
  obtain ⟨behind, htext⟩ := h.prefix_text
  rw [isAbsolute, ← htext]
  cases dir with
  | cons c dir => rfl
  | nil =>
      obtain ⟨c, rest, rfl⟩ := List.exists_cons_of_ne_nil h.name_ne.1
      have hc : c ≠ '/' := fun hc => h.no_slash (hc ▸ List.mem_cons_self)
      simpa using hc

/-- A path with another extension stands beside the path and names no directory, or it has no
file name. -/
theorem Parts.withExtension (h : p.Parts dir name) (ext : String) (hext : 1 < ext.length)
    (hslash : '/' ∉ ext.toList) :
    (p.withExtension ext).Parts dir (stem name ++ '.' :: ext.toList) ∧
        (p.withExtension ext).wantsDirectory = false ∨
      (p.withExtension ext).fileName? = none := by
  have hstem := List.length_pos_iff.mpr (stem_ne_nil h.name_ne.1)
  have hlength : 2 < (stem name ++ '.' :: ext.toList).length := by
    rw [List.length_append, List.length_cons, String.length_toList]
    omega
  have hslash' : '/' ∉ stem name ++ '.' :: ext.toList := by
    rw [List.mem_append, List.mem_cons]
    rintro (hc | hc | hc)
    · exact h.no_slash (mem_of_mem_stem hc)
    · cases hc
    · exact hslash hc
  refine (h.withExtension_eq ext).imp_left fun htext => ?_
  rw [htext, List.append_assoc]
  refine ⟨parts_of_name h.directory (by omega) ?_ hslash',
    not_wantsDirectory_of_name dir (by simp) hslash'⟩
  intro hdots
  rw [hdots] at hlength
  exact absurd hlength (by decide)

/-! ## Directories of paths -/

theorem prefix_componentsOf_dropTail (cs : List Char) :
    componentsOf (dropTail cs).reverse <+: componentsOf cs.reverse := by
  obtain ⟨dots, -, hcomponents⟩ := componentsOf_dropTail cs
  exact ⟨dots, hcomponents.symm⟩

theorem isAbsolute_of_isPrefix {p q : Path} (h : q.text.toList <+: p.text.toList)
    (hempty : q.text ≠ "") : q.isAbsolute = p.isAbsolute := by
  obtain ⟨rest, hrest⟩ := h
  rw [isAbsolute, isAbsolute, ← hrest]
  cases hlist : q.text.toList with
  | nil => exact absurd (String.toList_eq_nil_iff.mp hlist) hempty
  | cons c cs => rfl

/-- The directory of a path is a shorter way from the same place. -/
theorem of_parent? {p q : Path} (h : p.parent? = some q) :
    (q.text = "" ∨ q.isAbsolute = p.isAbsolute) ∧ q.components <+: p.components := by
  have hq : q.text.toList = (dropTail (p.trimmed.dropWhile fun c => c != '/')).reverse := by
    rw [parent?] at h
    split at h
    next => cases h
    next => cases h
    next =>
      rw [← Option.some.inj h]
      exact String.toList_ofList
  have hsplit := List.takeWhile_append_dropWhile (p := fun c => c != '/') (l := p.trimmed)
  have hslash : '/' ∉ (p.trimmed.takeWhile fun c => c != '/').reverse := fun hc => by
    simpa using List.all_eq_true.mp List.all_takeWhile _ (List.mem_reverse.mp hc)
  have hdir := IsDirectoryPart.of_dropWhile p.trimmed
  generalize p.trimmed.takeWhile (fun c => c != '/') = last at hsplit hslash
  generalize p.trimmed.dropWhile (fun c => c != '/') = front at hsplit hq hdir
  have htrimmed : p.trimmed.reverse = front.reverse ++ last.reverse := by
    rw [← hsplit, List.reverse_append]
  constructor
  · by_cases hempty : q.text = ""
    · exact .inl hempty
    · refine .inr (isAbsolute_of_isPrefix ?_ hempty)
      rw [hq, ← List.reverse_suffix, List.reverse_reverse]
      refine (dropTail_suffix front).trans (List.IsSuffix.trans ?_ (dropTail_suffix _))
      exact ⟨last, hsplit⟩
  · rw [components_eq, hq]
    refine (prefix_componentsOf_dropTail front).trans (List.IsPrefix.trans ?_
      (components_eq p ▸ List.reverse_reverse p.text.toList ▸ prefix_componentsOf_dropTail _))
    change _ <+: componentsOf p.trimmed.reverse
    rw [htrimmed]
    by_cases hlast : last.reverse = []
    · exact ⟨[], by rw [hlast, List.append_nil, List.append_nil]⟩
    · rw [componentsOf_append_name hdir hlast hslash]
      exact List.prefix_append ..

/-! ## Paths without a file name -/

theorem dropTail_eq_slash {cs rest : List Char} (h : dropTail cs = '/' :: rest) : rest = [] := by
  fun_induction dropTail cs with
  | case1 => cases h
  | case2 => cases h; rfl
  | case3 => cases h
  | case4 cs hne ih => exact ih h
  | case5 cs ih => exact ih h
  | case6 cs hnil hslash hdot hslashes hdots => exact absurd h (hslashes rest)

theorem eq_nil_of_dropTail {cs : List Char} (h : dropTail cs = []) : cs = [] := by
  fun_induction dropTail cs with
  | case4 cs hne ih => exact absurd (ih h) hne
  | case5 cs ih => cases ih h
  | _ => exact h

/-- What a path without a name is cut down to: nothing, the root, or something that ends in dots. -/
theorem trimmed_of_nameless {p : Path} (h : p.fileName? = none) :
    p.trimmed = [] ∨ p.trimmed = ['/'] ∨ ∃ dir last, IsDirectoryPart dir ∧
      p.trimmed = last.reverse ++ dir.reverse ∧ (last = ['.'] ∨ last = ['.', '.']) := by
  have hsplit := List.takeWhile_append_dropWhile (p := fun c => c != '/') (l := p.trimmed)
  have hdir := IsDirectoryPart.of_dropWhile p.trimmed
  rw [fileName?] at h
  split at h
  next hname =>
    generalize p.trimmed.takeWhile (fun c => c != '/') = last at hsplit hname
    rcases hname with hname | hname
    · rw [List.reverse_eq_nil_iff.mp hname, List.nil_append] at hsplit
      cases htrimmed : p.trimmed with
      | nil => exact .inl rfl
      | cons c rest =>
          have hhead := List.head?_dropWhile_not (fun c => c != '/') p.trimmed
          rw [hsplit, htrimmed] at hhead
          obtain rfl : c = '/' := by simpa using hhead
          exact .inr (.inl (congrArg _ (dropTail_eq_slash htrimmed)))
    · refine .inr (.inr ⟨_, last.reverse, hdir, ?_, hname.symm⟩)
      rw [List.reverse_reverse, List.reverse_reverse, hsplit]
  next => cases h

/-- A path without a name ends in dots, or it has no components and is empty or the root. -/
theorem components_of_nameless {p : Path} (h : p.fileName? = none) :
    (∃ front last, p.components = front ++ [last] ∧ (last = "." ∨ last = "..")) ∨
      p.components = [] ∧ (p.text = "" ∨ p.isAbsolute = true) := by
  obtain ⟨dots, hdots, hcomponents⟩ := componentsOf_dropTail p.text.toList.reverse
  rw [List.reverse_reverse, ← components_eq] at hcomponents
  rcases List.eq_nil_or_concat dots with rfl | ⟨dots, dot, rfl⟩
  · rw [List.append_nil] at hcomponents
    change p.components = componentsOf p.trimmed.reverse at hcomponents
    rcases trimmed_of_nameless h with hnil | hroot | ⟨dir, last, hdir, hlast, hdots⟩
    · have htext := List.reverse_eq_nil_iff.mp (eq_nil_of_dropTail hnil)
      refine .inr ⟨by rw [hcomponents, hnil]; rfl, .inl ?_⟩
      rw [← String.toList_inj, htext]
      rfl
    · obtain ⟨behind, hbehind⟩ := dropTail_suffix p.text.toList.reverse
      have htext : p.text.toList = '/' :: behind.reverse := by
        change behind ++ p.trimmed = _ at hbehind
        rw [hroot] at hbehind
        simpa using (congrArg List.reverse hbehind).symm
      refine .inr ⟨by rw [hcomponents, hroot]; rfl, .inr ?_⟩
      rw [isAbsolute, htext]
      rfl
    · rw [hlast, List.reverse_append, List.reverse_reverse, List.reverse_reverse] at hcomponents
      refine .inl ⟨componentsOf dir, String.ofList last, ?_, ?_⟩
      · rcases hdots with rfl | rfl
        · rw [hcomponents, componentsOf_append_name hdir (by simp) (by simp)]
        · rw [hcomponents, componentsOf_append_name hdir (by simp) (by simp)]
      · rcases hdots with rfl | rfl
        · exact .inl rfl
        · exact .inr rfl
  · refine .inl ⟨componentsOf p.trimmed.reverse ++ dots, dot, ?_, .inl (hdots dot (by simp))⟩
    rw [hcomponents, List.concat_eq_append, List.append_assoc]
    rfl

end SessionKeeper.Path
