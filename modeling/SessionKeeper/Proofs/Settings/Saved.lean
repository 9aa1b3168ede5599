import SessionKeeper.Environment
import SessionKeeper.Proofs.FileTree.Access
import SessionKeeper.Proofs.Settings.Document

/-!
# Settings that are saved and loaded

What was saved is what is loaded from the same path, and to save it once more leaves the tree as it
is. What was loaded from any file, or from none, survives being saved and loaded as well, and is
what the fields of the file describe.
-/

namespace SessionKeeper.Settings

open Json

variable {t u : FileTree} {path : Path} {s : Settings}

/-! ## Saving -/

/-- What saving leaves: the directories above the file, and the document in it. -/
structure Saved (s : Settings) (path : Path) (u : FileTree) : Prop where
  room : ∀ directory, path.parent? = some directory →
    directory.text = "" ∨ u.isDirectory directory = true
  name : path.wantsDirectory = false
  node : ∃ l, u.resolve path = .ok l ∧ u.node? l = some (.file s.render.toUTF8)

/-- A document is written where its directory is. -/
theorem saved_of_write (hroom : ∀ directory, path.parent? = some directory →
    directory.text = "" ∨ t.isDirectory directory = true)
    (h : t.write path s.render.toUTF8 = (.ok (), u)) : Saved s path u := by
  obtain ⟨hname, l, hl, hfile, rfl⟩ := FileTree.of_write h
  have hsame := t.sameDirectories_put_file hfile s.render.toUTF8
  exact ⟨fun directory hparent => (hroom directory hparent).imp_right hsame.isDirectory, hname, l,
    hsame.resolve hl, t.node?_put_self (FileTree.ne_root_of_node? hfile) _⟩

theorem saved_of_save (h : s.save t path = (.ok (), u)) : Saved s path u := by
  rw [save] at h
  split at h
  next hparent => exact saved_of_write (fun directory hd => by cases hparent.symm.trans hd) h
  next directory hparent =>
    split at h
    next => cases h
    next v hmade =>
      refine saved_of_write (fun other hother => ?_) h
      obtain rfl := Option.some.inj (hparent.symm.trans hother)
      exact FileTree.isDirectory_of_ensureDirectories hmade

theorem Saved.read_eq (h : Saved s path u) : u.read path = .ok s.render.toUTF8 := by
  obtain ⟨l, hl, hnode⟩ := h.node
  exact FileTree.read_of_node hl hnode h.name

/-- To save what was saved leaves everything as it is. -/
theorem Saved.save_eq (h : Saved s path u) : s.save u path = (.ok (), u) := by
  obtain ⟨l, hl, hnode⟩ := h.node
  have hfile : u.node? l ≠ some .directory := by simp [hnode]
  have hwrite : u.write path s.render.toUTF8 = (.ok (), u) := by
    rw [FileTree.write_of_resolve hl hfile h.name,
      FileTree.put_of_node? (FileTree.ne_root_of_node? hfile) hnode]
  rw [save]
  split
  next => exact hwrite
  next directory hparent =>
    rw [FileTree.ensureDirectories_of_isDirectory (h.room directory hparent)]
    exact hwrite

/-! ## Loading -/

/-- What is loaded from a text is what is read from it. -/
theorem load_eq_ok_iff_of_readText {text : String} (h : t.readText path = .ok text) :
    load t path = .ok s ↔ parse text = .ok s := by
  rw [load, if_pos (FileTree.pathExists_of_readText h), h]
  dsimp only
  cases parse text <;> simp

theorem Saved.load_eq (h : Saved s path u) (hs : s.timeoutSeconds < 2 ^ 64) :
    load u path = .ok s := by
  obtain ⟨l, hl, hnode⟩ := h.node
  rw [load_eq_ok_iff_of_readText (FileTree.readText_of_node hl hnode h.name)]
  exact parse_render hs

/-- What is loaded holds initially, or is what the fields of a text describe. -/
theorem load_eq_ok (h : load t path = .ok s) :
    t.pathExists path = false ∧ s = initial ∨
      ∃ text fields, t.readText path = .ok text ∧ HasFields keys fields text ∧
        Describes fields s := by
  by_cases hexists : t.pathExists path = true
  · rw [load, if_pos hexists] at h
    split at h
    next => cases h
    next text htext =>
      split at h
      next => cases h
      next hparse =>
        cases h
        obtain ⟨fields, hfields, hdescribes⟩ := describes_of_parse hparse
        exact .inr ⟨text, fields, htext, hfields, hdescribes⟩
  · rw [load, if_neg hexists] at h
    cases h
    exact .inl ⟨Bool.eq_false_iff.mpr hexists, rfl⟩

theorem timeoutSeconds_lt_of_load (h : load t path = .ok s) : s.timeoutSeconds < 2 ^ 64 := by
  obtain ⟨-, rfl⟩ | ⟨-, fields, -, -, hdescribes⟩ := load_eq_ok h
  · decide
  · exact hdescribes.timeoutSeconds_lt

/-! ## Round trips -/

/-- Settings that were saved are loaded again, and saved again they leave the same bytes. What was
loaded is what the file describes, with initial values for what it leaves out, whichever fields it
has, in whatever order and among whatever others; and it is loaded again after it was saved,
wherever that was. An object is accepted exactly if it describes settings. -/
theorem save_load_exact (t : FileTree) (path : Path) :
    (∀ s u, s.timeoutSeconds < 2 ^ 64 → s.save t path = (.ok (), u) →
      load u path = .ok s ∧ u.read path = .ok s.render.toUTF8 ∧ s.save u path = (.ok (), u)) ∧
    (∀ s, load t path = .ok s →
      (t.pathExists path = false ∧ s = initial ∨
        ∃ text fields, t.readText path = .ok text ∧ HasFields keys fields text ∧
          Describes fields s) ∧
      ∀ place v w, s.save v place = (.ok (), w) → load w place = .ok s) ∧
    ∀ s text fields, t.readText path = .ok text → IsObject fields text →
      (load t path = .ok s ↔ Describes fields s) := by
  refine ⟨fun s u hs hsave => ?_, fun s hload => ⟨load_eq_ok hload, fun place v w hsave => ?_⟩,
    fun s text fields htext hobject => ?_⟩
  · have hsaved := saved_of_save hsave
    exact ⟨hsaved.load_eq hs, hsaved.read_eq, hsaved.save_eq⟩
  · exact (saved_of_save hsave).load_eq (timeoutSeconds_lt_of_load hload)
  · rw [load_eq_ok_iff_of_readText htext, parse_eq_ok_iff hobject]

namespace Sample

/-- Settings with characters that have to be escaped, and with the greatest timeout. -/
def extreme : Settings :=
  ⟨"http://\u00e9\"\n\\", "", 18446744073709551615, .keychain, some ⟨"/tmp/\x01"⟩⟩

/-- The members of a file that gives one setting, behind something else. -/
def sparse : List (String × String) :=
  [("more", "\x7b"), ("store", "memory")]

/-- A tree with that file. -/
def sparseTree : FileTree :=
  FileTree.empty.put ["config.json"] (.file (objectOf sparse).pretty.toUTF8)

/-- The settings of that file. -/
def inMemory : Settings :=
  { initial with backend := .memory }

end Sample

/-- Awkward settings are saved where no directory is and loaded again; a file with one setting and
something else gives the initial values of the others, before it is saved over and after. -/
theorem save_load_exact_of_samples :
    (∃ u, Sample.extreme.save .empty ⟨"/c/config.json"⟩ = (.ok (), u) ∧
      load u ⟨"/c/config.json"⟩ = .ok Sample.extreme ∧
      Sample.extreme.save u ⟨"/c/config.json"⟩ = (.ok (), u)) ∧
    load Sample.sparseTree ⟨"/config.json"⟩ = .ok Sample.inMemory ∧
    (∃ w, Sample.inMemory.save Sample.sparseTree ⟨"/config.json"⟩ = (.ok (), w) ∧
      load w ⟨"/config.json"⟩ = .ok Sample.inMemory) ∧
    Describes (membersOf Sample.sparse) Sample.inMemory := by
  have hextreme : (Sample.extreme.save .empty ⟨"/c/config.json"⟩).1 = .ok () := by decide +kernel
  have hload : load Sample.sparseTree ⟨"/config.json"⟩ = .ok Sample.inMemory := by decide +kernel
  have hsave : (Sample.inMemory.save Sample.sparseTree ⟨"/config.json"⟩).1 = .ok () := by
    decide +kernel
  have htext : Sample.sparseTree.readText ⟨"/config.json"⟩ =
      .ok (objectOf Sample.sparse).pretty := by decide +kernel
  obtain ⟨hsaved, -, -⟩ := save_load_exact .empty ⟨"/c/config.json"⟩
  obtain ⟨-, hloaded, hdescribes⟩ := save_load_exact Sample.sparseTree ⟨"/config.json"⟩
  obtain ⟨hsame, -, hagain⟩ := hsaved _ _ (by decide) (Prod.ext hextreme rfl)
  obtain ⟨-, hkept⟩ := hloaded _ hload
  exact ⟨⟨_, Prod.ext hextreme rfl, hsame, hagain⟩, hload,
    ⟨_, Prod.ext hsave rfl, hkept _ _ _ (Prod.ext hsave rfl)⟩,
    (hdescribes _ _ _ htext (isObject_pretty Sample.sparse)).mp hload⟩

end SessionKeeper.Settings
