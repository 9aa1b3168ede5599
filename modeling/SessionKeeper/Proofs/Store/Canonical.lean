import SessionKeeper.Proofs.Json.Members
import SessionKeeper.Proofs.Store.Footprint
import SessionKeeper.Proofs.Text.Order

/-!
# One document for a map of texts

Whatever led to it, a storage file that was written is the document of the texts that it holds: one
member for each key, in the order of their bytes. So histories of changes that end in the same texts
end in the same bytes, whatever they started from and however often the store was opened anew.
-/

namespace SessionKeeper

open Program

/-- How often the storage file was written, by what was reported. -/
def Disk.writings (d : Disk) : Nat :=
  d.events.countP fun event => event.message == "Storage file written"

namespace StorageFile

/-! ## Writing is reported -/

/-- A program that reports the writing of the file whenever it succeeds. -/
def Reports (p : Program fileSteps (Except StoreError Unit)) : Prop :=
  ∀ d, (p.run diskHandler d).1 = .ok () → 0 < (p.run diskHandler d).2.writings

theorem reports_andThen {rest : Program fileSteps (Except StoreError Unit)} (h : Reports rest)
    (answer : Except IoError Unit) : Reports (andThen rest answer) := by
  cases answer with
  | ok _ => exact h
  | error e => exact fun d hd => by cases hd

theorem reports_ask {step : FileStep}
    {resume : step.Answer → Program fileSteps (Except StoreError Unit)}
    (h : ∀ answer, Reports (resume answer)) : Reports (.ask step resume) :=
  fun _ => h _ _

theorem reports_publish (path : Path) (count : Nat) : Reports (publish path count) := by
  refine reports_ask fun answer => reports_andThen (fun d _ => ?_) answer
  change 0 < List.countP _ (_ :: d.events)
  simp

theorem reports_writePieces (path : Path) {rest : Program fileSteps (Except StoreError Unit)}
    (h : Reports rest) (pieces : List ByteArray) : Reports (writePieces path rest pieces) := by
  induction pieces with
  | nil => exact h
  | cons piece pieces ih => exact reports_ask fun answer => reports_andThen ih answer

theorem reports_save (f : StorageFile) (entries : Entries) : Reports (f.save entries) := by
  have hwrite : Reports (.ask (.truncate (sibling f.path)) <| andThen <|
      writePieces (sibling f.path) (publish f.path entries.size)
        (f.cut entries.render.toUTF8)) :=
    reports_ask fun answer =>
      reports_andThen (reports_writePieces _ (reports_publish f.path entries.size) _) answer
  rw [save, saveIn, makeRoom]
  split
  next => exact hwrite
  next => exact reports_ask fun answer => reports_andThen hwrite answer

/-! ## One change -/

/-- A change that succeeded wrote the document of the changed entries, or left the tree alone since
there was nothing to change. -/
theorem Edit.written_or_same {edit : Edit} {f : StorageFile} {t : FileTree} {d : Disk}
    (hcut : ∀ document, (f.cut document).foldl (fun bytes piece => bytes ++ piece) .empty =
      document)
    (h : (edit.program f).run diskHandler (.idle t) = (.ok (), d)) {entries : Entries}
    (hcontents : (FileStore.mk f.path t).contents = .ok entries) :
    0 < d.writings ∧ d.tree.readText f.path = .ok (edit.apply entries).render ∨
      d.writings = 0 ∧ d.tree = t ∧ edit.apply entries = entries := by
  have hsave {changed : Entries}
      (hok : ((f.save changed).run diskHandler ⟨t, [f.guard], []⟩).1 = .ok ()) :=
    And.intro (reports_save f changed _ hok) (readText_of_run_save hcut hok)
  rw [program_eq, run_guarded] at h
  obtain ⟨hok, rfl⟩ := Prod.mk.inj h
  change ofContent (t.readText f.path) = .ok entries at hcontents
  cases edit with
  | put key value =>
      rw [body, StorageFile.put, run_load, hcontents] at hok ⊢
      exact .inl (hsave hok)
  | erase key =>
      rw [body, StorageFile.erase, run_load, hcontents] at hok ⊢
      dsimp only at hok ⊢
      split at hok
      next hkey =>
        rw [if_pos hkey]
        exact .inl (hsave hok)
      next hkey =>
        have hnone : entries.get? key = none := by simpa [SortedMap.contains] using hkey
        rw [if_neg hkey]
        exact .inr ⟨rfl, rfl, SortedMap.erase_of_get?_eq_none hnone⟩

/-! ## Histories of changes -/

/-- Changes were made one after another and succeeded, each through a store that was open on the
path, be it the same as before or another, and nothing else was written in between. The number says
how often the file was written. -/
inductive History (path : Path) : FileTree → List Edit → Nat → FileTree → Prop
  | nil (t : FileTree) : History path t [] 0 t
  | cons {f : StorageFile} {edit : Edit} {edits : List Edit} {t u : FileTree} {d : Disk}
      {count : Nat} (hpath : f.path = path)
      (hcut : ∀ document, (f.cut document).foldl (fun bytes piece => bytes ++ piece) .empty =
        document)
      (hrun : (edit.program f).run diskHandler (.idle t) = (.ok (), d))
      (hrest : History path d.tree edits count u) :
      History path t (edit :: edits) (d.writings + count) u

variable {path : Path} {t u : FileTree} {edits : List Edit} {count : Nat}

/-- Where a change was made, the file could be read. -/
theorem History.exists_contents (h : History path t edits count u) (hcount : 0 < count) :
    ∃ start, (FileStore.mk path t).contents = .ok start := by
  cases h with
  | nil => cases hcount
  | @cons f edit _ _ _ _ _ hpath hcut hrun _ =>
      subst hpath
      obtain ⟨start, hstart, -⟩ := edit.contents_of_run hcut hrun
      exact ⟨start, hstart⟩

/-- The file holds what the changes make of what it held. Once it was written it is the document of
that; until then the tree is as it was. -/
theorem History.contents_of_start (h : History path t edits count u) {start : Entries}
    (hstart : (FileStore.mk path t).contents = .ok start) :
    (FileStore.mk path u).contents =
        .ok (edits.foldl (fun entries edit => edit.apply entries) start) ∧
      (0 < count → u.readText path =
        .ok (edits.foldl (fun entries edit => edit.apply entries) start).render) ∧
      (count = 0 → u = t) := by
  induction h generalizing start with
  | nil t => exact ⟨hstart, fun hcount => absurd hcount (Nat.lt_irrefl 0), fun _ => rfl⟩
  | @cons f edit edits t u d count hpath hcut hrun _ ih =>
      subst hpath
      rcases edit.written_or_same hcut hrun hstart with ⟨hwritten, htext⟩ | ⟨hnone, htree, hsame⟩
      · have hnext : (FileStore.mk f.path d.tree).contents = .ok (edit.apply start) := by
          rw [FileStore.contents, htext]
          exact decode_render _
        obtain ⟨hcontents, hlast, hstay⟩ := ih hnext
        refine ⟨hcontents, fun _ => ?_, by omega⟩
        -- if nothing was written later, the document of this change is still there
        rcases Nat.eq_zero_or_pos count with hzero | hpos
        · obtain rfl := hstay hzero
          rw [hnext] at hcontents
          rw [List.foldl_cons, ← Except.ok.inj hcontents]
          exact htext
        · exact hlast hpos
      · rw [htree] at ih
        obtain ⟨hcontents, hlast, hstay⟩ := ih hstart
        rw [List.foldl_cons, hsame, hnone, Nat.zero_add]
        exact ⟨hcontents, hlast, hstay⟩

/-! ## The document of a map -/

/-- The keys of a document are in the order of their bytes, each of them once. -/
theorem bytes_ascending (entries : Entries) :
    (entries.toList.map Prod.fst).Pairwise fun k l => Text.bytes k < Text.bytes l :=
  List.pairwise_map.mpr (entries.ascending.imp Text.bytes_lt_of_compare)

theorem isObject_render (entries : Entries) :
    Json.IsObject (Json.membersOf entries.toList) entries.render :=
  Json.isObject_pretty entries.toList

/-- Stores in which the same texts are found under all keys hold the same entries. -/
theorem eq_of_get_eq {s r : FileStore} {entries others : Entries}
    (hs : s.contents = .ok entries) (hr : r.contents = .ok others)
    (h : ∀ key, Store.get key s = Store.get key r) : entries = others := by
  refine SortedMap.eq_of_get?_eq fun key => ?_
  have hkey := h key
  rw [FileStore.get_of_contents hs, FileStore.get_of_contents hr] at hkey
  exact Except.ok.inj hkey

/-- The storage file is canonical. After changes that wrote it at least once it is the document of
what they make of the texts it held: an object with one member for each key, in the order of the
bytes of the keys, which is read back as these texts. Any other changes that wrote their file at
least once and end in the same texts end in the same bytes. -/
theorem file_canonical (h : History path t edits count u) (hcount : 0 < count) :
    ∃ start entries text, (FileStore.mk path t).contents = .ok start ∧
      edits.foldl (fun entries edit => edit.apply entries) start = entries ∧
      u.read path = .ok text.toUTF8 ∧ decode text = .ok entries ∧
      (∀ key, Store.get key (FileStore.mk path u) = .ok (entries.get? key)) ∧
      Json.IsObject (Json.membersOf entries.toList) text ∧
      (entries.toList.map Prod.fst).Pairwise (fun k l => Text.bytes k < Text.bytes l) ∧
      ∀ other v w edits' count', History other v edits' count' w → 0 < count' →
        (∀ key, Store.get key (FileStore.mk other w) = Store.get key (FileStore.mk path u)) →
        w.read other = .ok text.toUTF8 := by
  obtain ⟨start, hstart⟩ := h.exists_contents hcount
  obtain ⟨hcontents, htext, -⟩ := h.contents_of_start hstart
  refine ⟨start, _, _, hstart, rfl, FileTree.read_of_readText (htext hcount), decode_render _,
    FileStore.get_of_contents hcontents, isObject_render _, bytes_ascending _, ?_⟩
  intro other v w edits' count' h' hcount' hsame
  obtain ⟨start', hstart'⟩ := h'.exists_contents hcount'
  obtain ⟨hcontents', htext', -⟩ := h'.contents_of_start hstart'
  rw [← eq_of_get_eq hcontents' hcontents hsame]
  exact FileTree.read_of_readText (htext' hcount')

namespace Sample

/-- A document with a key given twice, its keys out of order, and white space. -/
def untidy : FileTree :=
  FileTree.empty.put ["storage.json"]
    (.file "\x7b\n\t\"b\":\"1\" , \"\u00e9\":\"0\",\"b\" : \"2\"\x7d ".toUTF8)

/-- What a change through a store leaves. -/
def after (f : StorageFile) (t : FileTree) (edit : Edit) : Disk :=
  ((edit.program f).run diskHandler (.idle t)).2

theorem run_eq_after {f : StorageFile} {t : FileTree} {edit : Edit}
    (h : ((edit.program f).run diskHandler (.idle t)).1 = .ok ()) :
    (edit.program f).run diskHandler (.idle t) = (.ok (), after f t edit) :=
  Prod.ext h rfl

/-- The untidy document after a change. -/
def tidied : Disk :=
  after first untidy (.put "a" "3")

/-- A file that was not there, after a text was put into it. -/
def begun : Disk :=
  after first .empty (.put "\u00e9" "0")

/-- The same file after a second text. -/
def continued : Disk :=
  after second begun.tree (.put "a" "3")

/-- The same file after a third text, which makes it hold what the tidied one holds. -/
def built : Disk :=
  after first continued.tree (.put "b" "2")

end Sample

/-- An untidy document is tidied by a single change, and comes to the bytes that the same texts come
to when they are put into an absent file in another order and through two stores. -/
theorem file_canonical_of_untidy :
    ∃ text : String, Sample.tidied.tree.read ⟨"storage.json"⟩ = .ok text.toUTF8 ∧
      Sample.built.tree.read ⟨"storage.json"⟩ = .ok text.toUTF8 := by
  have hcut (document : ByteArray) :
      ([document] : List ByteArray).foldl (fun bytes piece => bytes ++ piece) .empty =
        document := by simp
  have htidy : ((Edit.put "a" "3").program Sample.first).run diskHandler (.idle Sample.untidy) =
      (.ok (), Sample.tidied) := Sample.run_eq_after (by decide +kernel)
  have hbegin : ((Edit.put "\u00e9" "0").program Sample.first).run diskHandler (.idle .empty) =
      (.ok (), Sample.begun) := Sample.run_eq_after (by decide +kernel)
  have hcontinue : ((Edit.put "a" "3").program Sample.second).run diskHandler
      (.idle Sample.begun.tree) = (.ok (), Sample.continued) :=
    Sample.run_eq_after (by decide +kernel)
  have hbuild : ((Edit.put "b" "2").program Sample.first).run diskHandler
      (.idle Sample.continued.tree) = (.ok (), Sample.built) :=
    Sample.run_eq_after (by decide +kernel)
  have hwritten : 0 < Sample.tidied.writings ∧ 0 < Sample.begun.writings := by decide +kernel
  have hsame : (FileStore.mk ⟨"storage.json"⟩ Sample.built.tree).contents =
      (FileStore.mk ⟨"storage.json"⟩ Sample.tidied.tree).contents := by decide +kernel
  obtain ⟨_, _, text, -, -, hread, -, -, -, -, hothers⟩ :=
    file_canonical (.cons (f := Sample.first) rfl hcut htidy (.nil _)) (by omega)
  refine ⟨text, hread, hothers _ _ _ _ _ (.cons (f := Sample.first) rfl hcut hbegin
    (.cons (f := Sample.second) rfl hcut hcontinue (.cons (f := Sample.first) rfl hcut hbuild
      (.nil _)))) (by omega) (FileStore.get_congr hsame)⟩

end StorageFile

end SessionKeeper
