import SessionKeeper.Proofs.Json.Typed
import SessionKeeper.Settings

/-!
# The texts of settings

Settings are written as one text and can be read from many: with any of the five fields left out, in
any order and among others. Each field that a text gives, it gives once, and one that it does not
give has its initial value. So the text that settings are written as gives them again, whatever they
hold.
-/

namespace SessionKeeper.Settings

open Json

/-! ## The five fields -/

theorem reads_readPath : Reads readPath fun text path => Quotes text path.text where
  value := (reads_readText "path string").value
  sound h := by
    obtain ⟨⟨s, left⟩, hread, heq⟩ := map_eq_ok h
    cases heq
    exact (reads_readText "path string").sound hread
  complete htext hspace hstops := by
    rw [readPath, (reads_readText "path string").complete htext hspace hstops]
    rfl

theorem reads_readOptional_readPath :
    Reads (readOptional readPath) (OrNull fun text path => Quotes text path.text) := by
  refine reads_readPath.orNull ?_
  rintro text path ⟨inside, rfl, -⟩
  simp

/-- The slot of the server. -/
def baseUrlSlot : Slot Draft :=
  .of "base_url" true (·.baseUrl) (fun s d => { d with baseUrl := some s })
    fun _ => readText "a string"

/-- The slot of the key. -/
def apiKeySlot : Slot Draft :=
  .of "api_key" true (·.apiKey) (fun s d => { d with apiKey := some s })
    fun _ => readText "a string"

/-- The slot of the time that a request may take. -/
def timeoutSlot : Slot Draft :=
  .of "timeout_secs" true (·.timeoutSeconds) (fun n d => { d with timeoutSeconds := some n })
    fun _ => readBounded 64 "u64"

/-- The slot of the backend. -/
def backendSlot : Slot Draft :=
  .of "store" true (·.backend) (fun b d => { d with backend := some b }) Backend.read

/-- The slot of the directory. -/
def directorySlot : Slot Draft :=
  .of "data_dir" true (·.dataDirectory) (fun p d => { d with dataDirectory := some p })
    fun _ => readOptional readPath

theorem slots_shape :
    shape.slots = [baseUrlSlot, apiKeySlot, timeoutSlot, backendSlot, directorySlot] := rfl

section Slots

variable {depth : Nat}

theorem baseUrlSlot_keeps :
    baseUrlSlot.Keeps depth (·.baseUrl) (fun s d => { d with baseUrl := some s }) Quotes :=
  (reads_readText "a string").keeps fun _ _ => rfl

theorem apiKeySlot_keeps :
    apiKeySlot.Keeps depth (·.apiKey) (fun s d => { d with apiKey := some s }) Quotes :=
  (reads_readText "a string").keeps fun _ _ => rfl

theorem timeoutSlot_keeps :
    timeoutSlot.Keeps depth (·.timeoutSeconds) (fun n d => { d with timeoutSeconds := some n })
      (Counts 64) :=
  (reads_readBounded (Nat.le_refl 64) "u64").keeps fun _ _ => rfl

theorem backendSlot_keeps (hdepth : 1 < depth) :
    backendSlot.Keeps depth (·.backend) (fun b d => { d with backend := some b })
      (Chooses Backend.choices) :=
  Reads.keeps (reads_readChoice hdepth Backend.choices) fun _ _ => rfl

theorem directorySlot_keeps :
    directorySlot.Keeps depth (·.dataDirectory) (fun p d => { d with dataDirectory := some p })
      (OrNull fun text path => Quotes text path.text) :=
  reads_readOptional_readPath.keeps fun _ _ => rfl

/-- What fills one slot leaves what the others keep. -/
theorem fill_apart (hdepth : 1 < depth) {slot : Slot Draft} (hslot : slot ∈ shape.slots)
    {text : List Char} {fill : Draft → Draft} (htext : slot.Takes depth text fill) (d : Draft) :
    (slot.key ≠ "base_url" → (fill d).baseUrl = d.baseUrl) ∧
      (slot.key ≠ "api_key" → (fill d).apiKey = d.apiKey) ∧
      (slot.key ≠ "timeout_secs" → (fill d).timeoutSeconds = d.timeoutSeconds) ∧
      (slot.key ≠ "store" → (fill d).backend = d.backend) ∧
      (slot.key ≠ "data_dir" → (fill d).dataDirectory = d.dataDirectory) := by
  simp only [slots_shape, List.mem_cons, List.not_mem_nil, or_false] at hslot
  rcases hslot with rfl | rfl | rfl | rfl | rfl
  · obtain ⟨s, -, rfl⟩ := baseUrlSlot_keeps.takes_iff.mp htext
    exact ⟨fun h => absurd rfl h, fun _ => rfl, fun _ => rfl, fun _ => rfl, fun _ => rfl⟩
  · obtain ⟨s, -, rfl⟩ := apiKeySlot_keeps.takes_iff.mp htext
    exact ⟨fun _ => rfl, fun h => absurd rfl h, fun _ => rfl, fun _ => rfl, fun _ => rfl⟩
  · obtain ⟨n, -, rfl⟩ := timeoutSlot_keeps.takes_iff.mp htext
    exact ⟨fun _ => rfl, fun _ => rfl, fun h => absurd rfl h, fun _ => rfl, fun _ => rfl⟩
  · obtain ⟨b, -, rfl⟩ := (backendSlot_keeps hdepth).takes_iff.mp htext
    exact ⟨fun _ => rfl, fun _ => rfl, fun _ => rfl, fun h => absurd rfl h, fun _ => rfl⟩
  · obtain ⟨p, -, rfl⟩ := directorySlot_keeps.takes_iff.mp htext
    exact ⟨fun _ => rfl, fun _ => rfl, fun _ => rfl, fun _ => rfl, fun h => absurd rfl h⟩

variable (hdepth : 1 < depth)

include hdepth

theorem keeps_baseUrl : shape.Keeps depth baseUrlSlot (·.baseUrl)
    (fun s d => { d with baseUrl := some s }) Quotes where
  toKeeps := baseUrlSlot_keeps
  found := rfl
  blank := rfl
  apart _ hother hkey _ _ htext d := (fill_apart hdepth hother htext d).1 hkey

theorem keeps_apiKey : shape.Keeps depth apiKeySlot (·.apiKey)
    (fun s d => { d with apiKey := some s }) Quotes where
  toKeeps := apiKeySlot_keeps
  found := rfl
  blank := rfl
  apart _ hother hkey _ _ htext d := (fill_apart hdepth hother htext d).2.1 hkey

theorem keeps_timeoutSeconds : shape.Keeps depth timeoutSlot (·.timeoutSeconds)
    (fun n d => { d with timeoutSeconds := some n }) (Counts 64) where
  toKeeps := timeoutSlot_keeps
  found := rfl
  blank := rfl
  apart _ hother hkey _ _ htext d := (fill_apart hdepth hother htext d).2.2.1 hkey

theorem keeps_backend : shape.Keeps depth backendSlot (·.backend)
    (fun b d => { d with backend := some b }) (Chooses Backend.choices) where
  toKeeps := backendSlot_keeps hdepth
  found := rfl
  blank := rfl
  apart _ hother hkey _ _ htext d := (fill_apart hdepth hother htext d).2.2.2.1 hkey

theorem keeps_dataDirectory : shape.Keeps depth directorySlot (·.dataDirectory)
    (fun p d => { d with dataDirectory := some p })
    (OrNull fun text path => Quotes text path.text) where
  toKeeps := directorySlot_keeps
  found := rfl
  blank := rfl
  apart _ hother hkey _ _ htext d := (fill_apart hdepth hother htext d).2.2.2.2 hkey

theorem lawful_shape : shape.Lawful depth := by
  refine .of_keeps (by decide) fun slot hslot => ?_
  simp only [slots_shape, List.mem_cons, List.not_mem_nil, or_false] at hslot
  rcases hslot with rfl | rfl | rfl | rfl | rfl
  · exact ⟨_, _, _, _, keeps_baseUrl hdepth⟩
  · exact ⟨_, _, _, _, keeps_apiKey hdepth⟩
  · exact ⟨_, _, _, _, keeps_timeoutSeconds hdepth⟩
  · exact ⟨_, _, _, _, keeps_backend hdepth⟩
  · exact ⟨_, _, _, _, keeps_dataDirectory hdepth⟩

end Slots

/-! ## What is read -/

/-- Some fields describe settings: each setting is given once, or has its initial value. A backend
is given by its name, a time by a number of 64 bits, and a directory by a text or `null`. -/
structure Describes (fields : List (String × List Char)) (s : Settings) : Prop where
  baseUrl : OrInitial Quotes initial.baseUrl (textsOf "base_url" fields) s.baseUrl
  apiKey : OrInitial Quotes initial.apiKey (textsOf "api_key" fields) s.apiKey
  timeoutSeconds : OrInitial (Counts 64) initial.timeoutSeconds (textsOf "timeout_secs" fields)
    s.timeoutSeconds
  backend : OrInitial (Chooses Backend.choices) initial.backend (textsOf "store" fields) s.backend
  dataDirectory : OrInitial (OrNull fun text path => Quotes text path.text) initial.dataDirectory
    (textsOf "data_dir" fields) s.dataDirectory

theorem build_eq_ok_iff {d : Draft} {s : Settings} :
    shape.build d = .ok s ↔
      d.baseUrl.getD initial.baseUrl = s.baseUrl ∧ d.apiKey.getD initial.apiKey = s.apiKey ∧
        d.timeoutSeconds.getD initial.timeoutSeconds = s.timeoutSeconds ∧
        d.backend.getD initial.backend = s.backend ∧
        d.dataDirectory.getD initial.dataDirectory = s.dataDirectory := by
  obtain ⟨baseUrl, apiKey, timeoutSeconds, backend, dataDirectory⟩ := s
  simp [shape]

section Reading

variable {depth : Nat} (hdepth : 1 < depth) {fields : List (String × List Char)} {s : Settings}

include hdepth

theorem build_iff_describes {d : Draft} (htakes : shape.Takes depth fields shape.blank d) :
    shape.build d = .ok s ↔ Describes fields s := by
  rw [build_eq_ok_iff, (keeps_baseUrl hdepth).getD_eq_iff htakes,
    (keeps_apiKey hdepth).getD_eq_iff htakes, (keeps_timeoutSeconds hdepth).getD_eq_iff htakes,
    (keeps_backend hdepth).getD_eq_iff htakes, (keeps_dataDirectory hdepth).getD_eq_iff htakes]
  exact ⟨fun ⟨hurl, hkey, hsecs, hstore, hdir⟩ => ⟨hurl, hkey, hsecs, hstore, hdir⟩,
    fun h => ⟨h.baseUrl, h.apiKey, h.timeoutSeconds, h.backend, h.dataDirectory⟩⟩

theorem Describes.exists_takes (h : Describes fields s) :
    ∃ d, shape.Takes depth fields shape.blank d := by
  refine Shape.exists_takes (lawful_shape hdepth) fun slot hslot => ?_
  simp only [slots_shape, List.mem_cons, List.not_mem_nil, or_false] at hslot
  rcases hslot with rfl | rfl | rfl | rfl | rfl
  · exact h.baseUrl.given_or_nil.imp_right fun hgiven => (keeps_baseUrl hdepth).accepts hgiven
  · exact h.apiKey.given_or_nil.imp_right fun hgiven => (keeps_apiKey hdepth).accepts hgiven
  · exact h.timeoutSeconds.given_or_nil.imp_right fun hgiven =>
      (keeps_timeoutSeconds hdepth).accepts hgiven
  · exact h.backend.given_or_nil.imp_right fun hgiven => (keeps_backend hdepth).accepts hgiven
  · exact h.dataDirectory.given_or_nil.imp_right fun hgiven =>
      (keeps_dataDirectory hdepth).accepts hgiven

end Reading

theorem one_lt_depth : 1 < depthLimit - 1 := by decide

/-- An object is read as the settings that its members describe. -/
theorem parse_eq_ok_iff {fields : List (String × List Char)} {text : String}
    (hobject : IsObject fields text) {s : Settings} : parse text = .ok s ↔ Describes fields s :=
  Shape.readWhole_iff_of_build (lawful_shape one_lt_depth) hobject
    (fun h => build_iff_describes one_lt_depth h) fun h => h.exists_takes one_lt_depth

/-- The names of the settings in their order. -/
def keys : List String :=
  shape.slots.map fun slot => slot.key

/-- What is read is what the fields of the text describe. -/
theorem describes_of_parse {text : String} {s : Settings} (h : parse text = .ok s) :
    ∃ fields, HasFields keys fields text ∧ Describes fields s := by
  obtain ⟨fields, d, hfields, htakes, hbuild⟩ := Shape.exists_fields (lawful_shape one_lt_depth) h
  exact ⟨fields, hfields, (build_iff_describes one_lt_depth htakes).mp hbuild⟩

theorem Describes.timeoutSeconds_lt {fields : List (String × List Char)} {s : Settings}
    (h : Describes fields s) : s.timeoutSeconds < 2 ^ 64 :=
  h.timeoutSeconds.elim (by decide) Counts.lt

/-! ## What is written -/

/-- The members of the document of the settings. -/
def members (s : Settings) : List (String × Value) :=
  [("base_url", .text s.baseUrl), ("api_key", .text s.apiKey),
    ("timeout_secs", .number (.natural s.timeoutSeconds)), ("store", .text s.backend.label),
    ("data_dir", match s.dataDirectory with
      | none => .null
      | some path => .text path.text)]

theorem plain_members (s : Settings) : ∀ m ∈ s.members, m.2.Plain := by
  simp only [members, List.forall_mem_cons, List.not_mem_nil, false_implies, implies_true, and_true]
  refine ⟨.text _, .text _, .natural _, .text _, ?_⟩
  cases s.dataDirectory with
  | none => exact .null
  | some path => exact .text path.text

theorem isObject_render (s : Settings) : IsObject (writtenMembers s.members) s.render :=
  isObject_pretty_of_plain s.plain_members

theorem lookup_label (b : Backend) : Backend.choices.lookup b.label = some b := by
  cases b <;> decide

/-- The document of the settings describes them. -/
theorem describes_members {s : Settings} (h : s.timeoutSeconds < 2 ^ 64) :
    Describes (writtenMembers s.members) s where
  baseUrl := .given (quotes_writeString s.baseUrl)
  apiKey := .given (quotes_writeString s.apiKey)
  timeoutSeconds := .given ⟨denotes_toDigits s.timeoutSeconds, h⟩
  backend := .given (.name (quotes_writeString s.backend.label) (lookup_label s.backend))
  dataDirectory := by
    refine .given ?_
    cases s.dataDirectory with
    | none => exact .null
    | some path => exact .given (quotes_writeString path.text)

/-- Settings come back from the text that they are written as. -/
theorem parse_render {s : Settings} (h : s.timeoutSeconds < 2 ^ 64) : parse s.render = .ok s :=
  (parse_eq_ok_iff s.isObject_render).mpr (describes_members h)

end SessionKeeper.Settings
