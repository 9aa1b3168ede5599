import SessionKeeper.Store.Basic

/-!
# The store in the keychain of the system

Each key is an entry of its own, filed under a service. An entry that is missing is an error of the
keychain; a store reads it as no text, and has nothing to do when it was to be removed. Opening an
entry can fail by itself, and a call can be cut short.
-/

namespace SessionKeeper

/-- The name of a keychain entry. -/
structure Account where
  service : String
  key : String
  deriving DecidableEq, Repr

namespace Account

/-- Accounts are ordered by service, then by key. -/
instance : Ord Account :=
  ⟨compareLex (compareOn Account.service) (compareOn Account.key)⟩

instance : Std.TransOrd Account :=
  inferInstanceAs (Std.TransCmp (compareLex (compareOn Account.service) (compareOn Account.key)))

instance : Std.LawfulEqOrd Account where
  compare_self := by
    intro a
    change compareLex (compareOn Account.service) (compareOn Account.key) a a = .eq
    simp [compareLex, compareOn]
  eq_of_compare := by
    intro a b h
    change compareLex (compareOn Account.service) (compareOn Account.key) a b = .eq at h
    simp only [compareLex, compareOn, Ordering.then_eq_eq, Std.LawfulEqOrd.compare_eq_iff_eq] at h
    cases a
    cases b
    simp_all

end Account

/-- How a keychain call goes wrong: with an error, or cut short. -/
inductive KeychainFault
  | error (e : KeychainError)
  | panic
  deriving DecidableEq, Repr

/-- The faults that calls of each kind meet. -/
structure KeychainFaults where
  opening : Option KeychainFault
  reading : Option KeychainFault
  writing : Option KeychainFault
  deleting : Option KeychainFault
  deriving DecidableEq, Repr, Inhabited

/-- No call meets a fault. -/
def KeychainFaults.none : KeychainFaults :=
  ⟨.none, .none, .none, .none⟩

/-- The keychain of the system. One that does not keep its entries forgets each as soon as it is
written. -/
structure Keychain where
  secrets : SortedMap Account ByteArray
  faults : KeychainFaults
  keeps : Bool
  deriving DecidableEq

namespace Keychain

/-- A keychain without entries. -/
def empty : Keychain :=
  ⟨.empty, .none, true⟩

instance : Inhabited Keychain := ⟨empty⟩

/-- Meets the fault that there may be. -/
def meet : Option KeychainFault → Except KeychainFault Unit
  | none => .ok ()
  | some fault => .error fault

/-- Opens an entry, which says nothing about whether it is there. -/
def opened (k : Keychain) : Except KeychainFault Unit :=
  meet k.faults.opening

/-- The password of an opened entry. -/
def password (k : Keychain) (a : Account) : Except KeychainFault String := do
  meet k.faults.reading
  match k.secrets.get? a with
  | none => .error (.error .noEntry)
  | some bytes =>
    match Text.decode bytes with
    | none => .error (.error .badEncoding)
    | some s => .ok s

/-- Puts bytes into an entry, whatever the faults. -/
def plant (k : Keychain) (a : Account) (bytes : ByteArray) : Keychain :=
  if k.keeps then { k with secrets := k.secrets.insert a bytes } else k

/-- Sets the password of an opened entry. -/
def setPassword (k : Keychain) (a : Account) (value : String) : Except KeychainFault Keychain := do
  meet k.faults.writing
  .ok (k.plant a value.toUTF8)

/-- Deletes an opened entry. -/
def delete (k : Keychain) (a : Account) : Except KeychainFault Keychain := do
  meet k.faults.deleting
  if k.secrets.contains a then .ok { k with secrets := k.secrets.erase a }
  else .error (.error .noEntry)

end Keychain

/-- A store that files its keys under a service of the keychain. -/
structure KeychainStore where
  service : String
  keychain : Keychain
  deriving DecidableEq

namespace KeychainStore

/-- The service of a store that is given none. -/
def defaultService : String := "alleasy"

/-- The entry of a key. -/
def account (s : KeychainStore) (key : String) : Account :=
  ⟨s.service, key⟩

/-- A fault as the store reports it. -/
def reportFault : KeychainFault → StoreError
  | .error e => .keychain e
  | .panic => .interrupted

/-- A change that did not succeed and left everything as it was. -/
def refuse (s : KeychainStore) (fault : KeychainFault) : Change KeychainStore :=
  ⟨.error (reportFault fault), s, []⟩

/-- A change that left another keychain. -/
def accept (s : KeychainStore) (keychain : Keychain) : Change KeychainStore :=
  ⟨.ok (), { s with keychain := keychain }, []⟩

/-- Reads an entry. One that is missing behind an opened entry holds no text. -/
def get (key : String) (s : KeychainStore) : Except StoreError (Option String) :=
  match s.keychain.opened with
  | .error fault => .error (reportFault fault)
  | .ok () =>
    match s.keychain.password (s.account key) with
    | .ok value => .ok (some value)
    | .error (.error .noEntry) => .ok none
    | .error fault => .error (reportFault fault)

/-- Writes an entry. -/
def set (key value : String) (s : KeychainStore) : Change KeychainStore :=
  match s.keychain.opened with
  | .error fault => s.refuse fault
  | .ok () =>
    match s.keychain.setPassword (s.account key) value with
    | .ok keychain => s.accept keychain
    | .error fault => s.refuse fault

/-- Removes an entry, unless it is missing. -/
def remove (key : String) (s : KeychainStore) : Change KeychainStore :=
  match s.keychain.opened with
  | .error fault => s.refuse fault
  | .ok () =>
    match s.keychain.delete (s.account key) with
    | .ok keychain => s.accept keychain
    | .error (.error .noEntry) => s.accept s.keychain
    | .error fault => s.refuse fault

instance : Store KeychainStore :=
  ⟨get, set, remove⟩

end KeychainStore

end SessionKeeper
