import SessionKeeper.Proofs.Noninterference.Runs

/-!
# Names stay on the machine, and secrets with the server

What two histories have in common that differ in the names given to registrations, and what those
have in common that differ in passwords and granted tokens.
-/

namespace SessionKeeper

/-! ## Names -/

/-- Any name may stand for any other. -/
def Variation.names : Variation where
  name _ _ := True
  token := Eq
  password := Eq
  name_refl _ := trivial
  token_refl _ := rfl
  password_refl _ := rfl
  sendable := .inl

theorem Credentials.Alike.eq_of_names {c d : Credentials} (h : c.Alike .names d) : c = d := by
  obtain ⟨hemail, hpassword⟩ := h
  cases c
  cases d
  cases hemail
  cases hpassword
  rfl

theorem Http.AuthorizationAlike.eq_of_names {value value' : Option String}
    (h : AuthorizationAlike .names value value') : value = value' := by
  cases h with
  | same => rfl
  | bearer htoken =>
      cases htoken
      rfl

theorem Http.BodyAlike.eq_of_names {body body' : Option String}
    (h : BodyAlike .names body body') : body = body' := by
  cases h with
  | same => rfl
  | credentials h => rw [h.eq_of_names]

/-- No part of a request is a name. -/
theorem Http.Request.Alike.eq_of_names {r q : Http.Request} (h : r.Alike .names q) : r = q := by
  obtain ⟨hmethod, hurl, hroute, hkey, hauthorization, hbody⟩ := h
  have hauthorization := hauthorization.eq_of_names
  have hbody := hbody.eq_of_names
  cases r
  cases q
  simp_all only

theorem World.Alike.requests_eq_of_names {σ : Type} [Store σ] [OpaqueStore σ] {w u : World σ}
    (h : w.Alike .names u) : w.requests = u.requests := by
  rw [← List.forall₂_eq_eq_eq]
  exact h.requests.imp fun _ _ => Http.Request.Alike.eq_of_names

namespace Encounter

/-- The same encounter, or one that registers the same user under another name. -/
inductive Renamed : Encounter → Encounter → Prop
  | same (m : Encounter) : Renamed m m
  | registration (credentials : Credentials) (name name' : Option String)
      (faults : List (Option StoreError)) (answers : List Http.Answer) :
      Renamed ⟨.call (.registerUser credentials name), faults, answers⟩
        ⟨.call (.registerUser credentials name'), faults, answers⟩

theorem Renamed.alike {m n : Encounter} (h : m.Renamed n) : m.Alike .names n := by
  cases h with
  | same => exact .refl m
  | registration credentials name name' =>
      exact ⟨.call (.registerUser (.refl credentials) trivial), rfl,
        List.forall₂_same.mpr fun a _ => .same a⟩

/-- The name of a user never leaves the machine. Let two histories of a client, over any store and
from any world, differ only in the names that are given to registrations. Step by step they send
exactly the same requests, and their replies and worlds agree but for the names of sessions. -/
theorem names_stay_local (c : ApiClient) {σ : Type} [Store σ] [OpaqueStore σ]
    {ms ns : List Encounter} (h : List.Forall₂ Renamed ms ns) (w : World σ) :
    List.Forall₂ (fun p q => p.world.requests = q.world.requests ∧ p.Alike .names q)
      (upshots c ms w) (upshots c ns w) := by
  have halike := upshots_alike c (h.imp fun _ _ => Renamed.alike) (.refl w)
  exact halike.imp fun _ _ hpq => ⟨hpq.world.requests_eq_of_names, hpq⟩

end Encounter

namespace Sample

/-- A client over an empty memory. -/
def fresh : World MemoryStore :=
  World.start .new .unreachable

/-- Somebody registers under a name, and starts the client again for a request. -/
def registration (name : Option String) : List Encounter :=
  [⟨.call (.registerUser credentials name), [], [grant]⟩, ⟨.restart, [], []⟩,
    ⟨.call .bootstrap, [], []⟩, ⟨.call (.get "profile"), [], [grant]⟩]

end Sample

/-- A name that looks like the end of a session with another token makes no difference. -/
theorem Encounter.names_stay_local_of_registration :
    List.Forall₂ (fun p q => p.world.requests = q.world.requests ∧ p.Alike .names q)
        (upshots Sample.client (Sample.registration (some "\",\"token\":\"u")) Sample.fresh)
        (upshots Sample.client (Sample.registration none) Sample.fresh) ∧
      (upshots Sample.client (Sample.registration none) Sample.fresh).map
          (fun p => p.world.requests.map (·.authorization)) =
        [[none], [none], [none], [none, some (Http.bearer "t")]] := by
  have hrenamed : List.Forall₂ Renamed (Sample.registration (some "\",\"token\":\"u"))
      (Sample.registration none) :=
    .cons (.registration ..) (.cons (.same _) (.cons (.same _) (.cons (.same _) .nil)))
  exact ⟨names_stay_local Sample.client hrenamed Sample.fresh, by decide +kernel⟩

/-! ## Passwords and tokens -/

/-- Any password may stand for any other, and any token that is sent for any other. -/
def Variation.secrets : Variation where
  name := Eq
  token s t := s = t ∨ Http.IsSendable s ∧ Http.IsSendable t
  password _ _ := True
  name_refl _ := rfl
  token_refl _ := .inl rfl
  password_refl _ := trivial
  sendable := id

/-- Secrets are told to the server and to nobody else. Let two histories of a client, over any store
and from any world, differ only in passwords and in tokens that are granted, each of which can be
sent. Step by step they report exactly the same events, their replies and worlds agree but for the
tokens, and their requests agree but for the password in the body and the token in the
authorization. -/
theorem Encounter.secrets_stay_secret (c : ApiClient) {σ : Type} [Store σ] [OpaqueStore σ]
    {ms ns : List Encounter} (h : List.Forall₂ (Encounter.Alike .secrets) ms ns) (w : World σ) :
    List.Forall₂ (fun p q => p.world.events = q.world.events ∧ p.Alike .secrets q)
      (upshots c ms w) (upshots c ns w) :=
  (upshots_alike c h (.refl w)).imp fun _ _ hpq => ⟨hpq.world.events, hpq⟩

namespace Sample

/-- Somebody signs in with a password, is granted a token, and makes a request. -/
def signingIn (password token : String) : List Encounter :=
  [⟨.call (.signIn ⟨"mail", password⟩), [],
      [.received 200 (.ok ("\x7b\"token\":\"" ++ token ++ "\"\x7d"))]⟩,
    ⟨.call (.get "profile"), [], [grant]⟩]

end Sample

/-- Two users of one address, each with a password and a token of their own. -/
theorem Encounter.secrets_stay_secret_of_signingIn :
    List.Forall₂ (fun p q => p.world.events = q.world.events ∧ p.Alike .secrets q)
        (upshots Sample.client (Sample.signingIn "p" "s") Sample.fresh)
        (upshots Sample.client (Sample.signingIn "q" "t") Sample.fresh) ∧
      (upshots Sample.client (Sample.signingIn "p" "s") Sample.fresh).map
          (fun p => p.world.requests.map (·.authorization)) =
        [[none], [none, some (Http.bearer "s")]] ∧
      (upshots Sample.client (Sample.signingIn "q" "t") Sample.fresh).map
          (fun p => p.world.requests.map (·.authorization)) =
        [[none], [none, some (Http.bearer "t")]] := by
  have hs : LoginResponse.parse ("\x7b\"token\":\"" ++ "s" ++ "\"\x7d") = .ok ⟨"s"⟩ := by
    decide +kernel
  have ht : LoginResponse.parse ("\x7b\"token\":\"" ++ "t" ++ "\"\x7d") = .ok ⟨"t"⟩ := by
    decide +kernel
  have hsendable : Http.IsSendable "s" ∧ Http.IsSendable "t" := by
    unfold Http.IsSendable
    decide +kernel
  have hgranted : Encounter.Alike .secrets
      ⟨.call (.signIn ⟨"mail", "p"⟩), [],
        [.received 200 (.ok ("\x7b\"token\":\"" ++ "s" ++ "\"\x7d"))]⟩
      ⟨.call (.signIn ⟨"mail", "q"⟩), [],
        [.received 200 (.ok ("\x7b\"token\":\"" ++ "t" ++ "\"\x7d"))]⟩ :=
    ⟨.call (.signIn ⟨rfl, trivial⟩), rfl,
      .cons (.granted (by decide) hs ht ⟨.inr hsendable⟩) .nil⟩
  exact ⟨secrets_stay_secret Sample.client (.cons hgranted (.cons (.refl _) .nil)) Sample.fresh,
    by decide +kernel, by decide +kernel⟩

end SessionKeeper
