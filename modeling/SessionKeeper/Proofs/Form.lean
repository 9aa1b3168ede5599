import SessionKeeper.Proofs.Email

/-!
# What the forms accept

Each field of a form has a rule, and a rule can be broken in one way at a time: what is missing is
not called wrong as well. A form lists the broken rules in the order of its fields, each once, so it
is accepted exactly if none is broken. The two forms share the rules of the email address and of the
password.
-/

namespace SessionKeeper

/-! ## The fields -/

/-- The fields of the forms. -/
inductive FormField
  | name
  | email
  | password
  | confirmation
  deriving DecidableEq, Repr

/-- The place of a field in a form. -/
def FormField.place : FormField → Nat
  | .name => 0
  | .email => 1
  | .password => 2
  | .confirmation => 3

/-- The field that a problem is about. -/
def FormError.field : FormError → FormField
  | .nameRequired => .name
  | .emailRequired => .email
  | .emailInvalid => .email
  | .passwordRequired => .password
  | .passwordTooShort => .password
  | .confirmationRequired => .confirmation
  | .passwordMismatch => .confirmation

/-! ## The rules -/

/-- A text with a character that is no white space. -/
def HasInk (s : String) : Prop :=
  ∃ c ∈ s.toList, Text.isBlank c = false

/-- How the rule of a name is broken. -/
inductive NameBroken (s : String) : FormError → Prop
  | required (h : ¬ HasInk s) : NameBroken s .nameRequired

/-- How the rule of any other field is broken: nothing was given, or what was given is wrong. -/
inductive Broken (absent wrong : Prop) (required other : FormError) : FormError → Prop
  | missing (h : absent) : Broken absent wrong required other required
  | given (hgiven : ¬ absent) (h : wrong) : Broken absent wrong required other other

/-- How the rule of an email address is broken. -/
def EmailBroken (s : String) : FormError → Prop :=
  Broken (¬ HasInk s) (¬ Email.IsAddress s.toList) .emailRequired .emailInvalid

/-- How the rule of a password is broken. -/
def PasswordBroken (s : String) : FormError → Prop :=
  Broken (s = "") (s.length < 6) .passwordRequired .passwordTooShort

/-- How the rule of a password that is typed again is broken. -/
def ConfirmationBroken (password s : String) : FormError → Prop :=
  Broken (s = "") (s ≠ password) .confirmationRequired .passwordMismatch

/-- The rules that are broken in a form for signing in. -/
def LoginForm.Breaks (f : LoginForm) (e : FormError) : Prop :=
  EmailBroken f.email e ∨ PasswordBroken f.password e

/-- The rules that are broken in a form for registering. -/
def RegisterForm.Breaks (f : RegisterForm) (e : FormError) : Prop :=
  NameBroken f.name e ∨ EmailBroken f.email e ∨ PasswordBroken f.password e ∨
    ConfirmationBroken f.password f.confirmation e

/-! ## The checks -/

variable {s password : String} {e : FormError}

theorem allBlank_iff : Text.allBlank s = true ↔ ¬ HasInk s := by
  simp [Text.allBlank, HasInk]

/-- An address has an `@`, which is no white space. -/
theorem hasInk_of_isAddress (h : Email.IsAddress s.toList) : HasInk s := by
  obtain ⟨name, domain, hs, -⟩ := Email.isAddress_iff.mp h
  exact ⟨'@', by simp [hs], by decide⟩

theorem mem_check_iff {absent wrong : Prop} [Decidable absent] [Decidable wrong]
    {required other : FormError} :
    e ∈ (if absent then some required else if wrong then some other else none).toList ↔
      Broken absent wrong required other e := by
  rw [Option.mem_toList]
  split
  next habsent =>
    constructor
    · rintro ⟨⟩
      exact .missing habsent
    · rintro (_ | ⟨hgiven, _⟩)
      · rfl
      · exact absurd habsent hgiven
  next hgiven =>
    split
    next hwrong =>
      constructor
      · rintro ⟨⟩
        exact .given hgiven hwrong
      · rintro (habsent | _)
        · exact absurd habsent hgiven
        · rfl
    next hright =>
      refine ⟨nofun, ?_⟩
      rintro (habsent | ⟨_, hwrong⟩)
      · exact absurd habsent hgiven
      · exact absurd hwrong hright

theorem mem_checkEmail : e ∈ (Email.check s).toList ↔ EmailBroken s e := by
  have haddress : (!Email.isValid s) = true ↔ ¬ Email.IsAddress s.toList := by
    rw [Email.isAddress_iff, ← Email.isValid_eq_true_iff]
    simp
  rw [Email.check, mem_check_iff, EmailBroken, allBlank_iff, haddress]

theorem mem_checkPassword : e ∈ (Password.check s).toList ↔ PasswordBroken s e :=
  mem_check_iff

theorem mem_checkConfirmation :
    e ∈ (Password.checkConfirmation password s).toList ↔ ConfirmationBroken password s e :=
  mem_check_iff

theorem mem_checkName :
    e ∈ (if Text.allBlank s then [FormError.nameRequired] else []) ↔ NameBroken s e := by
  rw [List.mem_ite_nil_right, allBlank_iff, List.mem_singleton]
  constructor
  · rintro ⟨hink, rfl⟩
    exact .required hink
  · rintro ⟨hink⟩
    exact ⟨hink, rfl⟩

/-! ## What keeps the rules -/

theorem not_nameBroken_iff : (∀ e, ¬ NameBroken s e) ↔ HasInk s := by
  constructor
  · intro h
    by_contra hink
    exact h _ (.required hink)
  · rintro hink _ ⟨hnone⟩
    exact hnone hink

theorem not_broken_iff {absent wrong : Prop} {required other : FormError} :
    (∀ e, ¬ Broken absent wrong required other e) ↔ ¬ absent ∧ ¬ wrong := by
  constructor
  · intro h
    have hgiven : ¬ absent := fun habsent => h _ (.missing habsent)
    exact ⟨hgiven, fun hwrong => h _ (.given hgiven hwrong)⟩
  · rintro ⟨hgiven, hright⟩ _ (habsent | ⟨_, hwrong⟩)
    · exact hgiven habsent
    · exact hright hwrong

theorem ne_empty_of_length (h : 6 ≤ s.length) : s ≠ "" := by
  rintro rfl
  exact absurd h (by decide)

theorem not_emailBroken_iff : (∀ e, ¬ EmailBroken s e) ↔ Email.IsAddress s.toList := by
  simp only [EmailBroken]
  rw [not_broken_iff, not_not, not_not, and_iff_right_of_imp hasInk_of_isAddress]

theorem not_passwordBroken_iff : (∀ e, ¬ PasswordBroken s e) ↔ 6 ≤ s.length := by
  simp only [PasswordBroken]
  rw [not_broken_iff, Nat.not_lt, and_iff_right_of_imp ne_empty_of_length]

/-- A password that is not empty has to be typed again as it is. -/
theorem not_confirmationBroken_iff (hne : password ≠ "") :
    (∀ e, ¬ ConfirmationBroken password s e) ↔ s = password := by
  simp only [ConfirmationBroken]
  rw [not_broken_iff, not_not, and_iff_right_of_imp fun hsame => hsame ▸ hne]

/-! ## The lists -/

theorem LoginForm.mem_validate_iff (f : LoginForm) (e : FormError) :
    e ∈ f.validate ↔ f.Breaks e := by
  simp only [validate, Breaks, List.mem_append, mem_checkEmail, mem_checkPassword]

theorem RegisterForm.mem_validate_iff (f : RegisterForm) (e : FormError) :
    e ∈ f.validate ↔ f.Breaks e := by
  simp only [validate, Breaks, List.mem_append, mem_checkName, mem_checkEmail, mem_checkPassword,
    mem_checkConfirmation, or_assoc]

theorem LoginForm.validate_eq_nil_iff (f : LoginForm) :
    f.validate = [] ↔ Email.IsAddress f.email.toList ∧ 6 ≤ f.password.length := by
  rw [List.eq_nil_iff_forall_not_mem, ← not_emailBroken_iff, ← not_passwordBroken_iff]
  simp only [mem_validate_iff, Breaks, not_or, forall_and]

theorem RegisterForm.validate_eq_nil_iff (f : RegisterForm) :
    f.validate = [] ↔ Email.IsAddress f.email.toList ∧ 6 ≤ f.password.length ∧ HasInk f.name ∧
      f.confirmation = f.password := by
  rw [List.eq_nil_iff_forall_not_mem]
  simp only [mem_validate_iff, Breaks, not_or, forall_and, not_nameBroken_iff, not_emailBroken_iff,
    not_passwordBroken_iff]
  constructor
  · rintro ⟨hname, hemail, hpassword, hconfirmation⟩
    exact ⟨hemail, hpassword, hname,
      (not_confirmationBroken_iff (ne_empty_of_length hpassword)).mp hconfirmation⟩
  · rintro ⟨hemail, hpassword, hname, hconfirmation⟩
    exact ⟨hname, hemail, hpassword,
      (not_confirmationBroken_iff (ne_empty_of_length hpassword)).mpr hconfirmation⟩

/-! ## The order of the fields -/

theorem NameBroken.field (h : NameBroken s e) : e.field = .name := by
  cases h
  rfl

theorem Broken.field {absent wrong : Prop} {required other : FormError} {field : FormField}
    (h : Broken absent wrong required other e) (hrequired : required.field = field)
    (hother : other.field = field) : e.field = field := by
  cases h with
  | missing => exact hrequired
  | given => exact hother

theorem EmailBroken.field (h : EmailBroken s e) : e.field = .email :=
  Broken.field h rfl rfl

theorem PasswordBroken.field (h : PasswordBroken s e) : e.field = .password :=
  Broken.field h rfl rfl

theorem ConfirmationBroken.field (h : ConfirmationBroken password s e) :
    e.field = .confirmation :=
  Broken.field h rfl rfl

/-- At most one problem for each field, in the order of the fields. -/
def InOrder (errors : List FormError) : Prop :=
  errors.Pairwise fun a b => a.field.place < b.field.place

theorem inOrder_toList (problem : Option FormError) : InOrder problem.toList := by
  cases problem with
  | none => exact .nil
  | some e => exact List.pairwise_singleton _ e

theorem LoginForm.inOrder_validate (f : LoginForm) : InOrder f.validate := by
  refine List.pairwise_append.mpr ⟨inOrder_toList _, inOrder_toList _, fun a ha b hb => ?_⟩
  rw [mem_checkEmail] at ha
  rw [mem_checkPassword] at hb
  rw [ha.field, hb.field]
  decide

/-- The form for registering lists the problems of the form for signing in between those of the name
and of the confirmation. -/
theorem RegisterForm.validate_eq (f : RegisterForm) :
    f.validate = (if Text.allBlank f.name then [.nameRequired] else []) ++
      (LoginForm.validate ⟨f.email, f.password⟩ ++
        (Password.checkConfirmation f.password f.confirmation).toList) := by
  simp only [validate, LoginForm.validate, List.append_assoc]

theorem LoginForm.Breaks.field {f : LoginForm} (h : f.Breaks e) :
    e.field = .email ∨ e.field = .password :=
  h.imp EmailBroken.field PasswordBroken.field

theorem RegisterForm.inOrder_validate (f : RegisterForm) : InOrder f.validate := by
  have hname : InOrder (if Text.allBlank f.name then [.nameRequired] else []) := by
    split
    next => exact List.pairwise_singleton _ _
    next => exact .nil
  rw [validate_eq]
  refine List.pairwise_append.mpr ⟨hname, List.pairwise_append.mpr
    ⟨LoginForm.inOrder_validate _, inOrder_toList _, fun a ha b hb => ?_⟩, fun a ha b hb => ?_⟩
  · rw [LoginForm.mem_validate_iff] at ha
    rw [mem_checkConfirmation] at hb
    rw [hb.field]
    rcases ha.field with hfield | hfield <;> rw [hfield] <;> decide
  · rw [mem_checkName] at ha
    rw [List.mem_append, LoginForm.mem_validate_iff, mem_checkConfirmation] at hb
    rw [ha.field]
    rcases hb with hb | hb
    · rcases hb.field with hfield | hfield <;> rw [hfield] <;> decide
    · rw [hb.field]
      decide

/-- Whether a problem is about a field that the form for signing in has. -/
def FormError.isOfLogin (e : FormError) : Bool :=
  e.field == .email || e.field == .password

theorem RegisterForm.filter_validate (f : RegisterForm) :
    f.validate.filter FormError.isOfLogin = LoginForm.validate ⟨f.email, f.password⟩ := by
  have hname : (if Text.allBlank f.name then [.nameRequired] else []).filter
      FormError.isOfLogin = [] := by
    refine List.filter_eq_nil_iff.mpr fun e he => ?_
    rw [mem_checkName] at he
    simp [FormError.isOfLogin, he.field]
  have hlogin : (LoginForm.validate ⟨f.email, f.password⟩).filter FormError.isOfLogin =
      LoginForm.validate ⟨f.email, f.password⟩ := by
    refine List.filter_eq_self.mpr fun e he => ?_
    rw [LoginForm.mem_validate_iff] at he
    simpa [FormError.isOfLogin] using he.field
  have hconfirmation : (Password.checkConfirmation f.password f.confirmation).toList.filter
      FormError.isOfLogin = [] := by
    refine List.filter_eq_nil_iff.mpr fun e he => ?_
    rw [mem_checkConfirmation] at he
    simp [FormError.isOfLogin, he.field]
  rw [validate_eq, List.filter_append, List.filter_append, hname, hlogin, hconfirmation,
    List.append_nil, List.nil_append]

/-! ## Both forms -/

/-- The forms accept exactly what keeps their rules: an address and a password of six characters or
more, and for registering a name with anything but white space and the same password again. What
they list are the broken rules, at most one for each field and in the order of the fields; without
the name and the confirmation, registering lists what signing in does. -/
theorem forms_exact :
    (∀ f : LoginForm,
      (f.validate = [] ↔ Email.IsAddress f.email.toList ∧ 6 ≤ f.password.length) ∧
      (∀ e, e ∈ f.validate ↔ f.Breaks e) ∧ InOrder f.validate) ∧
    ∀ f : RegisterForm,
      (f.validate = [] ↔ Email.IsAddress f.email.toList ∧ 6 ≤ f.password.length ∧ HasInk f.name ∧
        f.confirmation = f.password) ∧
      (∀ e, e ∈ f.validate ↔ f.Breaks e) ∧ InOrder f.validate ∧
      f.validate.filter FormError.isOfLogin = LoginForm.validate ⟨f.email, f.password⟩ :=
  ⟨fun f => ⟨f.validate_eq_nil_iff, f.mem_validate_iff, f.inOrder_validate⟩,
    fun f => ⟨f.validate_eq_nil_iff, f.mem_validate_iff, f.inOrder_validate, f.filter_validate⟩⟩

example : RegisterForm.validate ⟨"\u2003", "", "ééééé", ""⟩ =
    [.nameRequired, .emailRequired, .passwordTooShort, .confirmationRequired] := by
  decide

end SessionKeeper
