import FrontierBus.ClientProperties
import FrontierBus.Settings.Variables
import Mathlib.Data.List.Forall2

/-!
# Passwords

Nothing that is read, checked, shown or handed on depends on what the password is, as long as there
is one. So to exchange it before the settings are read is to exchange it in the settings, and in the
one property of a client that carries it.
-/

namespace FrontierBus

/-- The security with its password exchanged, if it has one. -/
def Security.withPassword (password : String) : Security → Security
  | plain => plain
  | tls authority certificate key => tls authority certificate key
  | sasl username _ => sasl username password

/-- The connection with its password exchanged, if it has one. -/
def Connection.withPassword (password : String) (connection : Connection) : Connection :=
  { connection with security := connection.security.withPassword password }

/-- The settings with their password exchanged, if they have one. -/
def Settings.withPassword (password : String) (settings : Settings) : Settings :=
  { settings with connection := settings.connection.withPassword password }

/-- The variables with the password given. -/
def Variables.withPassword (password : String) (values : Variables) : Variables :=
  fun which => if which = .saslPassword then some password else values which

variable {password other : String}

section Reading

namespace Variables

variable {values : Variables} {which : Variable}

@[simp]
theorem value?_withPassword (different : which ≠ .saslPassword) :
    (values.withPassword password).value? which = values.value? which := by
  simp [value?, withPassword, different]

@[simp]
theorem name_withPassword (different : which ≠ .saslPassword) (default : String) :
    (values.withPassword password).name which default = values.name which default := by
  simp [name, different]

@[simp]
theorem flag_withPassword (different : which ≠ .saslPassword) :
    (values.withPassword password).flag which = values.flag which := by
  simp [flag, different]

@[simp]
theorem number_withPassword (different : which ≠ .saslPassword) (bound : Nat) :
    (values.withPassword password).number which bound = values.number which bound := by
  simp [number, different]

theorem name_saslPassword (given : Text.allBlank password = false) (default : String) :
    (values.withPassword password).name .saslPassword default = password := by
  simp [name, value?, withPassword, given, Option.filter]

/-- The security is the same but for the password. -/
theorem security_withPassword (given : Text.allBlank password = false) (values : Variables) :
    (values.withPassword password).security =
      Security.withPassword password <$> values.security := by
  simp only [security, ne_eq, reduceCtorEq, not_false_eq_true, flag_withPassword,
    value?_withPassword, name_withPassword, name_saslPassword given]
  cases values.flag .enableTls with
  | error fault => rfl
  | ok tls =>
      cases values.flag .enableSasl with
      | error fault => rfl
      | ok sasl =>
          cases tls with
          | false =>
              cases sasl with
              | false => rfl
              | true => rfl
          | true =>
              cases sasl with
              | true => rfl
              | false =>
                  cases values.value? .certificatePath with
                  | none => rfl
                  | some directory => rfl

@[simp]
theorem compression_withPassword (password : String) (values : Variables) :
    (values.withPassword password).compression = values.compression := by
  simp [compression]

@[simp]
theorem endpoints_withPassword (password : String) (values : Variables) :
    (values.withPassword password).endpoints = values.endpoints := by
  simp [endpoints]

theorem connection_withPassword (given : Text.allBlank password = false) (values : Variables) :
    (values.withPassword password).connection =
      Connection.withPassword password <$> values.connection := by
  simp only [connection, compression_withPassword, ne_eq, reduceCtorEq, not_false_eq_true,
    number_withPassword, security_withPassword given, endpoints_withPassword, bind_pure_comp,
    Functor.map_map, map_bind]
  rfl

end Variables

theorem Settings.read_withPassword (given : Text.allBlank password = false) (values : Variables) :
    read (values.withPassword password) = Settings.withPassword password <$> read values := by
  simp only [read, Variables.connection_withPassword given, ne_eq, reduceCtorEq,
    not_false_eq_true, Variables.flag_withPassword, Variables.number_withPassword,
    Variables.name_withPassword, bind_pure_comp, bind_map_left, map_bind, Functor.map_map]
  rfl

end Reading

section Checking

variable (isFile : String → Bool) (given : password ≠ "") (otherGiven : other ≠ "")

include given otherGiven

theorem Security.check_withPassword (security : Security) :
    (security.withPassword password).check isFile =
      (security.withPassword other).check isFile := by
  cases security with
  | plain => rfl
  | tls authority certificate key => rfl
  | sasl username _ => simp [withPassword, check, files, hasCredentials, given, otherGiven]

theorem Connection.check_withPassword (connection : Connection) :
    (connection.withPassword password).check isFile =
      (connection.withPassword other).check isFile := by
  have same := connection.security.check_withPassword isFile given otherGiven
  simp only [check, withPassword, same]
  rfl

/-- Which password it is makes no difference to a check. -/
theorem Settings.check_withPassword (settings : Settings) :
    (settings.withPassword password).check isFile =
      (settings.withPassword other).check isFile := by
  have same := settings.connection.check_withPassword isFile given otherGiven
  simp only [check, withPassword, same]
  rfl

end Checking

theorem Security.shown_withPassword (password : String) (security : Security) :
    (security.withPassword password).shown = security.shown := by
  cases security with
  | plain => rfl
  | tls authority certificate key => rfl
  | sasl username _ => rfl

namespace ClientProperties

/-- The same properties in the same order, and the same texts but for the password. -/
def SameButPassword : Properties → Properties → Prop :=
  List.Forall₂ fun property changed =>
    changed.1 = property.1 ∧ (property.1 ≠ "sasl.password" → changed.2 = property.2)

variable {properties changed : Properties}

theorem SameButPassword.refl (properties : Properties) : SameButPassword properties properties := by
  apply List.forall₂_same.mpr
  intro property _
  exact ⟨rfl, fun _ => rfl⟩

theorem SameButPassword.append (same : SameButPassword properties changed) (own : Properties) :
    SameButPassword (properties ++ own) (changed ++ own) :=
  List.rel_append same (SameButPassword.refl own)

theorem base_withPassword (password : String) (connection : Connection) :
    SameButPassword (base connection) (base (connection.withPassword password)) := by
  have secured : SameButPassword (security connection.security)
      (security (connection.security.withPassword password)) := by
    cases connection.security with
    | plain => exact .refl _
    | tls authority certificate key => exact .refl _
    | sasl username previous => simp [SameButPassword, security, Security.withPassword]
  exact List.rel_append (SameButPassword.refl _) secured

/-- Clients of every kind are set up in the same way. -/
theorem client_withPassword (password : String) (connection : Connection) :
    let changed := connection.withPassword password
    SameButPassword (base connection) (base changed) ∧
      (∀ group client,
        SameButPassword (consumer connection group client) (consumer changed group client)) ∧
      SameButPassword (producer connection) (producer changed) ∧
      ∀ group, SameButPassword (probe connection group) (probe changed group) := by
  have same := base_withPassword password connection
  refine ⟨same, ?_, ?_, ?_⟩
  · intro group client
    exact same.append _
  · exact (same.append _).append _
  · intro group
    exact same.append _

end ClientProperties

namespace Settings

theorem withPassword_withPassword (password other : String) (settings : Settings) :
    (settings.withPassword password).withPassword other = settings.withPassword other := by
  simp only [withPassword, Connection.withPassword]
  cases settings.connection.security with
  | plain => rfl
  | tls authority certificate key => rfl
  | sasl username previous => rfl

theorem ne_empty_of_not_blank (notBlank : Text.allBlank password = false) : password ≠ "" := by
  rintro rfl
  cases notBlank

/-- To exchange the password that is read is to exchange it in the settings: both are the ones that
are read from the same variables, each with its own password. -/
theorem ofVariables_withPassword (isFile : String → Bool)
    (given : Text.allBlank password = false) (otherGiven : Text.allBlank other = false)
    (values : Variables) :
    ofVariables isFile (values.withPassword other) =
      (ofVariables isFile (values.withPassword password)).map (withPassword other) := by
  simp only [ofVariables, read_withPassword given, read_withPassword otherGiven]
  cases read values with
  | error fault => rfl
  | ok settings =>
      have checked := settings.check_withPassword isFile (ne_empty_of_not_blank otherGiven)
        (ne_empty_of_not_blank given)
      have replaced := settings.withPassword_withPassword password other
      change (do (settings.withPassword other).check isFile; return settings.withPassword other) =
        (do (settings.withPassword password).check isFile; return settings.withPassword password :
          Except Fault Settings).map (withPassword other)
      rw [checked]
      cases (settings.withPassword password).check isFile with
      | error fault => rfl
      | ok _ => exact congrArg Except.ok replaced.symm

theorem eq_withPassword_of_agree {first second : Variables}
    (agree : ∀ which, which ≠ .saslPassword → second which = first which)
    (given : second.value? .saslPassword = some password) :
    second = first.withPassword password ∧ Text.allBlank password = false := by
  simp only [Variables.value?, Option.filter_eq_some_iff, Bool.not_eq_true'] at given
  refine ⟨?_, given.2⟩
  funext which
  by_cases isPassword : which = .saslPassword
  · simp [Variables.withPassword, isPassword, given.1]
  · simp [Variables.withPassword, isPassword, agree which isPassword]

/-- Of two readings that are given different passwords and the same of all else, both fail for one
reason, or both succeed, with settings in which only the password differs. What may be shown of them
is the same, and so is every property of a client but the password. -/
theorem only_password_differs (isFile : String → Bool) {first second : Variables}
    (agree : ∀ which, which ≠ .saslPassword → second which = first which)
    (given : first.value? .saslPassword = some password)
    (otherGiven : second.value? .saslPassword = some other) :
    (∃ fault, ofVariables isFile first = .error fault ∧
      ofVariables isFile second = .error fault) ∨
    ∃ settings, ofVariables isFile first = .ok settings ∧
      let changed := settings.withPassword other
      ofVariables isFile second = .ok changed ∧
        changed.connection.security.shown = settings.connection.security.shown ∧
        ClientProperties.SameButPassword (ClientProperties.base settings.connection)
          (ClientProperties.base changed.connection) ∧
        (∀ group client, ClientProperties.SameButPassword
          (ClientProperties.consumer settings.connection group client)
          (ClientProperties.consumer changed.connection group client)) ∧
        ClientProperties.SameButPassword (ClientProperties.producer settings.connection)
          (ClientProperties.producer changed.connection) ∧
        ∀ group, ClientProperties.SameButPassword
          (ClientProperties.probe settings.connection group)
          (ClientProperties.probe changed.connection group) := by
  rcases eq_withPassword_of_agree (fun _ _ => rfl) given with ⟨isFirst, notBlank⟩
  rcases eq_withPassword_of_agree agree otherGiven with ⟨isSecond, otherNotBlank⟩
  have exchanged := ofVariables_withPassword isFile notBlank otherNotBlank first
  rw [← isFirst, ← isSecond] at exchanged
  cases outcome : ofVariables isFile first with
  | error fault =>
      rw [outcome] at exchanged
      exact .inl ⟨fault, rfl, exchanged⟩
  | ok settings =>
      rw [outcome] at exchanged
      exact .inr ⟨settings, rfl, exchanged, settings.connection.security.shown_withPassword other,
        ClientProperties.client_withPassword other settings.connection⟩

/-- Variables that ask for a name and a password. -/
def secured (password : String) : Variables :=
  .ofList [(.enableSasl, "on"), (.saslUsername, "crawler"), (.saslPassword, password)]

theorem only_password_differs_secured :
    (∀ which, which ≠ .saslPassword → secured "hunter2" which = secured "secret" which) ∧
      (secured "secret").value? .saslPassword = some "secret" ∧
      (secured "hunter2").value? .saslPassword = some "hunter2" ∧
      ∃ settings, ofVariables (fun _ => false) (secured "secret") = .ok settings ∧
        settings.connection.security = .sasl "crawler" "secret" ∧
        ofVariables (fun _ => false) (secured "hunter2") =
          .ok (settings.withPassword "hunter2") := by
  have agree : ∀ which, which ≠ .saslPassword →
      secured "hunter2" which = secured "secret" which := by
    intro which different
    have notPassword : (which == Variable.saslPassword) = false := by simp [different]
    simp [secured, Variables.ofList, List.lookup_cons, notPassword]
  have given : (secured "secret").value? .saslPassword = some "secret" := by decide +kernel
  have otherGiven : (secured "hunter2").value? .saslPassword = some "hunter2" := by
    decide +kernel
  have outcome : (ofVariables (fun _ => false) (secured "secret")).map
      (·.connection.security) = .ok (.sasl "crawler" "secret") := by
    decide +kernel
  rcases only_password_differs (fun _ => false) agree given otherGiven with
    ⟨fault, failed, _⟩ | ⟨settings, succeeded, changed, _⟩
  · simp [failed, Except.map] at outcome
  · rw [succeeded] at outcome
    exact ⟨agree, given, otherGiven, settings, succeeded, Except.ok.inj outcome, changed⟩

end Settings

end FrontierBus
