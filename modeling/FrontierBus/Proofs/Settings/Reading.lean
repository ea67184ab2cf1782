import FrontierBus.Settings.Variables

/-!
# Reading

Settings depend on variables only through what each is read as. So variables that are read alike
give the same settings, or none in either case; why they give none may differ, since a fault quotes
what is in a variable.
-/

namespace FrontierBus

/-- The variable names something, and blanks at the ends of its value belong to it. -/
def Variable.isName : Variable → Bool
  | certificatePath | saslUsername | saslPassword | feedTopic | logTopic | scoringTopic
  | statsTopic | logWriterGroup | logStrategyGroup | scoringGroup | feedGroup | statsGroup => true
  | endpoints | codec | maxBlock | enableTls | enableSasl | hostnamePartitioning | logPartitions
  | feedPartitions | scoringPartitions | statsPartitions | maxNextRequests | lagRefresh => false

section Results

variable {ε α β : Type}

theorem toOption_bind (result : Except ε α) (next : α → Except ε β) :
    (result >>= next).toOption = result.toOption.bind fun value => (next value).toOption := by
  cases result with
  | error fault => rfl
  | ok value => rfl

theorem toOption_pure (value : α) : (pure value : Except ε α).toOption = some value := rfl

theorem toOption_eq_some_iff {result : Except ε α} {value : α} :
    result.toOption = some value ↔ result = .ok value := by
  cases result with
  | error fault => simp [Except.toOption]
  | ok value => simp [Except.toOption]

end Results

namespace Settings

variable {isFile : String → Bool} {values : Variables} {settings : Settings} {fault : Fault}

theorem ofVariables_eq_ok_iff : ofVariables isFile values = .ok settings ↔
    read values = .ok settings ∧ settings.check isFile = .ok () := by
  simp only [← toOption_eq_some_iff, ofVariables, toOption_bind, toOption_pure,
    Option.bind_eq_some_iff, Option.some.injEq]
  constructor
  · rintro ⟨unchecked, isRead, _, valid, rfl⟩
    exact ⟨isRead, valid⟩
  · rintro ⟨isRead, valid⟩
    exact ⟨settings, isRead, (), valid, rfl⟩

/-- The codec is read first, so nothing is asked behind one that is refused. -/
theorem ofVariables_eq_error (isFile : String → Bool)
    (refused : values.compression = .error fault) : ofVariables isFile values = .error fault := by
  rw [ofVariables, read, Variables.connection, refused]
  rfl

/-- The endpoints stand in the first of the three readings that make up the connection. -/
theorem endpoints_of_read (isRead : read values = .ok settings) :
    settings.connection.endpoints = values.endpoints := by
  simp only [← toOption_eq_some_iff, read, Variables.connection, toOption_bind, toOption_pure,
    Option.bind_eq_some_iff, Option.some.injEq] at isRead
  rcases isRead with ⟨_, ⟨_, _, _, _, _, _, rfl⟩, _, _, _, _, _, _, _, _, _, _, _, _, _, _, rfl⟩
  rfl

end Settings

namespace Variables

/-- What is read from the variables, as far as it is read at all, is the same. The endpoints are
compared as such only, for their variable is read as nothing else. -/
structure ReadAlike (values other : Variables) : Prop where
  endpoints : other.endpoints = values.endpoints
  compression : other.compression.toOption = values.compression.toOption
  name : ∀ which, which.isName = true → other.value? which = values.value? which
  flag : ∀ which, which ≠ .endpoints → (other.flag which).toOption = (values.flag which).toOption
  number : ∀ which, which ≠ .endpoints → ∀ bound,
    (other.number which bound).toOption = (values.number which bound).toOption

namespace ReadAlike

variable {values other : Variables} (alike : ReadAlike values other)

include alike

theorem security : other.security.toOption = values.security.toOption := by
  simp (disch := decide) only [Variables.security, Variables.name, toOption_bind, alike.flag,
    alike.name]

theorem connection : other.connection.toOption = values.connection.toOption := by
  simp (disch := decide) only [Variables.connection, toOption_bind, toOption_pure,
    alike.compression, alike.number, alike.security, alike.endpoints]

theorem read : (Settings.read other).toOption = (Settings.read values).toOption := by
  simp (disch := decide) only [Settings.read, Variables.name, toOption_bind, toOption_pure,
    alike.connection, alike.flag, alike.number, alike.name]

/-- Variables that are read alike give the same settings. -/
theorem ofVariables_iff (isFile : String → Bool) (settings : Settings) :
    Settings.ofVariables isFile other = .ok settings ↔
      Settings.ofVariables isFile values = .ok settings := by
  rw [Settings.ofVariables_eq_ok_iff, Settings.ofVariables_eq_ok_iff, ← toOption_eq_some_iff,
    alike.read, toOption_eq_some_iff]

end ReadAlike

end Variables

end FrontierBus
