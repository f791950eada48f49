import LintEngine.Configuration.Basic

namespace LintEngine

structure OptionSpec where
  kind : OptionKind
  default : Option Value
  description : String

def builtInOptions : List String :=
  ["enabled", "severity", "include", "exclude"]

structure Settings where
  linter : String
  enabled : Bool
  severity : Severity
  included : Option (List String)
  excluded : List String
  options : Fields

namespace Settings

def get? (s : Settings) (option : String) : Option Value :=
  s.options.get? option

def require (s : Settings) (option : String) : Except Error Value :=
  match s.get? option with
  | some value => .ok value
  | none => .error (.undeclaredOption s.linter option)

def typed {α : Type} (s : Settings) (option : String) (expected : OptionKind)
    (extract : Value → Option α) : Except Error α := do
  let value ← s.require option
  match extract value with
  | some a => .ok a
  | none => .error (.wrongKind s.linter option expected value.kindName)

def bool (s : Settings) (option : String) : Except Error Bool :=
  s.typed option .boolean Value.asBool?

def signed (s : Settings) (option : String) : Except Error Int :=
  s.typed option .integer Value.asSigned?

def unsigned (s : Settings) (option : String) : Except Error Nat :=
  s.typed option .integer Value.asUnsigned?

def float (s : Settings) (option : String) : Except Error Float :=
  s.typed option .float Value.asFloat?

def string (s : Settings) (option : String) : Except Error String :=
  s.typed option .string Value.asString?

def strings (s : Settings) (option : String) : Except Error (List String) := do
  let value ← s.require option
  stringList option (some value)

end Settings

structure Schema where
  options : List (String × OptionSpec)

namespace Schema

def empty : Schema := ⟨[]⟩

def isEmpty (s : Schema) : Bool :=
  s.options.isEmpty

def get? (s : Schema) (option : String) : Option OptionSpec :=
  s.options.lookup option

def names (s : Schema) : List String :=
  s.options.map (·.1)

def add (s : Schema) (linter option : String) (spec : OptionSpec) : Except Error Schema :=
  if builtInOptions.contains option then .error (.reservedOption linter option)
  else if (s.get? option).isSome then .error (.repeatedOption linter option)
  else
    match spec.default with
    | some value =>
      if spec.kind.accepts value then .ok ⟨s.options ++ [(option, spec)]⟩
      else .error (.unsuitableDefault linter option spec.kind value.kindName)
    | none => .ok ⟨s.options ++ [(option, spec)]⟩

def ofDeclarations (linter : String) (declarations : List (String × OptionSpec)) :
    Except Error Schema :=
  declarations.foldlM (fun s d => s.add linter d.1 d.2) empty

/-- The value of a declared option: as given, else its default, else nothing. -/
def optionValue (raw : Fields) (option : String) (spec : OptionSpec) : Value :=
  ((raw.get? option).or spec.default).getD .null

def checkOption (linter : String) (raw : Fields) (declared : String × OptionSpec) :
    Except Error (String × Value) :=
  let value := optionValue raw declared.1 declared.2
  if declared.2.kind.accepts value then .ok (declared.1, value)
  else
    .error (.unsuitableOption linter declared.1 declared.2.kind value.kindName value.json)

def unknownKeys (s : Schema) (raw : Fields) : List String :=
  raw.keys.filter fun key => !builtInOptions.contains key && (s.get? key).isNone

def checkEnabled (linter : String) : Option Value → Except Error Bool
  | none => .ok false
  | some .null => .ok false
  | some (.bool b) => .ok b
  | some other => .error (.wrongKind linter "enabled" .boolean other.kindName)

def checkSeverity (linter : String) : Option Value → Except Error Severity
  | none => .ok .error
  | some .null => .ok .error
  | some (.string name) => .ok (.ofName name)
  | some other => .error (.wrongKind linter "severity" .string other.kindName)

def checkIncluded : Option Value → Except Error (Option (List String))
  | none => .ok none
  | some .null => .ok none
  | some value => (stringList "include" (some value)).map some

/-- Checks a raw map against a schema and fills in defaults. -/
def validate (s : Schema) (linter : String) (raw : Fields) : Except Error Settings := do
  let unknown := s.unknownKeys raw
  if !unknown.isEmpty then
    .error (.unknownOptions linter unknown (builtInOptions ++ s.names))
  else
    let options ← s.options.mapM (checkOption linter raw)
    let enabled ← checkEnabled linter (raw.get? "enabled")
    let severity ← checkSeverity linter (raw.get? "severity")
    let included ← checkIncluded (raw.get? "include")
    let excluded ← stringList "exclude" (raw.get? "exclude")
    .ok ⟨linter, enabled, severity, included, excluded, options⟩

end Schema

end LintEngine
