import LintEngine.Error
import LintEngine.Severity
import LintEngine.Value.Json
import LintEngine.Value.Merge
import LintEngine.Yaml.Reader

namespace LintEngine

/-- A list of strings in a configuration: a single string counts as a list of one, and nothing as
an empty list. -/
def stringList (key : String) : Option Value → Except Error (List String)
  | none => .ok []
  | some .null => .ok []
  | some (.string s) => .ok [s]
  | some (.array items) =>
    items.mapM fun item =>
      match item with
      | .string s => .ok s
      | other => .error (.notOnlyStrings key other.kindName)
  | some other => .error (.notAStringList key other.kindName)

structure Configuration where
  fields : Fields
  path : Option Path

namespace Configuration

def empty : Configuration := ⟨[], none⟩

def extendsKey : String := "extends"

def pluginsKey : String := "linter_plugins"

def ofValue : Value → Except ConfigurationFault Configuration
  | .map fields => .ok ⟨fields, none⟩
  | .null => .ok empty
  | other => .error (.notAMap other.kindName)

def ofJson (text : String) : Except ConfigurationFault Configuration :=
  match Jsonc.read text with
  | .ok value => ofValue (value.getD .null)
  | .error report => .error (.json report)

def ofYaml (text : String) : Except ConfigurationFault Configuration :=
  if text.toList.all Text.isBlank then .ok empty
  else
    match Yaml.read text with
    | .ok value => ofValue value
    | .error fault => .error (.yaml fault)

def ofText (path : Path) (text : String) : Except ConfigurationFault Configuration :=
  if path.extension? = some "yaml" || path.extension? = some "yml" then ofYaml text
  else ofJson text

def get? (c : Configuration) (key : String) : Option Value :=
  c.fields.get? key

def contains (c : Configuration) (key : String) : Bool :=
  c.fields.contains key

def set (c : Configuration) (key : String) (value : Value) : Configuration :=
  { c with fields := c.fields.insert key value }

def erase (c : Configuration) (key : String) : Configuration :=
  { c with fields := c.fields.erase key }

def getString? (c : Configuration) (key : String) : Option String :=
  (c.get? key).bind Value.asString?

def strings (c : Configuration) (key : String) : Except Error (List String) :=
  stringList key (c.get? key)

def severity (c : Configuration) (key : String) (default : Severity) : Severity :=
  match c.getString? key with
  | some name => .ofName name
  | none => default

def directory (c : Configuration) : Path :=
  (c.path.bind Path.parent?).getD ⟨""⟩

def merge (lower upper : Configuration) : Configuration :=
  ⟨lower.fields.merge upper.fields, upper.path.or lower.path⟩

def same (a b : Configuration) : Bool :=
  (Value.map a.fields).same (.map b.fields)

def linterFields (c : Configuration) (linter : String) : Fields :=
  match (c.get? "linters").bind Value.asMap? with
  | some linters => ((linters.get? linter).bind Value.asMap?).getD []
  | none => []

def forLinter (c : Configuration) (linter : String) : Fields :=
  let fields := c.linterFields linter
  if (fields.get? "severity").all Value.isNull then
    fields.insert "severity" ((c.get? "default_severity").getD (.string Severity.error.name))
  else fields

end Configuration

end LintEngine
