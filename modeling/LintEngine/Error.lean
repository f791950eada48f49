import LintEngine.FileTree.Basic
import LintEngine.Glob.Match
import LintEngine.Jsonc.Reader
import LintEngine.Options.Kind
import LintEngine.Text.Encoding
import LintEngine.Yaml.Cursor

namespace LintEngine

/-- What an error is about. -/
inductive Category where
  | application
  | configurationParse
  | configurationFile
  | extendsCycle
  | linterConfiguration
  | optionSpecification
  | linterLoad
  | noLinters
  | noSuchLinter
  | filePath
  | filePattern
  | formatterLoad
  | commandLine
  | preprocessor
  | inputOutput
  | internal
  | abortion
deriving DecidableEq, Repr

namespace Category

def exitStatus : Category → Nat
  | application | configurationParse | configurationFile | extendsCycle | linterConfiguration
  | optionSpecification | linterLoad | noLinters => 78
  | noSuchLinter | filePath | filePattern | formatterLoad | commandLine => 64
  | preprocessor => 84
  | inputOutput | internal => 70
  | abortion => 101

/-- The code under which errors of a category are documented. -/
def code : Category → String
  | application => "lintrap::application"
  | configurationParse => "lintrap::config::parse"
  | configurationFile => "lintrap::config::not_found"
  | extendsCycle => "lintrap::config::extends_cycle"
  | linterConfiguration => "lintrap::config::linter"
  | optionSpecification => "lintrap::config::option_spec"
  | linterLoad => "lintrap::config::plugin"
  | noLinters => "lintrap::config::no_linters"
  | noSuchLinter => "lintrap::usage::no_such_linter"
  | filePath => "lintrap::usage::path"
  | filePattern => "lintrap::usage::pattern"
  | formatterLoad => "lintrap::usage::formatter"
  | commandLine => "lintrap::usage::cli"
  | preprocessor => "lintrap::preprocessor"
  | inputOutput => "lintrap::io"
  | internal => "lintrap::internal"
  | abortion => "lintrap::abort"

def help? : Category → Option String
  | extendsCycle => some "remove one of the \x60extends\x60 entries to break the cycle"
  | _ => none

def leadIn : Category → String
  | application => "Application configuration error: "
  | inputOutput => "I/O error: "
  | internal => "Internal error: "
  | _ => ""

end Category

inductive ConfigurationFault where
  | notAMap (kind : String)
  | json (report : Jsonc.Report)
  | yaml (fault : Yaml.Fault)
  | text (message : String)
deriving DecidableEq, Repr

def ConfigurationFault.message : ConfigurationFault → String
  | notAMap kind => "expected a map at the top level, found " ++ kind
  | json report => report.message
  | yaml fault => fault.message
  | text message => message

inductive StartFault where
  | nulInCommand
  | commandTooLong
deriving DecidableEq, Repr

def StartFault.message : StartFault → String
  | nulInCommand => "nul byte found in provided data"
  | commandTooLong => "Argument list too long (os error 7)"

inductive CommandFault where
  | notStarted (fault : StartFault)
  | exited (status : Nat)
  | killed
  | notText (fault : Text.EncodingFault)
deriving DecidableEq, Repr

def CommandFault.message : CommandFault → String
  | notStarted fault => "unable to start command: " ++ fault.message
  | exited status => s!"returned an exit status of {status}"
  | killed => "returned an exit status of a signal"
  | notText fault => "output is not UTF-8: " ++ fault.message

inductive PatternList where
  | included
  | excluded
deriving DecidableEq, Repr

def PatternList.key : PatternList → String
  | included => "include"
  | excluded => "exclude"

/-- A cause for ending a run. -/
inductive Error where
  | missingAttribute (name : String)
  | malformedConfiguration (path : Path) (fault : ConfigurationFault)
  | unreadableConfiguration (path : Path) (reason : FileError)
  | extendsCycle (chain : List Path)
  | notOnlyStrings (key kind : String)
  | notAStringList (key kind : String)
  | unknownOptions (linter : String) (unknown available : List String)
  | unsuitableOption (linter option : String) (expected : OptionKind) (kind text : String)
  | wrongKind (linter option : String) (expected : OptionKind) (kind : String)
  | undeclaredOption (linter option : String)
  | linterPattern (list : PatternList) (linter : String) (fault : Glob.Fault)
  | timeLimit (text : String)
  | timeLimitTooLong
  | unnamedLinter
  | reservedOption (linter option : String)
  | repeatedOption (linter option : String)
  | unsuitableDefault (linter option : String) (expected : OptionKind) (kind : String)
  | repeatedLinter (name : String)
  | repeatedPlugin (name : String)
  | unknownPlugin (name : String)
  | requestedExcluded
  | noneEnabled
  | enabledExcluded
  | noSuchLinter (name : String)
  | missingPath (path : Path)
  | missingExcludedPath (path : Path)
  | unreadableFile (path : Path) (reason : FileError)
  | invalidPattern (fault : Glob.Fault)
  | unmatchedPattern (pattern : String)
  | unknownFormatter (name : String) (available : List String)
  | outputFile (path : Path) (formatter : String) (reason : FileError)
  | invalidConcurrency (text : String)
  | preprocessing (command : String) (path : Path) (fault : CommandFault)
  | unreadableInput
  | reported (category : Category) (message : String)
deriving DecidableEq, Repr

namespace Error

def category : Error → Category
  | missingAttribute _ => .application
  | malformedConfiguration _ _ => .configurationParse
  | unreadableConfiguration _ _ => .configurationFile
  | extendsCycle _ => .extendsCycle
  | notOnlyStrings _ _ | notAStringList _ _ | unknownOptions _ _ _ | unsuitableOption _ _ _ _ _
  | wrongKind _ _ _ _ | undeclaredOption _ _ | linterPattern _ _ _ | timeLimit _ =>
    .linterConfiguration
  | timeLimitTooLong => .abortion
  | unnamedLinter | reservedOption _ _ | repeatedOption _ _ | unsuitableDefault _ _ _ _ =>
    .optionSpecification
  | repeatedLinter _ | repeatedPlugin _ | unknownPlugin _ => .linterLoad
  | requestedExcluded | noneEnabled | enabledExcluded => .noLinters
  | noSuchLinter _ => .noSuchLinter
  | missingPath _ | missingExcludedPath _ | unreadableFile _ _ => .filePath
  | invalidPattern _ | unmatchedPattern _ => .filePattern
  | unknownFormatter _ _ | outputFile _ _ _ => .formatterLoad
  | invalidConcurrency _ => .commandLine
  | preprocessing _ _ _ => .preprocessor
  | unreadableInput => .inputOutput
  | reported category _ => category

def exitStatus (e : Error) : Nat :=
  e.category.exitStatus

def chainText (chain : List Path) : String :=
  " -> ".intercalate (chain.map Path.text)

def listing (names : List String) : String :=
  ", ".intercalate names

/-- What is wrong, without the words that all errors of the category start with. -/
def reason : Error → String
  | missingAttribute name => s!"\x60{name}\x60 must be defined"
  | malformedConfiguration path fault =>
    s!"Unable to parse configuration from '{path.text}': {fault.message}"
  | unreadableConfiguration path reason =>
    s!"Unable to load configuration from '{path.text}': {reason.message}"
  | extendsCycle chain => s!"Configuration extends itself: {chainText chain}"
  | notOnlyStrings key kind => s!"\x60{key}\x60 must contain only strings, but found {kind}"
  | notAStringList key kind =>
    s!"\x60{key}\x60 must be a string or a list of strings, but was {kind}"
  | unknownOptions linter unknown available =>
    "Unknown configuration " ++ (if unknown.length = 1 then "option" else "options") ++
      s!" for {linter}: {listing unknown}\nAvailable options: {listing available}"
  | unsuitableOption linter option expected kind text =>
    s!"Option \x60{option}\x60 for linter {linter} must be of type {expected.name}, " ++
      s!"but was {kind} ({text})"
  | wrongKind linter option expected kind =>
    s!"Option \x60{option}\x60 for linter {linter} must be of type {expected.name}, " ++
      s!"but was {kind}"
  | undeclaredOption linter option =>
    s!"Linter {linter} does not declare an option named \x60{option}\x60"
  | linterPattern list linter fault =>
    s!"Invalid \x60{list.key}\x60 for linter {linter}: {fault.message}"
  | timeLimit text =>
    s!"\x60linter_timeout\x60 must be a positive number of seconds, but was {text}"
  | timeLimitTooLong => "\x60linter_timeout\x60 is too long"
  | unnamedLinter => "Linter name must not be empty"
  | reservedOption linter option =>
    s!"Option \x60{option}\x60 on linter {linter} conflicts with a built-in option"
  | repeatedOption linter option =>
    s!"Option \x60{option}\x60 is declared more than once on linter {linter}"
  | unsuitableDefault linter option expected kind =>
    s!"Default value for option \x60{option}\x60 on linter {linter} must be of type " ++
      s!"{expected.name}, but was {kind}"
  | repeatedLinter name => s!"Linter {name} is already registered"
  | repeatedPlugin name => s!"Linter plugin '{name}' is already registered"
  | unknownPlugin name =>
    s!"Unable to load linter plugin '{name}': no plugin with that name is available"
  | requestedExcluded => "All specified linters were explicitly excluded!"
  | noneEnabled => "All linters are disabled. Enable some in your configuration!"
  | enabledExcluded => "All enabled linters were explicitly excluded!"
  | noSuchLinter name => s!"Linter {name} does not exist! Are you sure you spelt it correctly?"
  | missingPath path => s!"Path '{path.text}' does not correspond to a valid file or directory"
  | missingExcludedPath path =>
    s!"Excluded path '{path.text}' does not correspond to a valid file"
  | unreadableFile path reason => s!"Unable to read '{path.text}': {reason.message}"
  | invalidPattern fault => fault.message
  | unmatchedPattern pattern => s!"Glob pattern '{pattern}' does not match any file"
  | unknownFormatter name available =>
    s!"Unable to load formatter \x60{name}\x60: available formatters are {listing available}"
  | outputFile path formatter reason =>
    s!"Unable to create output file '{path.text}' for formatter \x60{formatter}\x60: " ++
      reason.message
  | invalidConcurrency text =>
    s!"Invalid concurrency '{text}': expected a positive number or 'auto'"
  | preprocessing command path fault =>
    s!"Preprocess command \x60{command}\x60 failed when passed the contents of '{path.text}': " ++
      fault.message
  | unreadableInput => FileError.notText.message
  | reported _ message => message

def message (e : Error) : String :=
  e.category.leadIn ++ e.reason

end Error

end LintEngine
