import LintEngine.Report.Output
import LintEngine.Run.Options

namespace LintEngine

/-- An option of the command line. -/
inductive Flag where
  | includeLinter
  | excludeLinter
  | config
  | excludePath
  | format
  | out
  | stdinFilePath
  | plugin
  | concurrency
  | showLinters
  | showFormatters
  | showDocs
  | debug
  | verbose
  | help
  | version
deriving DecidableEq, Repr

namespace Flag

def ofLong? (name : String) : Option Flag :=
  [("include-linter", includeLinter), ("exclude-linter", excludeLinter), ("config", config),
    ("exclude-path", excludePath), ("format", format), ("out", out),
    ("stdin-file-path", stdinFilePath), ("plugin", plugin), ("concurrency", concurrency),
    ("show-linters", showLinters), ("show-formatters", showFormatters), ("show-docs", showDocs),
    ("show-documentation", showDocs), ("debug", debug), ("verbose", verbose), ("help", help),
    ("version", version)].lookup name

def ofShort? (letter : Char) : Option Flag :=
  [('i', includeLinter), ('x', excludeLinter), ('c', config), ('e', excludePath), ('f', format),
    ('o', out), ('p', plugin), ('C', concurrency), ('d', debug), ('v', verbose), ('h', help),
    ('V', version)].lookup letter

def takesValue : Flag → Bool
  | showLinters | showFormatters | debug | verbose | help | version => false
  | _ => true

def valueIsOptional : Flag → Bool
  | showDocs => true
  | _ => false

def isRepeatable : Flag → Bool
  | includeLinter | excludeLinter | excludePath | format | out | plugin => true
  | _ => false

def isDelimited : Flag → Bool
  | includeLinter | excludeLinter => true
  | _ => false

end Flag

inductive ArgumentsFault where
  | help
  | version
  | unknownArgument
  | tooManyValues
  | invalidValue
  | conflict
  | unsuitableValue
deriving DecidableEq, Repr

def ArgumentsFault.isMistake : ArgumentsFault → Bool
  | help | version => false
  | _ => true

inductive OutputFlag where
  | format (name : String)
  | out (path : Path)
deriving DecidableEq, Repr

/-- A command line that has been read. Formats and files for output come with their places on it. -/
structure Arguments where
  paths : List Path
  includeLinters : List String
  excludeLinters : List String
  config : Option Path
  excludePaths : List String
  formatValues : List (String × Nat)
  outValues : List (Path × Nat)
  stdinFilePath : Option Path
  plugins : List String
  concurrency : Option Concurrency
  showLinters : Bool
  showFormatters : Bool
  showDocs : Option (Option String)
  debug : Bool
  verbose : Bool
deriving DecidableEq, Repr

namespace Arguments

def none : Arguments :=
  ⟨[], [], [], .none, [], [], [], .none, [], .none, false, false, .none, false, false⟩

def formats (a : Arguments) : List String :=
  a.formatValues.map (·.1)

def outs (a : Arguments) : List Path :=
  a.outValues.map (·.1)

def outputs (a : Arguments) : List OutputFlag :=
  let flags := a.formatValues.map (fun x => (OutputFlag.format x.1, x.2)) ++
    a.outValues.map fun x => (OutputFlag.out x.1, x.2)
  (flags.mergeSort fun x y => x.2 ≤ y.2).map (·.1)

/-- Adds an output option to formatter requests that are listed backwards. A file goes to the last
formatter if that one has none; else the same formatter writes once more. -/
def addOutput (requests : List FormatterRequest) : OutputFlag → List FormatterRequest
  | .format name => ⟨name, .standardOutput⟩ :: requests
  | .out path =>
    match requests with
    | [] => [⟨Formatters.defaultName, .file path⟩]
    | ⟨name, .standardOutput⟩ :: rest => ⟨name, .file path⟩ :: rest
    | ⟨name, .file other⟩ :: rest => ⟨name, .file path⟩ :: ⟨name, .file other⟩ :: rest

def formatterRequests (a : Arguments) : List FormatterRequest :=
  (a.outputs.foldl addOutput []).reverse

def splitCommas : List Char → List (List Char)
  | [] => [[]]
  | c :: rest =>
    if c = ',' then [] :: splitCommas rest
    else
      match splitCommas rest with
      | part :: parts => (c :: part) :: parts
      | [] => [[c]]

def values (flag : Flag) (given : List String) : List String :=
  if flag.isDelimited then
    given.flatMap fun text => (splitCommas text.toList).map String.ofList
  else given

def path (text : String) : Except ArgumentsFault Path :=
  if text = "" then .error .invalidValue else .ok ⟨text⟩

/-- Stores the values of an option, the first of which stands at the given place. -/
def store (a : Arguments) (flag : Flag) (place : Nat) (given : List String) :
    Except ArgumentsFault Arguments :=
  match flag, values flag given with
  | .includeLinter, vs => .ok { a with includeLinters := a.includeLinters ++ vs }
  | .excludeLinter, vs => .ok { a with excludeLinters := a.excludeLinters ++ vs }
  | .config, vs => do
    let paths ← vs.mapM path
    .ok { a with config := paths.head? }
  | .excludePath, vs => .ok { a with excludePaths := a.excludePaths ++ vs }
  | .format, vs => .ok { a with formatValues := a.formatValues ++ vs.zipIdx place }
  | .out, vs => do
    let paths ← vs.mapM path
    .ok { a with outValues := a.outValues ++ paths.zipIdx place }
  | .stdinFilePath, vs => do
    let paths ← vs.mapM path
    .ok { a with stdinFilePath := paths.head? }
  | .plugin, vs => .ok { a with plugins := a.plugins ++ vs }
  | .concurrency, vs =>
    match vs.mapM Concurrency.parse with
    | .ok counts => .ok { a with concurrency := counts.head? }
    | .error _ => .error .unsuitableValue
  | .showLinters, _ => .ok { a with showLinters := true }
  | .showFormatters, _ => .ok { a with showFormatters := true }
  | .showDocs, vs => .ok { a with showDocs := some vs.head? }
  | .debug, _ => .ok { a with debug := true }
  | .verbose, _ => .ok { a with verbose := true }
  | .help, _ => .error .help
  | .version, _ => .error .version

end Arguments

inductive Pending where
  | flag (flag : Flag) (values : List String)
  | paths (texts : List String)

/-- A command line of which some arguments have been read; `trailing` after a double hyphen. The
options and values that have been taken are counted. -/
structure ArgumentReading where
  arguments : Arguments
  count : Nat
  given : List Flag
  pending : Option Pending
  trailing : Bool

namespace ArgumentReading

def start : ArgumentReading := ⟨.none, 0, [], none, false⟩

def takeFlag (r : ArgumentReading) (flag : Flag) (values : List String) :
    Except ArgumentsFault ArgumentReading := do
  if flag.takesValue && !flag.valueIsOptional && values.isEmpty then .error .invalidValue
  else if !flag.isRepeatable && r.given.contains flag then .error .conflict
  else
    let arguments ← r.arguments.store flag (r.count + 2) values
    .ok { r with
      arguments := arguments
      count := r.count + 1 + (Arguments.values flag values).length
      given := flag :: r.given }

def resolve (r : ArgumentReading) : Except ArgumentsFault ArgumentReading :=
  match r.pending with
  | none => .ok r
  | some (.flag flag values) => { r with pending := none }.takeFlag flag values
  | some (.paths texts) => do
    let paths ← texts.mapM Arguments.path
    .ok { r with
      pending := none
      count := r.count + paths.length
      arguments := { r.arguments with paths := r.arguments.paths ++ paths } }

def react (r : ArgumentReading) (flag : Flag) (values : List String) :
    Except ArgumentsFault ArgumentReading := do
  let r ← r.resolve
  r.takeFlag flag values

def await (r : ArgumentReading) (flag : Flag) : Except ArgumentsFault ArgumentReading := do
  let r ← r.resolve
  .ok { r with pending := some (.flag flag []) }

def plain (r : ArgumentReading) (text : String) : Except ArgumentsFault ArgumentReading :=
  match r.pending, r.trailing with
  | some (.flag flag []), false => .ok { r with pending := some (.flag flag [text]) }
  | some (.paths texts), _ => .ok { r with pending := some (.paths (texts ++ [text])) }
  | _, _ => do
    let r ← r.resolve
    .ok { r with pending := some (.paths [text]) }

def long (r : ArgumentReading) (text : List Char) : Except ArgumentsFault ArgumentReading :=
  let name := text.takeWhile (· ≠ '=')
  let value := match text.dropWhile (· ≠ '=') with
    | _ :: value => some (String.ofList value)
    | [] => none
  match Flag.ofLong? (String.ofList name), value with
  | none, _ => .error .unknownArgument
  | some flag, some value =>
    if flag.takesValue then r.react flag [value] else .error .tooManyValues
  | some flag, none => if flag.takesValue then r.await flag else r.react flag []

def short (r : ArgumentReading) : List Char → Except ArgumentsFault ArgumentReading
  | [] => .ok r
  | letter :: rest =>
    match Flag.ofShort? letter with
    | none => .error .unknownArgument
    | some flag =>
      if flag.takesValue then
        match rest with
        | [] => r.await flag
        | '=' :: value => r.react flag [String.ofList value]
        | value => r.react flag [String.ofList value]
      else do
        let r ← r.react flag []
        r.short rest

def next (r : ArgumentReading) (text : String) : Except ArgumentsFault ArgumentReading :=
  if r.trailing then r.plain text
  else
    match text.toList with
    | ['-', '-'] => .ok { r with trailing := true }
    | '-' :: '-' :: rest => r.long rest
    | '-' :: letter :: rest => r.short (letter :: rest)
    | _ => r.plain text

end ArgumentReading

def Arguments.parse (texts : List String) : Except ArgumentsFault Arguments := do
  let r ← texts.foldlM ArgumentReading.next .start
  let r ← r.resolve
  .ok r.arguments

end LintEngine
