import LintEngine.Shell.Pattern
import LintEngine.Shell.Utility.Work

namespace LintEngine.Shell

open Number

namespace Files

def baseName (name : Bytes) : Bytes :=
  match dropEndWhile (· = '/') name with
  | [] => if name.isEmpty then [] else ['/']
  | trimmed => (trimmed.reverse.takeWhile (· ≠ '/')).reverse

def withoutEnding (ending name : Bytes) : Bytes :=
  match stripLead? ending.reverse name.reverse with
  | some [] => name
  | some rest => rest.reverse
  | none => name

def directoryName (name : Bytes) : Bytes :=
  let trimmed := dropEndWhile (· = '/') name
  if trimmed.isEmpty then (if name.isEmpty then ['.'] else ['/'])
  else
    let lead := dropEndWhile (· ≠ '/') trimmed
    if lead.isEmpty then ['.']
    else
      match dropEndWhile (· = '/') lead with
      | [] => ['/']
      | directory => directory

/-- Tells names without their directories. -/
def basename : Utility := fun arguments =>
  let table : OptionTable :=
    ⟨OptionTable.flags "az" ++ OptionTable.valued "s",
      [("multiple", 'a'), ("suffix", 's'), ("zero", 'z')]⟩
  match table.readFrom true (arguments.length + 1) arguments with
  | .error f => do
    Task.fault "basename" f.message
    return 1
  | .ok p => do
    let ending := if p.has 'z' then ['\x00'] else ['\n']
    let tell (suffix name : Bytes) : Task Unit :=
      Task.print (withoutEnding suffix (baseName name) ++ ending)
    match p.operands with
    | [] =>
      Task.fault "basename" "missing operand".toList
      Task.hint "basename"
      return 1
    | names =>
      if p.has 'a' || p.has 's' then
        names.forM (tell ((p.value? 's').getD []))
        return 0
      else
        match names with
        | [name] =>
          tell [] name
          return 0
        | [name, suffix] =>
          tell suffix name
          return 0
        | _ =>
          Task.fault "basename" "extra operand".toList
          return 1

def dirname : Utility := fun arguments =>
  Task.withOptions "dirname" 1 ⟨OptionTable.flags "z", [("zero", 'z')]⟩ arguments fun p => do
    if p.operands.isEmpty then
      Task.fault "dirname" "missing operand".toList
      return 1
    else
      p.operands.forM fun name =>
        Task.print (directoryName name ++ if p.has 'z' then ['\x00'] else ['\n'])
      return 0

def place (last : FileTree.LastName) (name : Bytes) : Task (Except FileError Place) := do
  match Task.path? name with
  | some p => return (← get).tree.locate last p
  | none => return .error .notFound

def node? (name : Bytes) : Task (Option Node) := do
  match ← place .keepLink name with
  | .ok found => return (← get).tree.node? found
  | .error _ => return none

def nodesFrom (tree : FileTree) (start : Place) : List (Place × Node) :=
  tree.nodes.filterMap fun (other, node) =>
    (FileTree.below? start other).map fun rest => (rest, node)

def removed (tree : FileTree) (start : Place) : FileTree :=
  { tree with nodes := tree.nodes.filter fun (other, _) => (FileTree.below? start other).isNone }

def namesIn (tree : FileTree) (directory : Place) : List Bytes :=
  let names := tree.nodes.filterMap fun (other, _) =>
    match FileTree.below? directory other with
    | some [name] => some (Bytes.ofString name)
    | _ => none
  names.mergeSort fun a b => compareBytes a b ≠ .gt

def placed (tree : FileTree) (start : Place) (nodes : List (Place × Node)) : FileTree :=
  nodes.foldl (fun tree (rest, node) => tree.setNode (start ++ rest) node) tree

def complain (utility verb : String) (name : Bytes) (reason : String) : Task Unit :=
  Task.fault utility
    (verb.toList ++ ' ' :: Task.inQuotes name ++ ": ".toList ++ reason.toList)

def onEach (names : List Bytes) (f : Bytes → Task Bool) : Task Nat := do
  let results ← names.mapM f
  return Task.status (results.all (·))

def missingOperand (utility : String) : Task Nat := do
  Task.fault utility "missing operand".toList
  Task.hint utility
  return 1

def makeDirectory (parents : Bool) (name : Bytes) : Task Bool := do
  let tree := (← get).tree
  match ← place .mayBeMissing name with
  | .ok found =>
    match tree.node? found with
    | some .directory =>
      if parents then return true
      else
        complain "mkdir" "cannot create directory" name "File exists"
        return false
    | some _ =>
      complain "mkdir" "cannot create directory" name "File exists"
      return false
    | none =>
      modify fun w => { w with tree := w.tree.setNode found .directory }
      return true
  | .error e =>
    let leads := (cutAt '/' name).filter fun part => !part.isEmpty
    let start := if name.head? = some '/' then [] else tree.workingPlace
    if parents && e = .notFound && !leads.contains ".".toList && !leads.contains "..".toList then
      match leads.mapM fun part => String.fromUTF8? (Bytes.toByteArray part) with
      | some names =>
        modify fun w => { w with tree := w.tree.add (start ++ names) .directory }
        return true
      | none => return false
    else
      complain "mkdir" "cannot create directory" name (FileFault.reason e)
      return false

def mkdir : Utility := fun arguments =>
  Task.withOptions "mkdir" 1
      ⟨OptionTable.flags "pvZ" ++ OptionTable.valued "m",
        [("parents", 'p'), ("mode", 'm'), ("verbose", 'v')]⟩ arguments fun p =>
    if p.operands.isEmpty then missingOperand "mkdir"
    else onEach p.operands (makeDirectory (p.has 'p'))

def rmdir : Utility := fun arguments =>
  Task.withOptions "rmdir" 1 ⟨OptionTable.flags "pv", [("parents", 'p'), ("verbose", 'v')]⟩
      arguments fun p =>
    if p.operands.isEmpty then missingOperand "rmdir"
    else onEach p.operands fun name => do
      match ← place .keepLink name with
      | .error e =>
        complain "rmdir" "failed to remove" name (FileFault.reason e)
        return false
      | .ok found =>
        let tree := (← get).tree
        match tree.node? found with
        | some .directory =>
          if (nodesFrom tree found).length ≤ 1 then
            modify fun w => { w with tree := removed w.tree found }
            return true
          else
            complain "rmdir" "failed to remove" name "Directory not empty"
            return false
        | _ =>
          complain "rmdir" "failed to remove" name "Not a directory"
          return false

def rm : Utility := fun arguments =>
  Task.withOptions "rm" 1
      ⟨OptionTable.flags "firRdvI",
        [("force", 'f'), ("recursive", 'r'), ("dir", 'd'), ("verbose", 'v')]⟩ arguments fun p =>
    if p.operands.isEmpty then
      if p.has 'f' then return 0 else missingOperand "rm"
    else onEach p.operands fun name => do
      match ← place .keepLink name with
      | .error e =>
        if p.has 'f' then return true
        else
          complain "rm" "cannot remove" name (FileFault.reason e)
          return false
      | .ok found =>
        let tree := (← get).tree
        let isFilled := 1 < (nodesFrom tree found).length
        let allowed := p.has 'r' || p.has 'R' || (p.has 'd' && !isFilled)
        if tree.isDirectoryAt found && !allowed then
          complain "rm" "cannot remove" name "Is a directory"
          return false
        else
          modify fun w => { w with tree := removed w.tree found }
          return true

def touch : Utility := fun arguments =>
  Task.withOptions "touch" 1
      ⟨OptionTable.flags "acfhm" ++ OptionTable.valued "drt", [("no-create", 'c'), ("date", 'd')]⟩
      arguments fun p =>
    if p.operands.isEmpty then missingOperand "touch"
    else onEach p.operands fun name => do
      if (← node? name).isSome || p.has 'c' then return true
      else
        match ← Task.createFile name with
        | .ok _ => return true
        | .error e =>
          complain "touch" "cannot touch" name (FileFault.reason e)
          return false

def targetPlace (target source : Bytes) : Task (Except FileError Place) := do
  match ← place .follow target with
  | .ok found =>
    if (← get).tree.isDirectoryAt found then
      match String.fromUTF8? (baseName source).toByteArray with
      | some name => return .ok (found ++ [name])
      | none => return .error .notFound
    else return .ok found
  | .error _ => place .mayBeMissing target

def sourcesAndTarget (utility : String) (operands : List Bytes) (given : Option Bytes)
    (body : List Bytes → Bytes → Task Nat) : Task Nat := do
  match given, operands.reverse with
  | some target, _ => body operands target
  | none, target :: source :: rest =>
    let isDirectory ← (do
      match ← place .follow target with
      | .ok found => return (← get).tree.isDirectoryAt found
      | .error _ => return false)
    if !rest.isEmpty && !isDirectory then
      Task.fault utility ("target ".toList ++ Task.inQuotes target ++ ": Not a directory".toList)
      return 1
    else body (source :: rest).reverse target
  | none, [only] =>
    Task.fault utility
      ("missing destination file operand after ".toList ++ Task.inQuotes only)
    return 1
  | none, [] =>
    Task.fault utility "missing file operand".toList
    return 1

/-- Copies or moves one file. -/
def transfer (utility : String) (moves recursive : Bool) (target source : Bytes) : Task Bool := do
  match ← place (if moves then .keepLink else .follow) source with
  | .error e =>
    complain utility "cannot stat" source (FileFault.reason e)
    return false
  | .ok start =>
    let tree := (← get).tree
    if tree.isDirectoryAt start && !moves && !recursive then
      Task.fault utility
        ("-r not specified; omitting directory ".toList ++ Task.inQuotes source)
      return false
    else
      match ← targetPlace target source with
      | .error e =>
        complain utility "cannot create regular file" target (FileFault.reason e)
        return false
      | .ok found =>
        if found = start then
          Task.fault utility
            (Task.inQuotes source ++ " and ".toList ++ Task.inQuotes target ++
              " are the same file".toList)
          return false
        else
          let nodes := nodesFrom tree start
          let tree := if moves then removed tree start else tree
          match nodes with
          | [(_, .file content)] =>
            let into := match tree.node? found with
              | some .device => tree
              | _ => tree.setNode found (.file content)
            modify fun w => { w with tree := into }
          | nodes => modify fun w => { w with tree := placed tree found nodes }
          return true

def cp : Utility := fun arguments =>
  Task.withOptions "cp" 1
      ⟨OptionTable.flags "abdfHilLnpPRrsTuvx" ++ OptionTable.valued "tS",
        [("recursive", 'r'), ("archive", 'a'), ("force", 'f'), ("target-directory", 't'),
          ("verbose", 'v')]⟩ arguments fun p =>
    sourcesAndTarget "cp" p.operands (p.value? 't') fun sources target =>
      onEach sources
        (transfer "cp" false (p.has 'r' || p.has 'R' || p.has 'a') target)

def mv : Utility := fun arguments =>
  Task.withOptions "mv" 1
      ⟨OptionTable.flags "bfinTuvZ" ++ OptionTable.valued "tS",
        [("force", 'f'), ("target-directory", 't'), ("verbose", 'v')]⟩ arguments fun p =>
    sourcesAndTarget "mv" p.operands (p.value? 't') fun sources target =>
      onEach sources (transfer "mv" true true target)

/-- Makes links. A link that is not symbolic is a copy. -/
def ln : Utility := fun arguments =>
  Task.withOptions "ln" 1
      ⟨OptionTable.flags "bdfFinLPrsTv" ++ OptionTable.valued "tS",
        [("symbolic", 's'), ("force", 'f')]⟩ arguments fun p =>
    let operands := match p.operands with
      | [only] => [only, baseName only]
      | operands => operands
    sourcesAndTarget "ln" operands (p.value? 't') fun sources target =>
      onEach sources fun source => do
        match ← targetPlace target source with
        | .error e =>
          complain "ln" "failed to create symbolic link" target (FileFault.reason e)
          return false
        | .ok found =>
          let tree := (← get).tree
          if (tree.node? found).isSome && !p.has 'f' then
            complain "ln" "failed to create symbolic link" target "File exists"
            return false
          else if p.has 's' then
            match Task.path? source with
            | some target =>
              modify fun w => { w with tree := w.tree.setNode found (.link target) }
              return true
            | none => return false
          else
            match ← Task.readNamed source with
            | .ok content =>
              modify fun w => { w with
                tree := w.tree.setNode found (.file (Bytes.toByteArray content)) }
              return true
            | .error e =>
              complain "ln" "failed to access" source (FileFault.reason e)
              return false

def mktemp : Utility := fun arguments =>
  Task.withOptions "mktemp" 1
      ⟨OptionTable.flags "dqut" ++ [('p', .required)], [("directory", 'd'), ("dry-run", 'u')]⟩
      arguments fun p => do
    let template := p.operands.head?.getD "tmp.XXXXXXXXXX".toList
    let inside := p.operands.isEmpty || p.has 'p' || p.has 't'
    let directory := (p.value? 'p').getD "/tmp".toList
    let marks := (template.reverse.takeWhile (· = 'X')).length
    if marks < 3 then
      Task.fault "mktemp" ("too few X's in template ".toList ++ Task.inQuotes template)
      return 1
    else
      let count := (← get).tree.nodes.length
      let digits := natText (count + Nat.pow 10 (marks - 1))
      let name := template.take (template.length - marks) ++ digits.take marks
      let name := if inside then directory ++ '/' :: name else name
      if !p.has 'u' then
        match ← place .mayBeMissing name with
        | .ok found =>
          let node := if p.has 'd' then Node.directory else .file ByteArray.empty
          modify fun w => { w with tree := w.tree.setNode found node }
        | .error _ => pure ()
      Task.print (name ++ ['\n'])
      return 0

def listedNames (tree : FileTree) (all almost : Bool) (directory : Place) : List Bytes :=
  let names := namesIn tree directory
  let own := if all then [['.'], ['.', '.']] else []
  own ++ if all || almost then names else names.filter fun name => name.head? ≠ some '.'

/-- Lists names and the contents of directories. -/
def ls : Utility := fun arguments =>
  Task.withOptions "ls" 2
      ⟨OptionTable.flags "1aAdrRFhlLnpqsStucCxXUvgGoikmbB" ++ OptionTable.valued "wTI",
        [("all", 'a'), ("almost-all", 'A'), ("directory", 'd'), ("reverse", 'r'),
          ("color", 'q')]⟩ arguments fun p => do
    let operands := if p.operands.isEmpty then [['.']] else p.operands
    let ordered (names : List Bytes) : List Bytes :=
      let names := names.mergeSort fun a b => compareBytes a b ≠ .gt
      if p.has 'r' then names.reverse else names
    let tree := (← get).tree
    let found ← operands.mapM fun name => do return (name, ← place .follow name)
    let bad := found.filter fun (_, f) => match f with
      | .ok f => (tree.node? f).isNone
      | .error _ => true
    for (name, e) in bad do
      complain "ls" "cannot access" name (match e with
        | .error e => FileFault.reason e
        | .ok _ => "No such file or directory")
    let good := found.filterMap fun (name, f) => match f with
      | .ok f => if (tree.node? f).isSome then some (name, f) else none
      | .error _ => none
    let isListed (f : Place) : Bool := tree.isDirectoryAt f && !p.has 'd'
    let files := ordered ((good.filter fun (_, f) => !isListed f).map (·.1))
    let directories := good.filter fun (_, f) => isListed f
    Task.print (Lines.join files)
    let several := 1 < operands.length
    let sorted := ordered (directories.map (·.1))
    for (name, i) in sorted.zipIdx do
      match directories.lookup name with
      | none => pure ()
      | some f =>
        if several then
          Task.print ((if i = 0 && files.isEmpty then [] else ['\n']) ++ name ++ [':', '\n'])
        Task.print (Lines.join (ordered (listedNames tree (p.has 'a') (p.has 'A') f)))
    return if bad.isEmpty then 0 else 2

def readlink (utility : String) (canonical : Bool) : Utility := fun arguments =>
  Task.withOptions utility 1
      ⟨OptionTable.flags "femnqszLPv", [("canonicalize", 'f')]⟩ arguments fun p =>
    if p.operands.isEmpty then missingOperand utility
    else onEach p.operands fun name => do
      let ending := if p.has 'n' then [] else ['\n']
      if canonical || p.has 'f' || p.has 'e' || p.has 'm' then
        match ← place (if p.has 'e' then .follow else .mayBeMissing) name with
        | .ok found =>
          Task.print (Bytes.ofString (FileTree.pathOf found).text ++ ending)
          return true
        | .error e =>
          if canonical then Task.fileFault utility name e
          return false
      else
        match ← node? name with
        | some (.link target) =>
          Task.print (Bytes.ofString target.text ++ ending)
          return true
        | _ => return false

def onPresent (utility verb : String) (operandsFrom : Nat) : Utility := fun arguments => do
  let operands := (arguments.filter fun a => a.head? ≠ some '-').drop operandsFrom
  onEach operands fun name => do
    if (← node? name).isSome then return true
    else
      complain utility verb name "No such file or directory"
      return false

def cmp : Utility := fun arguments =>
  Task.withOptions "cmp" 2
      ⟨OptionTable.flags "bls" ++ OptionTable.valued "in", [("quiet", 's'), ("silent", 's')]⟩
      arguments fun p => do
    match p.operands with
    | first :: rest =>
      let second := rest.head?.getD ['-']
      let (texts, good) ← Task.readOperands "cmp" [first, second]
      match texts, good with
      | [(_, a), (_, b)], true =>
        let same := ((a.zip b).takeWhile fun (x, y) => x = y).length
        let line := (a.take same).count '\n' + 1
        if a.length = b.length && same = a.length then return 0
        else if same = a.length || same = b.length then
          let shorter := if same = a.length then first else second
          if !p.has 's' then
            Task.complain
              ("cmp: EOF on ".toList ++ shorter ++ " after byte ".toList ++ natText same)
          return 1
        else
          if !p.has 's' then
            Task.print (first ++ ' ' :: second ++ " differ: char ".toList ++ natText (same + 1) ++
              ", line ".toList ++ natText line ++ ['\n'])
          return 1
      | _, _ => return 2
    | [] =>
      Task.fault "cmp" "missing operand".toList
      return 2

structure Wanted where
  name : Option Bytes
  kind : Option Char
  most : Option Nat
  least : Nat

def wanted : Wanted → List Bytes → Option Wanted
  | w, [] => some w
  | w, a :: rest =>
    match String.ofList a, rest with
    | "-name", value :: rest => wanted { w with name := some value } rest
    | "-type", value :: rest => wanted { w with kind := value.head? } rest
    | "-maxdepth", value :: rest => wanted { w with most := some (ofDigits value) } rest
    | "-mindepth", value :: rest => wanted { w with least := ofDigits value } rest
    | "-print", rest => wanted w rest
    | _, _ => none

def isOfKind (kind : Char) : Node → Bool
  | .file _ => kind = 'f'
  | .directory => kind = 'd'
  | .link _ => kind = 'l'
  | .device => kind = 'c'

/-- Tells the files below directories that are looked for. -/
def find : Utility := fun arguments => do
  let starts := arguments.takeWhile fun a => a.head? ≠ some '-'
  match wanted ⟨none, none, none, 0⟩ (arguments.drop starts.length) with
  | none =>
    Task.fault "find" "unknown predicate".toList
    return 1
  | some w =>
    onEach (if starts.isEmpty then [['.']] else starts) fun start => do
      match ← place .keepLink start with
      | .error e =>
        Task.fault "find" (Task.inQuotes start ++ ": ".toList ++ (FileFault.reason e).toList)
        return false
      | .ok found =>
        let tree := (← get).tree
        let nodes := (found, (tree.node? found).getD .directory) ::
          ((tree.nodes.filter fun (other, _) =>
            ((FileTree.below? found other).getD []).length ≠ 0).mergeSort fun a b =>
              compareBytes (Bytes.ofString ("/".intercalate a.1))
                (Bytes.ofString ("/".intercalate b.1)) ≠ .gt)
        for (other, node) in nodes do
          let rest := (FileTree.below? found other).getD []
          let path := rest.foldl
            (fun path name => (if path.getLast? = some '/' then path else path ++ ['/']) ++
              Bytes.ofString name) start
          let depth := rest.length
          let fits := w.name.all (fun pattern =>
            Wildcard.isMatch (Wildcard.parse (glyphs false pattern)) (baseName path)) &&
            w.kind.all (isOfKind · node) && w.most.all (depth ≤ ·) && w.least ≤ depth
          if fits then Task.print (path ++ ['\n'])
        return true

end Files

end LintEngine.Shell
