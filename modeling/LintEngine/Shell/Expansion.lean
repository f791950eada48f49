import LintEngine.Shell.Arithmetic
import LintEngine.Shell.Machine
import LintEngine.Shell.Pattern

namespace LintEngine.Shell

inductive Stretch where
  | glyphs (gs : List Glyph) (splits : Bool)
  | fieldEnd

def isFieldBlank (c : Char) : Bool := c = ' ' || c = '\t' || c = '\n'

/-- Fields that are complete, the last one first, and the field being made, backwards, if one has
begun. -/
structure FieldSplit where
  fields : List (List Glyph)
  current : Option (List Glyph)

namespace FieldSplit

def finish (s : FieldSplit) : FieldSplit :=
  match s.current with
  | some gs => ⟨gs.reverse :: s.fields, none⟩
  | none => s

def finishAny (s : FieldSplit) : FieldSplit :=
  ⟨(s.current.getD []).reverse :: s.fields, none⟩

def push (s : FieldSplit) (g : Glyph) : FieldSplit :=
  { s with current := some (g :: s.current.getD []) }

def skipSeparators (separators : Bytes) : Bool → List Glyph → List Glyph
  | _, [] => []
  | afterBlank, g :: rest =>
    if g.literal || !separators.contains g.char then g :: rest
    else if isFieldBlank g.char then skipSeparators separators afterBlank rest
    else if afterBlank then skipSeparators separators false rest
    else g :: rest

def cut (separators : Bytes) : Nat → FieldSplit → List Glyph → FieldSplit
  | 0, s, _ => s
  | _ + 1, s, [] => s
  | n + 1, s, g :: rest =>
    if g.literal || !separators.contains g.char then cut separators n (s.push g) rest
    else if s.current.isNone && isFieldBlank g.char then cut separators n s rest
    else cut separators n s.finishAny (skipSeparators separators (isFieldBlank g.char) rest)

def add (separators : Bytes) (s : FieldSplit) : Stretch → FieldSplit
  | .fieldEnd => s.finish
  | .glyphs gs true => cut separators (gs.length + 1) s gs
  | .glyphs gs false => { s with current := some (gs.reverse ++ s.current.getD []) }

end FieldSplit

def splitFields (separators : Bytes) (stretches : List Stretch) : List (List Glyph) :=
  (stretches.foldl (FieldSplit.add separators) ⟨[], none⟩).finish.fields.reverse

def joinStretches (stretches : List Stretch) : List Glyph :=
  stretches.flatMap fun
    | .glyphs gs _ => gs
    | .fieldEnd => [⟨' ', true⟩]

def namesIn (tree : FileTree) (place : Place) : List String :=
  tree.nodes.filterMap fun (other, _) =>
    match FileTree.below? place other with
    | some [name] => some name
    | _ => none

def admits (pattern : List Glyph) (name : Bytes) : Bool :=
  (name.head? ≠ some '.' || pattern.head?.any (·.char = '.')) &&
    Wildcard.isMatch (Wildcard.parse pattern) name

def pathsFrom (tree : FileTree) : List (List Glyph) → Bytes → List Bytes
  | [], start => [start]
  | segment :: rest, start =>
    let joined (name : Bytes) := start ++ name ++ (if rest.isEmpty then [] else ['/'])
    if Wildcard.occurIn segment then
      let directory := if start.isEmpty then ['.'] else start
      match (Machine.path? directory).bind fun p => (tree.locate .follow p).toOption with
      | none => []
      | some place =>
        let names := ["..", "."] ++ namesIn tree place
        (names.map Bytes.ofString).filter (admits segment) |>.flatMap fun name =>
          pathsFrom tree rest (joined name)
    else pathsFrom tree rest (joined (Glyph.text segment))

def pathSegments : List Glyph → List (List Glyph)
  | [] => [[]]
  | g :: rest =>
    match pathSegments rest with
    | segment :: more => if g.char = '/' then [] :: segment :: more else (g :: segment) :: more
    | [] => [[g]]

def expandNames (tree : FileTree) (field : List Glyph) : List Bytes :=
  if !Wildcard.occurIn field then [Glyph.text field]
  else
    let found := (pathsFrom tree (pathSegments field) []).filter fun name =>
      (Machine.path? name).any fun p => (tree.locate .keepLink p).toBool
    if found.isEmpty then [Glyph.text field]
    else found.mergeSort fun a b => (compareBytes a b).isLE

abbrev Expander := StateM Machine

def arithmeticMessage (text : Bytes) : Arithmetic.Fault → Bytes
  | .malformed => "arithmetic expression: expecting primary: \"".toList ++ text ++ ['"']
  | .divisionByZero => "arithmetic expression: division by zero: \"".toList ++ text ++ ['"']
  | .illegalNumber value => "Illegal number: ".toList ++ value

def calculate (text : Bytes) : Expander Bytes := do
  let m ← get
  match Arithmetic.run (fun name => (m.value? name).getD []) text with
  | .error fault =>
    set (m.abort (arithmeticMessage text fault))
    return []
  | .ok (i, changes) =>
    set (changes.foldl (fun m (name, value) => m.assign name (intBytes value)) m)
    return intBytes i

def Machine.joiner (m : Machine) : Bytes :=
  m.separators.take 1

def Machine.joinedArguments (m : Machine) (name : Bytes) : Bytes :=
  (if name = ['*'] then m.joiner else [' ']).intercalate m.arguments

def isAllArguments (name : Bytes) : Bool := name = ['@'] || name = ['*']

def Machine.wholeParameter? (m : Machine) (name : Bytes) : Option Bytes :=
  if isAllArguments name then
    if m.arguments.isEmpty then none else some (m.joinedArguments name)
  else m.parameter? name

def neededParameter (name : Bytes) : Expander Bytes := do
  let m ← get
  match m.wholeParameter? name with
  | some value => return value
  | none =>
    if m.has 'u' && !isAllArguments name then
      set (m.abort (name ++ ": parameter not set".toList))
    return []

def valueStretches (name : Bytes) (quoted : Bool) : Expander (List Stretch) := do
  let m ← get
  if isAllArguments name && !(quoted && name = ['*']) then
    return (m.arguments.map fun a => [Stretch.glyphs (glyphs quoted a) !quoted]).intersperse
      [.fieldEnd] |>.flatten
  else
    let value ← if name = ['*'] then pure (m.joinedArguments name) else neededParameter name
    return [.glyphs (glyphs quoted value) !quoted]

def assignParameter (name value : Bytes) : Expander Unit := do
  let m ← get
  if isName name then set (m.assign name value)
  else set (m.abort (name ++ ": bad variable name".toList))

mutual
/-- The stretches of a word. Inside of the braces of a parameter, plain text is cut into fields
too. The parameter `substitute` gives the output of commands. -/
def stretches (substitute : List Command → Expander Bytes) (inBraces : Bool) :
    List WordPart → Expander (List Stretch)
  | [] => return []
  | part :: rest => do
    let first ← partStretches substitute inBraces part
    if (← get).goesOn then return first ++ (← stretches substitute inBraces rest)
    else return []
/-- The stretches of a part of a word. -/
def partStretches (substitute : List Command → Expander Bytes) (inBraces : Bool) :
    WordPart → Expander (List Stretch)
  | .text bytes quoted => return [.glyphs (glyphs quoted bytes) (inBraces && !quoted)]
  | .parameter name use quoted => useStretches substitute name quoted use
  | .command script quoted => do
    let text ← substitute script
    return [.glyphs (glyphs quoted text) !quoted]
  | .arithmetic expression quoted => do
    let text ← stretches substitute false expression
    if (← get).goesOn then
      let value ← calculate (Glyph.text (joinStretches text))
      return [.glyphs (glyphs quoted value) !quoted]
    else return []
/-- The stretches for the use of a parameter. -/
def useStretches (substitute : List Command → Expander Bytes) (name : Bytes) (quoted : Bool) :
    ParameterUse → Expander (List Stretch)
  | .value => valueStretches name quoted
  | .length => do
    let value ← neededParameter name
    return [.glyphs (glyphs quoted (natText value.length)) !quoted]
  | .cut atEnd longest pattern => do
    let value ← neededParameter name
    let ws := Wildcard.parse (joinStretches (← stretches substitute false pattern))
    let left := if atEnd then Wildcard.cutEnd longest ws value
      else Wildcard.cutStart longest ws value
    return [.glyphs (glyphs quoted left) !quoted]
  | .test t emptyIsMissing word => do
    let value := (← get).wholeParameter? name
    let missing := value.isNone || (emptyIsMissing && value = some [])
    match t with
    | .replace =>
      if missing then return [.glyphs [] !quoted]
      else
        let found ← stretches substitute (!quoted) word
        return .glyphs [] (!quoted) :: found
    | .default =>
      if missing then
        let found ← stretches substitute (!quoted) word
        return .glyphs [] (!quoted) :: found
      else valueStretches name quoted
    | .assign =>
      if missing then
        let text := Glyph.text (joinStretches (← stretches substitute false word))
        if (← get).goesOn then assignParameter name text
        return [.glyphs (glyphs quoted text) !quoted]
      else valueStretches name quoted
    | .require =>
      if missing then
        let text := Glyph.text (joinStretches (← stretches substitute false word))
        let m ← get
        let message := if text.isEmpty then
            "parameter not set".toList ++ (if emptyIsMissing then " or null".toList else [])
          else text
        if m.goesOn then set (m.abort (name ++ ": ".toList ++ message))
        return []
      else valueStretches name quoted
  | .invalid => do
    modify fun m => m.abort "Bad substitution".toList
    return []
end

def expandTilde (m : Machine) : Word → Word
  | .text ['~'] false :: rest =>
    let ends := match rest with
      | [] => true
      | .text ('/' :: _) false :: _ => true
      | _ => false
    match m.value? "HOME".toList with
    | some home => if ends then .text home true :: rest else .text ['~'] false :: rest
    | none => .text ['~'] false :: rest
  | w => w

def expandGlyphs (substitute : List Command → Expander Bytes) (w : Word) :
    Expander (List Glyph) := do
  return joinStretches (← stretches substitute false (expandTilde (← get) w))

def expandText (substitute : List Command → Expander Bytes) (w : Word) : Expander Bytes := do
  return Glyph.text (← expandGlyphs substitute w)

/-- A word with home directories in place of tildes at its start and after colons; `start` tells
whether such a place has been reached. -/
def expandTildes (m : Machine) : (start : Bool) → Word → Word
  | _, [] => []
  | true, .text ['~'] false :: rest =>
    let ends := match rest with
      | [] => true
      | .text [c] false :: _ => c = '/' || c = ':'
      | _ => false
    match m.value? "HOME".toList with
    | some home =>
      .text (if ends then home else ['~']) ends :: expandTildes m false rest
    | none => .text ['~'] false :: expandTildes m false rest
  | _, .text [c] false :: rest => .text [c] false :: expandTildes m (c = ':') rest
  | _, part :: rest => part :: expandTildes m false rest

def expandValue (substitute : List Command → Expander Bytes) (w : Word) : Expander Bytes := do
  return Glyph.text (joinStretches (← stretches substitute false (expandTildes (← get) true w)))

def expandFields (substitute : List Command → Expander Bytes) (w : Word) :
    Expander (List Bytes) := do
  let found ← stretches substitute false (expandTilde (← get) w)
  let m ← get
  let fields := splitFields m.separators found
  if m.has 'f' then return fields.map Glyph.text
  else return fields.flatMap (expandNames m.tree)

def expandWords (substitute : List Command → Expander Bytes) :
    List Word → Expander (List Bytes)
  | [] => return []
  | w :: rest => do
    let fields ← expandFields substitute w
    if (← get).goesOn then return fields ++ (← expandWords substitute rest)
    else return []

end LintEngine.Shell
