import LintEngine.Yaml.Token

namespace LintEngine.Yaml

structure Properties where
  anchor : Option String
  tag : Option (List UInt8)
deriving DecidableEq, Repr

def Properties.none : Properties := ⟨.none, .none⟩

inductive Event where
  | alias (name : String)
  | scalar (properties : Properties) (text : String) (plain : Bool)
  | sequenceStart (properties : Properties)
  | sequenceEnd
  | mappingStart (properties : Properties)
  | mappingEnd
deriving DecidableEq, Repr

abbrev Handles := List (List UInt8 × List UInt8)

def defaultHandles : Handles :=
  [(Scan.utf8 ['!'], Scan.utf8 ['!']),
    (Scan.utf8 ['!', '!'], Scan.utf8 "tag:yaml.org,2002:".toList)]

structure Parse where
  events : Array Event
  rest : List Token

namespace Parse

def emit (p : Parse) (e : Event) : Parse :=
  { p with events := p.events.push e }

def skip (p : Parse) : Parse :=
  { p with rest := p.rest.tail }

def emptyNode (p : Parse) : Parse :=
  p.emit (.scalar .none "" true)

def at? (p : Parse) (ts : List Token) : Bool :=
  match p.rest with
  | t :: _ => ts.contains t
  | [] => false

def resolveTag (handles : Handles) (handle suffix : List UInt8) : Except Fault (List UInt8) :=
  if handle.isEmpty then .ok suffix
  else
    match handles.lookup handle with
    | some leading => .ok (leading ++ suffix)
    | none => .error .undefinedHandle

def properties (handles : Handles) (p : Parse) : Except Fault (Properties × Parse) := do
  match p.rest with
  | .anchor a :: .tag h s :: _ =>
    let t ← resolveTag handles h s
    .ok (⟨some a, some t⟩, p.skip.skip)
  | .tag h s :: .anchor a :: _ =>
    let t ← resolveTag handles h s
    .ok (⟨some a, some t⟩, p.skip.skip)
  | .anchor a :: _ => .ok (⟨some a, none⟩, p.skip)
  | .tag h s :: _ =>
    let t ← resolveTag handles h s
    .ok (⟨none, some t⟩, p.skip)
  | _ => .ok (.none, p)

mutual
/-- Takes a node. Blocks are possible only outside of brackets, and a list without indentation
only inside of a block mapping. The number bounds the nodes. -/
def node (handles : Handles) (block unindented : Bool) : Nat → Parse → Except Fault Parse
  | 0, _ => .error .missingContent
  | n + 1, p => do
    match p.rest with
    | .alias name :: _ => .ok (p.skip.emit (.alias name))
    | _ =>
      let (q, p) ← p.properties handles
      match p.rest with
      | .scalar text plain :: _ => .ok (p.skip.emit (.scalar q text plain))
      | .flowSequenceStart :: _ => flowSequence handles true n (p.skip.emit (.sequenceStart q))
      | .flowMappingStart :: _ => flowMapping handles true n (p.skip.emit (.mappingStart q))
      | _ =>
        if unindented && p.at? [.blockEntry] then
          unindentedSequence handles n (p.emit (.sequenceStart q))
        else if block && p.at? [.blockSequenceStart] then
          blockSequence handles n (p.skip.emit (.sequenceStart q))
        else if block && p.at? [.blockMappingStart] then
          blockMapping handles n (p.skip.emit (.mappingStart q))
        else if q = .none then .error .missingContent
        else .ok (p.emit (.scalar q "" true))
/-- Takes the items of a block list up to its end. -/
def blockSequence (handles : Handles) : Nat → Parse → Except Fault Parse
  | 0, _ => .error .missingContent
  | n + 1, p => do
    if p.at? [.blockEntry] then
      let p := p.skip
      let p ← if p.at? [.blockEntry, .blockEnd] then .ok p.emptyNode
        else node handles true false n p
      blockSequence handles n p
    else if p.at? [.blockEnd] then .ok (p.skip.emit .sequenceEnd)
    else .error .missingContent
/-- Takes the items of a list that is not indented. -/
def unindentedSequence (handles : Handles) : Nat → Parse → Except Fault Parse
  | 0, _ => .error .missingContent
  | n + 1, p => do
    if p.at? [.blockEntry] then
      let p := p.skip
      let p ← if p.at? [.blockEntry, .key, .value, .blockEnd] then .ok p.emptyNode
        else node handles true false n p
      unindentedSequence handles n p
    else .ok (p.emit .sequenceEnd)
/-- Takes the entries of a block mapping up to its end. -/
def blockMapping (handles : Handles) : Nat → Parse → Except Fault Parse
  | 0, _ => .error .missingContent
  | n + 1, p => do
    if p.at? [.key] then
      let p := p.skip
      let p ← if p.at? [.key, .value, .blockEnd] then .ok p.emptyNode
        else node handles true true n p
      let p ← if p.at? [.value] then
          let p := p.skip
          if p.at? [.key, .value, .blockEnd] then .ok p.emptyNode
          else node handles true true n p
        else .ok p.emptyNode
      blockMapping handles n p
    else if p.at? [.blockEnd] then .ok (p.skip.emit .mappingEnd)
    else .error .missingContent
/-- Takes the items of a list in brackets up to its end. -/
def flowSequence (handles : Handles) (first : Bool) : Nat → Parse → Except Fault Parse
  | 0, _ => .error .missingContent
  | n + 1, p => do
    if p.at? [.flowSequenceEnd] then .ok (p.skip.emit .sequenceEnd)
    else if !first && !p.at? [.flowEntry] then .error .missingSeparator
    else
      let p := if first then p else p.skip
      if p.at? [.key] then
        let p ← pair handles n (p.skip.emit (.mappingStart .none))
        flowSequence handles false n p
      else if p.at? [.flowSequenceEnd] then .ok (p.skip.emit .sequenceEnd)
      else
        let p ← node handles false false n p
        flowSequence handles false n p
/-- Takes the key and the value of a mapping that is an item of a list in brackets. Where the key
is not written, the token after its mark is passed over. -/
def pair (handles : Handles) : Nat → Parse → Except Fault Parse
  | 0, _ => .error .missingContent
  | n + 1, p => do
    let p ← if p.at? [.value, .flowEntry, .flowSequenceEnd] then .ok p.skip.emptyNode
      else node handles false false n p
    let p ← if p.at? [.value] then
        let p := p.skip
        if p.at? [.flowEntry, .flowSequenceEnd] then .ok p.emptyNode
        else node handles false false n p
      else .ok p.emptyNode
    .ok (p.emit .mappingEnd)
/-- Takes the entries of a mapping in braces up to its end. -/
def flowMapping (handles : Handles) (first : Bool) : Nat → Parse → Except Fault Parse
  | 0, _ => .error .missingContent
  | n + 1, p => do
    if p.at? [.flowMappingEnd] then .ok (p.skip.emit .mappingEnd)
    else if !first && !p.at? [.flowEntry] then .error .missingSeparator
    else
      let p := if first then p else p.skip
      if p.at? [.key] then
        let p := p.skip
        let p ← if p.at? [.value, .flowEntry, .flowMappingEnd] then .ok p.emptyNode
          else node handles false false n p
        let p ← if p.at? [.value] then
            let p := p.skip
            if p.at? [.flowEntry, .flowMappingEnd] then .ok p.emptyNode
            else node handles false false n p
          else .ok p.emptyNode
        flowMapping handles false n p
      else if p.at? [.flowMappingEnd] then .ok (p.skip.emit .mappingEnd)
      else
        let p ← node handles false false n p
        flowMapping handles false n p.emptyNode
end

end Parse

/-- Takes the directives at the head of a document; `versioned` if there was one for the
version. -/
def directives (versioned : Bool) (handles : Handles) :
    List Token → Except Fault (Handles × List Token)
  | .versionDirective major minor :: rest =>
    if versioned then .error .repeatedDirective
    else if major ≠ 1 || (minor ≠ 1 && minor ≠ 2) then .error .unsupportedVersion
    else directives true handles rest
  | .tagDirective handle leading :: rest =>
    if (handles.lookup handle).isSome then .error .repeatedDirective
    else directives versioned (handles ++ [(handle, leading)]) rest
  | rest => .ok (handles ++ defaultHandles, rest)

def Token.isDirective : Token → Bool
  | .versionDirective _ _ => true
  | .tagDirective _ _ => true
  | _ => false

/-- The events of a text of at most one document; there are none without a document. -/
def events (text : String) : Except Fault (List Event) := do
  let ts ← tokens text
  let fuel := 3 * ts.length + 4
  match ts with
  | [] => .ok []
  | t :: _ =>
    let p ←
      if t.isDirective || t = .documentStart then do
        let (handles, rest) ← directives false [] ts
        match rest with
        | .documentStart :: rest =>
          let p : Parse := ⟨#[], rest⟩
          if rest.isEmpty || rest.head?.any Token.isDirective ||
              p.at? [.documentStart, .documentEnd] then
            .ok p.emptyNode
          else Parse.node handles true false fuel p
        | _ => .error .missingContent
      else Parse.node defaultHandles true false fuel ⟨#[], ts⟩
    if (p.rest.dropWhile (· = .documentEnd)).isEmpty then .ok p.events.toList
    else .error .severalDocuments

end LintEngine.Yaml
