namespace LintEngine.Yaml

/-- What can be wrong with a YAML text. -/
inductive Fault where
  | controlCharacter
  | unexpectedCharacter
  | misplacedEntry
  | misplacedKey
  | misplacedValue
  | missingColon
  | malformedDirective
  | malformedAnchor
  | malformedTag
  | malformedBlockScalar
  | tabInIndentation
  | unterminatedQuote
  | malformedEscape
  | colonInFlow
  | missingContent
  | missingSeparator
  | repeatedDirective
  | unsupportedVersion
  | undefinedHandle
  | unknownAlias
  | severalDocuments
  | tooManyAliases
  | tooDeep
  | localTag
  | unsuitableText
  | integerTooLarge
  | collectionAsKey
deriving DecidableEq, Repr

/-- The wording of a fault. -/
def Fault.message : Fault → String
  | controlCharacter => "control characters are not allowed"
  | unexpectedCharacter => "found character that cannot start any token"
  | misplacedEntry => "block sequence entries are not allowed in this context"
  | misplacedKey => "mapping keys are not allowed in this context"
  | misplacedValue => "mapping values are not allowed in this context"
  | missingColon => "could not find expected ':'"
  | malformedDirective => "found a malformed directive"
  | malformedAnchor => "did not find expected alphabetic or numeric character"
  | malformedTag => "found a malformed tag"
  | malformedBlockScalar => "found a malformed block scalar"
  | tabInIndentation => "found a tab character where an indentation space is expected"
  | unterminatedQuote => "found unexpected end of stream"
  | malformedEscape => "found unknown escape character"
  | colonInFlow => "found unexpected ':'"
  | missingContent => "did not find expected node content"
  | missingSeparator => "did not find expected ',' or closing bracket"
  | repeatedDirective => "found duplicate directive"
  | unsupportedVersion => "found incompatible YAML document"
  | undefinedHandle => "found undefined tag handle"
  | unknownAlias => "unknown anchor"
  | severalDocuments => "more than one document is not supported"
  | tooManyAliases => "repetition limit exceeded"
  | tooDeep => "recursion limit exceeded"
  | localTag => "tags of an application are not supported"
  | unsuitableText => "the text of a scalar does not suit its tag"
  | integerTooLarge => "integer out of range"
  | collectionAsKey => "a key must be a scalar"

def isSpaceOrTab (c : Char) : Bool :=
  c = ' ' || c = '\t'

def isBreak (c : Char) : Bool :=
  c = '\r' || c = '\n' || c = '\u0085' || c = '\u2028' || c = '\u2029'

def isWordChar (c : Char) : Bool :=
  c.isAlphanum || c = '_' || c = '-'

def blankAhead : List Char → Bool
  | [] => true
  | c :: _ => isSpaceOrTab c || isBreak c

def breakAhead : List Char → Bool
  | [] => true
  | c :: _ => isBreak c

/-- The characters that are left, with the position of the first of them: the bytes before it, its
line and its column. -/
structure Cursor where
  rest : List Char
  index : Nat
  line : Nat
  column : Nat

def byteCount (text : List Char) : Nat :=
  text.foldl (fun n c => n + c.utf8Size) 0

namespace Cursor

def advance (here : Cursor) (n : Nat) : Cursor :=
  { here with
    rest := here.rest.drop n
    index := here.index + byteCount (here.rest.take n)
    column := here.column + n }

def advanceWhile (here : Cursor) (p : Char → Bool) : Cursor :=
  here.advance (here.rest.takeWhile p).length

def takeBreak? (here : Cursor) : Option (Char × Cursor) :=
  match here.rest with
  | '\r' :: '\n' :: rest => some ('\n', ⟨rest, here.index + 2, here.line + 1, 0⟩)
  | c :: rest =>
    if isBreak c then
      some (if c = '\u2028' || c = '\u2029' then c else '\n',
        ⟨rest, here.index + c.utf8Size, here.line + 1, 0⟩)
    else none
  | [] => none

def skipBreak (here : Cursor) : Cursor :=
  match here.takeBreak? with
  | some (_, next) => next
  | none => here

def skipComment (here : Cursor) : Cursor :=
  if here.rest.head? = some '#' then here.advanceWhile fun c => !isBreak c else here

def atMarks (here : Cursor) (mark : Char) : Bool :=
  here.column = 0 &&
    match here.rest with
    | a :: b :: c :: rest => a = mark && b = mark && c = mark && blankAhead rest
    | _ => false

def atDocumentMark (here : Cursor) : Bool :=
  here.atMarks '-' || here.atMarks '.'

end Cursor

end LintEngine.Yaml
