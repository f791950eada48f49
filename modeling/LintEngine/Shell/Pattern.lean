import LintEngine.Shell.Regex

namespace LintEngine.Shell

structure Glyph where
  char : Char
  literal : Bool
deriving DecidableEq

def glyphs (literal : Bool) (text : Bytes) : List Glyph :=
  text.map fun c => ⟨c, literal⟩

def Glyph.text (gs : List Glyph) : Bytes :=
  gs.map Glyph.char

def Glyph.isSign (g : Glyph) (c : Char) : Bool :=
  g.char = c && !g.literal

inductive Wildcard where
  | char (c : Char)
  | one
  | many
  | set (negated : Bool) (ranges : List (Char × Char))
deriving DecidableEq

namespace Wildcard

def namedClass? (gs : List Glyph) : Option (List (Char × Char) × List Glyph) :=
  let name := gs.takeWhile fun g => g.char ≠ ':' && g.char ≠ ']'
  match gs.drop name.length with
  | colon :: close :: rest =>
    if colon.char = ':' && close.char = ']' then
      (Regex.namedClass? (String.ofList (Glyph.text name))).map fun ranges => (ranges, rest)
    else none
  | _ => none

def member? : List Glyph → Option (Char × List Glyph)
  | [] => none
  | g :: rest =>
    if g.isSign '\\' then
      match rest with
      | h :: rest => some (h.char, rest)
      | [] => some ('\\', [])
    else some (g.char, rest)

def members : Nat → Bool → List (Char × Char) → List Glyph →
    Option (List (Char × Char) × List Glyph)
  | 0, _, _, _ => none
  | _ + 1, _, _, [] => none
  | n + 1, first, ranges, g :: rest =>
    if g.isSign ']' && !first then some (ranges, rest)
    else
      match (if g.isSign '[' && rest.head?.any (·.isSign ':') then namedClass? (rest.drop 1)
        else none) with
      | some (named, rest) => members n false (ranges ++ named) rest
      | none =>
        match member? (g :: rest) with
        | none => none
        | some (low, rest) =>
          match rest with
          | dash :: high :: more =>
            if dash.isSign '-' && !high.isSign ']' then
              match member? (high :: more) with
              | some (high, rest) => members n false (ranges ++ [(low, high)]) rest
              | none => none
            else members n false (ranges ++ [(low, low)]) (dash :: high :: more)
          | rest => members n false (ranges ++ [(low, low)]) rest

def set? (gs : List Glyph) : Option (Wildcard × List Glyph) :=
  match gs with
  | [] => none
  | g :: rest =>
    if g.isSign '!' then
      (members (rest.length + 1) true [] rest).map fun (ranges, rest) => (.set true ranges, rest)
    else
      (members (gs.length + 1) true [] gs).map fun (ranges, rest) => (.set false ranges, rest)

def parseFrom : Nat → List Glyph → List Wildcard
  | 0, _ => []
  | _ + 1, [] => []
  | n + 1, g :: rest =>
    if g.literal then .char g.char :: parseFrom n rest
    else
      match g.char with
      | '*' => .many :: parseFrom n rest
      | '?' => .one :: parseFrom n rest
      | '\\' =>
        match rest with
        | h :: rest => .char h.char :: parseFrom n rest
        | [] => [.char '\\']
      | '[' =>
        match set? rest with
        | some (w, rest) => w :: parseFrom n rest
        | none => .char '[' :: parseFrom n rest
      | c => .char c :: parseFrom n rest

def parse (gs : List Glyph) : List Wildcard :=
  parseFrom gs.length gs

def isMatch : List Wildcard → Bytes → Bool
  | [], text => text.isEmpty
  | .many :: ws, [] => isMatch ws []
  | .many :: ws, c :: text => isMatch ws (c :: text) || isMatch (.many :: ws) text
  | _ :: _, [] => false
  | .char d :: ws, c :: text => c = d && isMatch ws text
  | .one :: ws, _ :: text => isMatch ws text
  | .set negated ranges :: ws, c :: text =>
    (Regex.inSet false ranges c != negated) && isMatch ws text
termination_by ws text => ws.length + text.length

def occurIn (gs : List Glyph) : Bool :=
  gs.any fun g => g.isSign '*' || g.isSign '?' || g.isSign '['

def cutStart (longest : Bool) (ws : List Wildcard) (text : Bytes) : Bytes :=
  let lengths := List.range (text.length + 1)
  match (if longest then lengths.reverse else lengths).find? fun n => isMatch ws (text.take n) with
  | some n => text.drop n
  | none => text

def cutEnd (longest : Bool) (ws : List Wildcard) (text : Bytes) : Bytes :=
  let lengths := List.range (text.length + 1)
  match (if longest then lengths else lengths.reverse).find? fun n => isMatch ws (text.drop n) with
  | some n => text.take n
  | none => text

end Wildcard

end LintEngine.Shell
