import LintEngine.Linter.Line

namespace LintEngine.NoTodo

/-- Where a keyword occurs in the rest of a line, from left to right and without overlaps. The rest
starts at `offset`, and its first `skip` bytes belong to an occurrence. -/
def occurrencesFrom (keyword : List UInt8) (offset skip : Nat) : List UInt8 → List Nat
  | [] => []
  | b :: rest =>
    match skip with
    | skip + 1 => occurrencesFrom keyword (offset + 1) skip rest
    | 0 =>
      if keyword.isPrefixOf (b :: rest) then
        offset :: occurrencesFrom keyword (offset + 1) (keyword.length - 1) rest
      else occurrencesFrom keyword (offset + 1) 0 rest

def occurrences (keyword line : String) : List Nat :=
  occurrencesFrom keyword.toUTF8.toList 0 0 line.toUTF8.toList

structure Marker where
  offset : Nat
  keyword : String
deriving DecidableEq, Repr

def Marker.compare (a b : Marker) : Ordering :=
  (Ord.compare a.offset b.offset).then (Ord.compare a.keyword b.keyword)

def markers (keywords : List String) (line : String) : List Marker :=
  let found := (keywords.filter (· ≠ "")).flatMap fun keyword =>
    (occurrences keyword line).map fun offset => Marker.mk offset keyword
  found.mergeSort fun a b => (a.compare b).isLE

def message (keyword : String) : String :=
  s!"Found \x60{keyword}\x60 marker"

def remarks (keywords : List String) (line : String) : List Remark :=
  (markers keywords line).map fun m => ⟨columnAt? line m.offset, message m.keyword⟩

def scan (keywords : List String) (document : Document) : Scan :=
  .byLine (remarks keywords) document

def descriptor : Except Error Descriptor :=
  Descriptor.build "NoTodo" "Checks for TODO-style markers left in the text."
    [("keywords", ⟨.array, some (.array [.string "TODO", .string "FIXME"]), "Markers to report"⟩)]
    fun settings => do
      let keywords ← settings.strings "keywords"
      .ok (scan keywords)

end LintEngine.NoTodo
