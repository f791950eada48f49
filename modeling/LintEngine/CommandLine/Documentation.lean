import LintEngine.Linter.Registry
import LintEngine.Text.Blank

namespace LintEngine.Documentation

structure Row where
  option : String
  description : String
  kind : String
  default : String

def Row.cells (r : Row) : List String :=
  [r.option, r.description, r.kind, r.default]

def header : Row := ⟨"Option", "Description", "Type", "Default"⟩

def itemText : Value → String
  | .string s => s
  | other => other.json

def defaultText : Option Value → String
  | none => ""
  | some (.string s) => s
  | some (.array items) => ", ".intercalate (items.map itemText)
  | some other => other.json

def optionRow (declared : String × OptionSpec) : Row :=
  ⟨declared.1, declared.2.description, declared.2.kind.name, defaultText declared.2.default⟩

def widths (rows : List Row) : List Nat :=
  rows.foldl (fun ws r => List.zipWith (fun w cell => max w cell.length) ws r.cells) [0, 0, 0, 0]

def pad (width : Nat) (text : String) : String :=
  text ++ String.ofList (List.replicate (width - text.length) ' ')

def rowLine (widths : List Nat) (r : Row) : String :=
  let line := "  ".intercalate (List.zipWith pad widths r.cells)
  String.ofList (Text.dropTrailingBlanks line.toList) ++ "\n"

def ruleLine (widths : List Nat) : String :=
  "  ".intercalate (widths.map fun w => String.ofList (List.replicate w '-')) ++ "\n"

def table (rows : List Row) : String :=
  let widths := widths (header :: rows)
  "\n" ++ rowLine widths header ++ ruleLine widths ++ String.join (rows.map (rowLine widths))

def linter (d : Descriptor) : String :=
  "\n" ++ d.name ++ "\n" ++ d.description ++ "\n" ++
    (if d.schema.isEmpty then "" else table (d.schema.options.map optionRow))

def page (linters : List Descriptor) : String :=
  let sorted := linters.mergeSort fun a b => (compare a.name b.name).isLE
  "Linter Documentation\n--------------------\n" ++ String.join (sorted.map linter)

end LintEngine.Documentation
