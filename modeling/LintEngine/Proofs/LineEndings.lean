import LintEngine.Proofs.Positions
import Mathlib.Data.List.DropRight
import Mathlib.Data.List.Infix
import Mathlib.Data.List.TakeWhile

namespace LintEngine

namespace Text

/-- How a line may end. -/
inductive LineEnding where
  | lineFeed
  | returnLineFeed
deriving DecidableEq, Repr

def LineEnding.text : LineEnding → String
  | lineFeed => "\n"
  | returnLineFeed => "\r\n"

/-- A line that ends where its ending starts, whichever this is. -/
structure IsLine (line : String) : Prop where
  feed_not_mem : '\n' ∉ line.toList
  getLast?_ne : line.toList.getLast? ≠ some '\r'

/-- A text that lines make up, each of them with an ending. The last one needs none unless it is
empty. -/
inductive Layout : List String → String → Prop
  | nil : Layout [] ""
  | unended (line : String) : line ≠ "" → Layout [line] line
  | ended (line : String) (ending : LineEnding) {lines : List String} {text : String} :
      Layout lines text → Layout (line :: lines) (line ++ ending.text ++ text)

variable {line text : String} {lines : List String} {current cs rest : List Char} {c : Char}

theorem linesFrom_cons (h : c ≠ '\n') :
    linesFrom current (c :: rest) = linesFrom (c :: current) rest := by
  rw [linesFrom]
  exact h

theorem linesFrom_append (h : '\n' ∉ cs) (current rest : List Char) :
    linesFrom current (cs ++ rest) = linesFrom (cs.reverse ++ current) rest := by
  induction cs generalizing current with
  | nil => rfl
  | cons c cs ih =>
    rw [List.mem_cons, not_or] at h
    rw [List.cons_append, linesFrom_cons (Ne.symm h.1), ih h.2, List.reverse_cons,
      List.append_assoc]
    rfl

theorem dropReturn_of_head? (h : current.head? ≠ some '\r') : dropReturn current = current := by
  unfold dropReturn
  split
  · exact absurd rfl h
  · rfl

theorem lines_empty : Text.lines "" = [] := rfl

theorem lines_unended (hfeed : '\n' ∉ line.toList) (hne : line ≠ "") :
    Text.lines line = [line] := by
  have hlines := linesFrom_append hfeed [] []
  rw [List.append_nil, List.append_nil] at hlines
  simp [Text.lines, hlines, linesFrom, hne]

theorem lines_ended (h : IsLine line) (ending : LineEnding) (text : String) :
    Text.lines (line ++ ending.text ++ text) = line :: Text.lines text := by
  have hkeep : dropReturn line.toList.reverse = line.toList.reverse :=
    dropReturn_of_head? (by rw [List.head?_reverse]; exact h.getLast?_ne)
  have hline : linesFrom [] (line.toList ++ (ending.text.toList ++ text.toList)) =
      line.toList :: linesFrom [] text.toList := by
    rw [linesFrom_append h.feed_not_mem, List.append_nil]
    cases ending with
    | lineFeed =>
      change (dropReturn line.toList.reverse).reverse :: linesFrom [] text.toList = _
      rw [hkeep, List.reverse_reverse]
    | returnLineFeed =>
      change line.toList.reverse.reverse :: linesFrom [] text.toList = _
      rw [List.reverse_reverse]
  simp [Text.lines, hline]

theorem lines_of_layout (h : Layout lines text) (hlines : ∀ line ∈ lines, IsLine line) :
    Text.lines text = lines := by
  induction h with
  | nil => exact lines_empty
  | unended line hne => exact lines_unended (hlines line List.mem_cons_self).feed_not_mem hne
  | ended line ending _ ih =>
    rw [List.forall_mem_cons] at hlines
    rw [lines_ended hlines.1, ih hlines.2]

section Kept

theorem exists_linesFrom_cons (c : Char) (current rest : List Char) :
    ∃ line more, linesFrom (c :: current) rest = line :: more ∧ current.reverse <+: line := by
  induction rest generalizing c current with
  | nil => exact ⟨(c :: current).reverse, [], rfl, by simp⟩
  | cons d rest ih =>
    by_cases hd : d = '\n'
    · subst hd
      refine ⟨(dropReturn (c :: current)).reverse, linesFrom [] rest, rfl, ?_⟩
      unfold dropReturn
      split
      · next h =>
        cases h
        exact List.prefix_rfl
      · simp
    · rw [linesFrom_cons hd]
      obtain ⟨line, more, hlines, hprefix⟩ := ih d (c :: current)
      exact ⟨line, more, hlines, .trans (by simp) hprefix⟩

theorem exists_linesFrom_of_kept (h : ¬(c = '\r' ∧ rest.head? = some '\n'))
    (current : List Char) :
    ∃ line more, linesFrom (c :: current) rest = line :: more ∧
      (c :: current).reverse <+: line := by
  cases rest with
  | nil => exact ⟨(c :: current).reverse, [], rfl, List.prefix_rfl⟩
  | cons d rest =>
    by_cases hd : d = '\n'
    · subst hd
      have hc : c ≠ '\r' := fun hc ↦ h ⟨hc, rfl⟩
      refine ⟨(dropReturn (c :: current)).reverse, linesFrom [] rest, rfl, ?_⟩
      rw [dropReturn_of_head? (by simpa using hc)]
    · rw [linesFrom_cons hd]
      exact exists_linesFrom_cons d (c :: current) rest

/-- A character that follows the given text is found in its line, after what follows the last line
feed there. -/
def Stands (before : List Char) (c : Char) (lines : List String) : Prop :=
  ∃ line, lines[before.count '\n']? = some line ∧
    line.toList[(before.rtakeWhile (· ≠ '\n')).length]? = some c

theorem takeWhile_append_feed (l m : List Char) :
    (l ++ '\n' :: m).takeWhile (· ≠ '\n') = l.takeWhile (· ≠ '\n') := by
  induction l with
  | nil => rfl
  | cons d l ih => rw [List.cons_append, List.takeWhile_cons, List.takeWhile_cons, ih]

theorem getElem?_linesFrom (hc : c ≠ '\n') (hkept : ¬(c = '\r' ∧ rest.head? = some '\n'))
    (before : List Char) (hcurrent : '\n' ∉ current) :
    ∃ whole, (linesFrom current (before ++ c :: rest))[before.count '\n']? = some whole ∧
      whole[((before.reverse ++ current).takeWhile (· ≠ '\n')).length]? = some c := by
  -- The line at hand starts with `current`, which a line feed in `before` puts aside.
  induction before generalizing current with
  | nil =>
    obtain ⟨line, more, hlines, tail, rfl⟩ := exists_linesFrom_of_kept hkept current
    have hall : current.takeWhile (· ≠ '\n') = current :=
      List.takeWhile_eq_self_iff.2 fun d hd ↦ decide_eq_true fun he ↦ hcurrent (he ▸ hd)
    refine ⟨(c :: current).reverse ++ tail, ?_, ?_⟩
    · rw [List.nil_append, linesFrom_cons hc, hlines]
      rfl
    · rw [List.reverse_nil, List.nil_append, hall]
      simp
  | cons b before ih =>
    by_cases hb : b = '\n'
    · subst hb
      obtain ⟨line, hline, hplace⟩ := ih List.not_mem_nil
      refine ⟨line, ?_, ?_⟩
      · rw [List.count_cons_self]
        exact hline
      · rw [← hplace, List.append_nil, List.reverse_cons, List.append_assoc, List.singleton_append,
          takeWhile_append_feed]
    · have hcurrent' : '\n' ∉ b :: current :=
        List.not_mem_cons_of_ne_of_not_mem (Ne.symm hb) hcurrent
      obtain ⟨line, hline, hplace⟩ := ih hcurrent'
      refine ⟨line, ?_, ?_⟩
      · rw [List.count_cons_of_ne hb, List.cons_append, linesFrom_cons hb]
        exact hline
      · rw [← hplace, List.reverse_cons, List.append_assoc]
        rfl

theorem stands_of_kept (hc : c ≠ '\n') (hkept : ¬(c = '\r' ∧ rest.head? = some '\n'))
    (before : List Char) :
    Stands before c (Text.lines (String.ofList (before ++ c :: rest))) := by
  obtain ⟨line, hline, hplace⟩ := getElem?_linesFrom hc hkept before List.not_mem_nil
  refine ⟨String.ofList line, ?_, ?_⟩
  · rw [Text.lines, String.toList_ofList, List.getElem?_map, hline, Option.map_some]
  · rw [String.toList_ofList, ← hplace, List.rtakeWhile, List.length_reverse, List.append_nil]

end Kept

end Text

namespace Document

def ComesFrom (document : Document) (path : Option Path) (source : String) : Prop :=
  ∃ parser configuration, Document.parse parser configuration path source = .ok document

variable {document : Document} {path : Option Path} {source : String}

theorem ComesFrom.ofSource (path : Option Path) (source : String) :
    (Document.ofSource source path).ComesFrom path source :=
  ⟨.plain, .empty, rfl⟩

theorem ComesFrom.lines_and_path (h : document.ComesFrom path source) :
    document.lines = Text.lines source ∧ document.path = path := by
  obtain ⟨parser, configuration, h⟩ := h
  rw [Document.parse] at h
  split at h
  · cases h
    exact ⟨rfl, rfl⟩
  · split at h <;> cases h

end Document

section Reports

variable {document document' : Document}

theorem BuiltIn.congr {scan : Document → Scan} (h : BuiltIn scan)
    (hlines : document.lines = document'.lines) : scan document = scan document' := by
  have hbyLine (remarks : String → List Remark) :
      Scan.byLine remarks document = Scan.byLine remarks document' := by
    rw [Scan.byLine, hlines, Scan.byLine]
  cases h with
  | lineLength max => exact hbyLine (LineLength.remarks max)
  | noTodo keywords => exact hbyLine (NoTodo.remarks keywords)
  | trailingWhitespace => exact hbyLine TrailingWhitespace.remarks

/-- How lines end makes no difference, and a carriage return without a line feed ends none. -/
theorem lines_of_any_endings (lines : List String) (hlines : ∀ line ∈ lines, Text.IsLine line)
    (text : String) (htext : Text.Layout lines text) :
    (∀ path document, Document.ComesFrom document path text → document.lines = lines) ∧
    (∀ text', Text.Layout lines text' → ∀ path document document',
      Document.ComesFrom document path text → Document.ComesFrom document' path text' →
      (∀ scan, BuiltIn scan → scan document = scan document') ∧
      ∀ name d settings i, builtInLinter? name = some (.ok d) → d.instantiate settings = .ok i →
        (i.run document).1 = (i.run document').1) ∧
    ∀ (before rest : List Char) (path : Option Path) (document : Document),
      rest.head? ≠ some '\n' →
      document.ComesFrom path (String.ofList (before ++ '\r' :: rest)) →
      Text.Stands before '\r' document.lines := by
  have hread {text : String} (htext : Text.Layout lines text) {path : Option Path}
      {document : Document} (h : document.ComesFrom path text) : document.lines = lines :=
    h.lines_and_path.1.trans (Text.lines_of_layout htext hlines)
  refine ⟨fun path document h ↦ hread htext h, ?_, ?_⟩
  · intro text' htext' path document document' h h'
    have hscan {scan : Document → Scan} (hbuilt : BuiltIn scan) : scan document = scan document' :=
      hbuilt.congr ((hread htext h).trans (hread htext' h').symm)
    refine ⟨fun scan ↦ hscan, ?_⟩
    intro name d settings i hd hi
    have hpath : document.path = document'.path :=
      h.lines_and_path.2.trans h'.lines_and_path.2.symm
    exact Instance.run_congr rfl rfl (hscan (builtIn_of_instantiate hd hi)) hpath
  · intro before rest path document hrest h
    rw [h.lines_and_path.1]
    exact Text.stands_of_kept (by decide) (fun hreturn ↦ hrest hreturn.2) before

def someLines : List String := ["a\rb", "", "TODO "]

theorem layout_someLines :
    Text.Layout someLines "a\rb\r\n\nTODO " ∧ Text.Layout someLines "a\rb\n\r\nTODO \r\n" := by
  have hfirst : "a\rb\r\n\nTODO " = "a\rb" ++ "\r\n" ++ ("" ++ "\n" ++ "TODO ") := by decide
  have hsecond : "a\rb\n\r\nTODO \r\n" =
      "a\rb" ++ "\n" ++ ("" ++ "\r\n" ++ ("TODO " ++ "\r\n" ++ "")) := by decide
  rw [hfirst, hsecond]
  constructor
  · exact .ended _ .returnLineFeed (.ended _ .lineFeed (.unended _ (by decide)))
  · exact .ended _ .lineFeed (.ended _ .returnLineFeed (.ended _ .returnLineFeed .nil))

theorem lines_of_any_endings_someLines :
    (∀ line ∈ someLines, Text.IsLine line) ∧
    (Document.ofSource "a\rb\r\n\nTODO " none).lines = someLines ∧
    (TrailingWhitespace.scan (.ofSource "a\rb\r\n\nTODO " none)).findings.length = 1 ∧
    TrailingWhitespace.scan (.ofSource "a\rb\r\n\nTODO " none) =
      TrailingWhitespace.scan (.ofSource "a\rb\n\r\nTODO \r\n" none) ∧
    Text.Stands ['x'] '\r' (Document.ofSource "x\r" none).lines := by
  have hlines : ∀ line ∈ someLines, Text.IsLine line := by
    intro line hline
    have hmem : line = "a\rb" ∨ line = "" ∨ line = "TODO " := by simpa [someLines] using hline
    obtain rfl | rfl | rfl := hmem
    · exact ⟨by decide, by decide⟩
    · exact ⟨by decide, by decide⟩
    · exact ⟨by decide, by decide⟩
  obtain ⟨hread, hscan, hreturn⟩ := lines_of_any_endings someLines hlines _ layout_someLines.1
  refine ⟨hlines, hread none _ (.ofSource none _), by decide, ?_, ?_⟩
  · exact (hscan _ layout_someLines.2 none _ _ (.ofSource none _) (.ofSource none _)).1 _
      .trailingWhitespace
  · exact hreturn ['x'] [] none _ (by decide) (.ofSource none "x\r")

end Reports

end LintEngine
