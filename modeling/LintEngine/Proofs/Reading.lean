import LintEngine.Configuration.Load
import LintEngine.Proofs.Decoding
import LintEngine.Proofs.Merge
import LintEngine.Proofs.Result
import Mathlib.Algebra.Group.Int.Defs

namespace LintEngine

open Result

/-- A property that holds of what a reader makes, if it holds of what that is made of. -/
structure Value.Readable (P : Value → Prop) : Prop where
  null : P .null
  bool : ∀ b, P (.bool b)
  int : ∀ i, -(2 ^ 63) ≤ i → i < 2 ^ 64 → P (.int i)
  float : ∀ x, P (.float x)
  string : ∀ text, P (.string text)
  array : ∀ items : List Value, (∀ v ∈ items, P v) → P (.array items)
  map : ∀ entries : List (String × Value), (∀ entry ∈ entries, P entry.2) →
    P (.map (Fields.ofEntries entries))

theorem Value.readable_uniqueKeys : Readable UniqueKeys where
  null := .null
  bool := .bool
  int i _ _ := .int i
  float := .float
  string := .string
  array _ := .array
  map _ := Fields.uniqueKeys_ofEntries

section Readers

variable {P : Value → Prop} (hP : Value.Readable P)
include hP

namespace Jsonc

theorem numberValue_readable (text : String) : P (numberValue text) := by
  have hdecimal (negative : Bool) (magnitude : List Char) :
      P (numberValue.decimal text negative magnitude) := by
    cases negative
    all_goals
      simp only [numberValue.decimal, Bool.false_eq_true, if_true, if_false]
      split
      · next h =>
        simp only [Bool.and_eq_true, decide_eq_true_eq] at h
        exact hP.int _ (by omega) (by omega)
      · split
        · exact hP.float _
        · exact hP.string _
  unfold numberValue
  dsimp only
  split
  · split
    · split
      · split
        · exact hP.int _ (by split <;> omega) (by split <;> omega)
        · exact hP.string _
      · exact hP.string _
    · exact hdecimal _ _
  · exact hdecimal _ _

/-- The three readers call one another with a smaller bound, so what is said of them is proved
together. -/
theorem read_readable (ending : Option Fault) (bound : ℕ) :
    (∀ tokens, Yields (fun r ↦ ∀ v ∈ r.1, P v) (readValue bound ending tokens)) ∧
    (∀ opening tokens,
      Yields (fun r ↦ ∀ entry ∈ r.1, P entry.2) (readEntries bound ending opening tokens)) ∧
    (∀ opening tokens,
      Yields (fun r ↦ ∀ v ∈ r.1, P v) (readItems bound ending opening tokens)) := by
  induction bound with
  | zero =>
    refine ⟨fun tokens ↦ ?_, fun opening tokens ↦ ?_, fun opening tokens ↦ ?_⟩
    · rw [readValue]; trivial
    · rw [readEntries]; trivial
    · rw [readItems]; trivial
  | succ bound ih =>
    obtain ⟨hvalue, hentries, hitems⟩ := ih
    refine ⟨fun tokens ↦ ?_, fun opening tokens ↦ ?_, fun opening tokens ↦ ?_⟩
    · rw [readValue]
      refine (Yields.any (next ending tokens)).bind (fun found _ ↦ ?_)
      split
      · simp [Yields]
      · next l rest =>
        split
        · refine (hentries l.start rest).bind (fun r hr ↦ ?_)
          simpa [Yields] using hP.map r.1 hr
        · refine (hitems l.start rest).bind (fun r hr ↦ ?_)
          simpa [Yields] using hP.array r.1 hr
        all_goals simp [Yields, numberValue_readable hP, hP.null, hP.bool, hP.string]
    · rw [readEntries]
      refine (Yields.any (next ending tokens)).bind (fun found _ ↦ ?_)
      split
      · trivial
      · split
        · simp [Yields]
        · split
          · trivial
          · refine (Yields.any _).bind (fun colon _ ↦ ?_)
            split
            · refine (hvalue _).bind (fun r hr ↦ ?_)
              split
              · trivial
              · next value rest =>
                refine (Yields.any _).bind (fun tokens _ ↦ ?_)
                refine (hentries _ tokens).bind (fun more hmore ↦ ?_)
                simpa [Yields] using ⟨hr value rfl, fun k v he ↦ hmore (k, v) he⟩
            · trivial
            · trivial
    · rw [readItems]
      refine (Yields.any (next ending tokens)).bind (fun found _ ↦ ?_)
      split
      · trivial
      · split
        · simp [Yields]
        · refine (hvalue tokens).bind (fun r hr ↦ ?_)
          split
          · trivial
          · next value rest =>
            refine (Yields.any _).bind (fun tokens _ ↦ ?_)
            refine (hitems _ tokens).bind (fun more hmore ↦ ?_)
            simpa [Yields] using ⟨hr value rfl, hmore⟩

theorem readable_of_read {text : String} {value : Value}
    (h : read text = .ok (some value)) : P value := by
  have hr : readText text.toList = .ok (some value) := (Result.mapError_ok_iff _).1 h
  have hy : Yields (fun r ↦ ∀ v ∈ r, P v) (readText text.toList) := by
    unfold readText
    refine ((read_readable hP _ _).1 _).bind (fun r hr ↦ ?_)
    refine (Yields.any _).bind (fun found _ ↦ ?_)
    split
    · trivial
    · exact hr
  exact hy.of_eq hr value rfl

end Jsonc

namespace Yaml

theorem floatValue_readable (x : Float) : P (floatValue x) := by
  unfold floatValue
  split
  · exact hP.float x
  · exact hP.null

theorem integerText_readable {text : String} {result : Except Fault Value}
    (h : integerText? text = some result) : Yields P result := by
  obtain ⟨i, -, hi⟩ := Option.bind_eq_some_iff.1 h
  unfold integerValue? at hi
  split at hi
  · next hrange =>
    cases hi
    simp only [Bool.and_eq_true, decide_eq_true_eq] at hrange
    exact hP.int i hrange.1 hrange.2
  · split at hi
    · cases hi
      trivial
    · simp at hi

theorem plainValue_readable (text : String) : Yields P (plainValue text) := by
  unfold plainValue
  split
  · exact hP.null
  · split
    · exact hP.bool _
    · split
      · next result h => exact integerText_readable hP h
      · split
        · exact hP.string text
        · split
          · exact floatValue_readable hP _
          · exact hP.string text

theorem scalarValue_readable (tag : Option (List UInt8)) (text : String) (plain : Bool) :
    Yields P (scalarValue tag text plain) := by
  have huntagged : Yields P
      (if plain then plainValue text else .ok (.string text) : Except Fault Value) := by
    split
    · exact plainValue_readable hP text
    · exact hP.string text
  unfold scalarValue
  split
  · exact huntagged
  · split
    · split
      · trivial
      · exact huntagged
    · split
      · split
        · exact hP.bool _
        · trivial
      · split
        · split
          · next result h => exact integerText_readable hP h
          · trivial
        · split
          · split
            · exact floatValue_readable hP _
            · trivial
          · split
            · split
              · exact hP.null
              · trivial
            · exact hP.string text

namespace Document

/-- The readers of values, items and entries call one another with a smaller bound. -/
theorem read_readable (d : Document) (bound : ℕ) :
    (∀ depth jumps steps, Yields (fun r ↦ P r.result) (d.value depth jumps steps bound)) ∧
    (∀ depth jumps steps,
      Yields (fun r ↦ ∀ v ∈ r.result, P v) (d.items depth jumps steps bound)) ∧
    (∀ depth jumps steps,
      Yields (fun r ↦ ∀ entry ∈ r.result, P entry.2) (d.entries depth jumps steps bound)) := by
  induction bound with
  | zero =>
    refine ⟨fun depth jumps steps ↦ ?_, fun depth jumps steps ↦ ?_, fun depth jumps steps ↦ ?_⟩
    · rw [value]; trivial
    · rw [items]; trivial
    · rw [entries]; trivial
  | succ bound ih =>
    obtain ⟨hvalue, hitems, hentries⟩ := ih
    refine ⟨fun depth jumps steps ↦ ?_, fun depth jumps steps ↦ ?_, fun depth jumps steps ↦ ?_⟩
    · rw [value.eq_def]
      dsimp only
      split
      · refine (Yields.any _).bind (fun jumps _ ↦ ?_)
        exact (hvalue _ _ _).bind (fun r hr ↦ hr)
      · exact (scalarValue_readable hP _ _ _).bind (fun v hv ↦ hv)
      · refine (Yields.any _).bind (fun _ _ ↦ ?_)
        split
        · trivial
        · exact (hitems _ _ _).bind (fun r hr ↦ hP.array _ hr)
      · refine (Yields.any _).bind (fun _ _ ↦ ?_)
        split
        · trivial
        · exact (hentries _ _ _).bind (fun r hr ↦ hP.map _ hr)
      · trivial
    · rw [items.eq_def]
      dsimp only
      split
      · simp [Yields]
      · refine (hvalue _ _ _).bind (fun first hfirst ↦ ?_)
        refine (hitems _ _ _).bind (fun more hmore ↦ ?_)
        simpa [Yields] using ⟨hfirst, hmore⟩
    · rw [entries.eq_def]
      dsimp only
      split
      · simp [Yields]
      · refine (Yields.any _).bind (fun key _ ↦ ?_)
        refine (hvalue _ _ _).bind (fun v hv ↦ ?_)
        refine (hentries _ _ _).bind (fun more hmore ↦ ?_)
        simpa [Yields] using ⟨hv, fun k v he ↦ hmore (k, v) he⟩

end Document

theorem read_readable (text : String) : Yields P (read text) := by
  unfold read
  refine (Yields.any _).bind (fun es _ ↦ ?_)
  split
  · exact hP.null
  · refine (Yields.any _).bind (fun numbered _ ↦ ?_)
    exact ((Document.read_readable hP _ _).1 _ _ _).bind (fun r hr ↦ hr)

end Yaml

namespace Configuration

theorem ofValue_readable {value : Value} (h : P value) :
    Yields (fun c ↦ P (.map c.fields)) (ofValue value) := by
  cases value with
  | map fields => exact h
  | null => exact hP.map [] (by simp)
  | _ => trivial

theorem ofText_readable (path : Path) (text : String) :
    Yields (fun c ↦ P (.map c.fields)) (ofText path text) := by
  unfold ofText
  split
  · unfold ofYaml
    split
    · exact hP.map [] (by simp)
    · split
      · next value hv => exact ofValue_readable hP ((Yaml.read_readable hP text).of_eq hv)
      · trivial
  · unfold ofJson
    split
    · next value hv =>
      cases value with
      | none => exact ofValue_readable hP hP.null
      | some value => exact ofValue_readable hP (Jsonc.readable_of_read hP hv)
    · trivial

end Configuration

end Readers

namespace Configuration

theorem readText_eq_ok {tree : FileTree} {path : Path} {text : String} :
    readText tree path = .ok text ↔
      ∃ bytes, tree.read path = .ok bytes ∧ Text.decode bytes = .ok text := by
  rw [readText, bind_eq_ok]
  refine exists_congr (fun bytes ↦ and_congr_right (fun _ ↦ ?_))
  cases Text.decode bytes <;> simp

theorem load_eq_ok {tree : FileTree} {path : Path} {d : Configuration} :
    load tree path = .ok d ↔ ∃ text c, readText tree path = .ok text ∧
      ofText path text = .ok c ∧ { c with path := some path } = d := by
  unfold load
  cases readText tree path with
  | error e => simp
  | ok text => cases h : ofText path text <;> simp [h]

theorem readable_of_load {P : Value → Prop} (hP : Value.Readable P) {tree : FileTree} {path : Path}
    {c : Configuration} (h : load tree path = .ok c) : P (.map c.fields) := by
  obtain ⟨text, d, -, hd, rfl⟩ := load_eq_ok.1 h
  have hfields : P (.map d.fields) := (ofText_readable hP path text).of_eq hd
  exact hfields

theorem uniqueKeys_of_load {tree : FileTree} {path : Path} {c : Configuration}
    (h : load tree path = .ok c) : c.UniqueKeys :=
  readable_of_load Value.readable_uniqueKeys h

theorem path_of_load {tree : FileTree} {path : Path} {c : Configuration}
    (h : load tree path = .ok c) : c.path = some path := by
  obtain ⟨-, -, -, -, rfl⟩ := load_eq_ok.1 h
  rfl

theorem locate_of_load {tree : FileTree} {path : Path} {c : Configuration}
    (h : load tree path = .ok c) :
    ∃ place node, tree.locate .follow path = .ok place ∧ tree.node? place = some node ∧
      tree.isDirectoryAt place = false := by
  obtain ⟨text, -, htext, -, -⟩ := load_eq_ok.1 h
  obtain ⟨bytes, hread, -⟩ := readText_eq_ok.1 htext
  obtain ⟨node, hnode, hfile⟩ := bind_eq_ok.1 hread
  obtain ⟨place, hplace, hnode⟩ := bind_eq_ok.1 hnode
  cases hn : tree.node? place with
  | none => simp [hn] at hnode
  | some node' =>
    simp only [hn, Except.ok.injEq] at hnode
    subst hnode
    refine ⟨place, node', hplace, hn, ?_⟩
    cases node' with
    | directory => simp at hfile
    | _ => simp [FileTree.isDirectoryAt, hn]

theorem load_json {tree : FileTree} {path : Path} {place : Place} {text : String}
    {fields : Fields} (he : path.extension? = none) (hp : tree.locate .follow path = .ok place)
    (hn : tree.node? place = some (.file text.toUTF8))
    (hr : Jsonc.readText text.toList = .ok (some (.map fields))) :
    load tree path = .ok ⟨fields, some path⟩ := by
  have hread : tree.read path = .ok text.toUTF8 := by
    simp only [FileTree.read, FileTree.lookup, bind, Except.bind, hp, hn]
  have htext := readText_eq_ok.2 ⟨_, hread, Text.decode_toUTF8 text⟩
  refine load_eq_ok.2 ⟨text, ⟨fields, none⟩, htext, ?_, rfl⟩
  rw [ofText, he, if_neg (by decide)]
  simp only [ofJson, Jsonc.read, hr]
  rfl

end Configuration

end LintEngine
