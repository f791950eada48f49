import LintEngine.Document.Preprocess
import LintEngine.Proofs.Components
import LintEngine.Search
import LintEngine.Selection
import Mathlib.Logic.Function.Iterate

namespace LintEngine

namespace Path

open FileTree

variable {w p q : Path} {names : List String}

def ofNames (names : List String) : Path := ⟨"/".intercalate names⟩

/-- The ways to write a relative path `p`: with `./` in front any number of times, or behind the
directory `w`. -/
inductive Spells (w p : Path) : Path → Prop
  | dotted (k : ℕ) : Spells w p ((join ⟨"."⟩)^[k] p)
  | absolute : Spells w p (w.join p)

theorem segments_ofNames (hne : names ≠ []) (h : ∀ s ∈ names, IsName s) :
    segments (ofNames names) = names :=
  segments_intercalate hne fun s hs ↦ (h s hs).no_slash

theorem isAbsolute_ofNames (hne : names ≠ []) (h : ∀ s ∈ names, IsName s) :
    (ofNames names).isAbsolute = false := by
  rw [← Bool.not_eq_true, isAbsolute_iff, segments_ofNames hne h]
  rintro ⟨rest, -, rfl⟩
  have hempty := (h "" List.mem_cons_self).not_skips
  cases hempty

theorem ofPieces_dotted (h : ∀ s ∈ names, IsName s) (k : ℕ) :
    ofPieces (trimEnd (trimStart ((List.replicate k "." ++ names).map Piece.ofText))) =
      ofNames names := by
  have hdots : (List.replicate k "." ++ names).dropWhile skips = names.dropWhile skips := by
    refine List.dropWhile_append_of_pos fun s hs ↦ ?_
    rw [List.eq_of_mem_replicate hs]
    rfl
  have htrim : trimmed (List.replicate k "." ++ names) = names := by
    rw [trimmed, hdots]
    exact trimmed_of_names h
  rw [trim_ofText, htrim, ofPieces_ofText, ofNames]

theorem segments_dotted (hne : names ≠ []) (h : ∀ s ∈ names, IsName s) (k : ℕ) :
    segments ((join ⟨"."⟩)^[k] (ofNames names)) = List.replicate k "." ++ names ∧
      ((join ⟨"."⟩)^[k] (ofNames names)).isAbsolute = false := by
  induction k with
  | zero => exact ⟨segments_ofNames hne h, isAbsolute_ofNames hne h⟩
  | succ k ih =>
    obtain ⟨hs, habs⟩ := ih
    rw [Function.iterate_succ_apply']
    have hdot : segments ⟨"."⟩ = ["."] := rfl
    have hsegments : segments ((Path.mk ".").join ((join ⟨"."⟩)^[k] (ofNames names))) =
        "." :: (List.replicate k "." ++ names) := by
      rw [join_current habs, segments_append_slash, hdot, hs, List.singleton_append]
    refine ⟨hsegments, ?_⟩
    rw [← Bool.not_eq_true, isAbsolute_iff_of_cons hsegments (by simp [hne])]
    decide

theorem components_ofNames (h : ∀ s ∈ names, IsName s) :
    (ofNames names).components = names.map .name := by
  rw [ofNames, components_intercalate (fun s hs ↦ (h s hs).no_slash) (fun first rest he ↦ ?_),
    filterMap_inner_of_names h]
  exact (h first (he ▸ List.mem_cons_self)).not_skips

theorem normalize_dotted (hne : names ≠ []) (h : ∀ s ∈ names, IsName s) (k : ℕ) :
    ((join ⟨"."⟩)^[k] (ofNames names)).normalize = ofNames names := by
  have hcomponents := components_ofNames h
  cases k with
  | zero =>
    refine normalize_of_head fun rest hc ↦ ?_
    have hmem : Component.current ∈ names.map Component.name := by
      rw [← hcomponents]
      exact hc ▸ List.mem_cons_self
    obtain ⟨s, -, hs⟩ := List.mem_map.1 hmem
    cases hs
  | succ k =>
    have hpieces : ((join ⟨"."⟩)^[k + 1] (ofNames names)).pieces =
        [⟨".", some .current⟩] ++ (List.replicate k "." ++ names).map Piece.ofText :=
      pieces_of_segments (segments_dotted hne h (k + 1)).1
    have hstrip := strip?_of_pieces hpieces components_current.symm
    rw [ofPieces_dotted h] at hstrip
    have htext : (ofNames names).text ≠ "" := by
      rw [Ne, ← components_eq_nil_iff, hcomponents]
      simpa using hne
    simp only [normalize, hstrip, htext, if_false]

theorem isAbsolute_join (hw : w.isAbsolute = true) (hq : q.isAbsolute = false) :
    (w.join q).isAbsolute = true := by
  have htext : w.text ≠ "" := by
    intro he
    simp [isAbsolute, he] at hw
  rw [isAbsolute_iff_mem, components_join htext hq]
  exact List.mem_append_left _ (isAbsolute_iff_mem.1 hw)

theorem strip?_join_ofNames (hw : w.isAbsolute = true) (hne : names ≠ [])
    (h : ∀ s ∈ names, IsName s) :
    (w.join (ofNames names)).strip? w = some (ofNames names) := by
  have htext : w.text ≠ "" := by
    intro he
    simp [isAbsolute, he] at hw
  obtain ⟨l, hpieces, hl⟩ := pieces_join htext (isAbsolute_ofNames hne h)
  rw [segments_ofNames hne h] at hpieces
  rw [strip?_of_pieces hpieces hl]
  exact congrArg some (ofPieces_dotted h 0)

end Path

open LintEngine.Path

variable {w q : Path} {names : List String}

theorem Glob.matchesEither_of_spells (matcher : Path → Bool) (hw : w.isAbsolute = true)
    (hne : names ≠ []) (h : ∀ s ∈ names, IsName s) (hq : Spells w (ofNames names) q) :
    matchesEither matcher w q = (matcher (ofNames names) || matcher (w.join (ofNames names))) := by
  have hrelative := isAbsolute_ofNames hne h
  cases hq with
  | dotted k =>
    simp only [matchesEither, normalize_dotted hne h, otherSpelling?, hrelative, Bool.false_eq_true,
      if_false, Option.any_some]
  | absolute =>
    have habsolute := isAbsolute_join hw hrelative
    simp only [matchesEither, normalize_of_isAbsolute habsolute, otherSpelling?, habsolute, if_true,
      strip?_join_ofNames hw hne h, Option.any_some]
    rw [Bool.or_comm]

section Matcher

/- Any other matcher of single patterns can stand in the place of `Glob.matchesText`. -/
variable (matcher : List Glob.Token → Path → Bool)

def Glob.Any.matchesFileBy (g : Glob.Any) (w file : Path) : Bool :=
  matchesEither (fun path ↦ g.globs.any (matcher · path)) w file

def SelectedLinter.appliesBy (l : SelectedLinter) (w file : Path) : Bool :=
  l.included.all (·.matchesFileBy matcher w file) && !l.excluded.matchesFileBy matcher w file

def Selection.forFileBy (s : Selection) (w file : Path) : Except Error (List Instance) :=
  (s.linters.filter fun l ↦ l.appliesBy matcher w file).mapM fun l ↦
    l.descriptor.instantiate l.settings

def Search.isExcludedBy (tree : FileTree) (paths : List Path) (globs : Glob.Any) (file : Path) :
    Bool :=
  paths.any file.startsWith || globs.matchesFileBy matcher tree.workingDirectory file

def Preprocessor.appliesBy (p : Preprocessor) (w file : Path) : Bool :=
  p.files.all (·.matchesFileBy matcher w file)

theorem Glob.Any.matchesFileBy_matchesText :
    matchesFileBy Glob.matchesText = matchesFile := rfl

theorem Selection.forFileBy_matchesText : forFileBy Glob.matchesText = forFile := rfl

theorem Search.isExcludedBy_matchesText : isExcludedBy Glob.matchesText = isExcluded := rfl

theorem Preprocessor.appliesBy_matchesText : appliesBy Glob.matchesText = appliesTo := rfl

/-- All that hangs on patterns is the same for two spellings of a file. -/
structure SameVerdicts (w q q' : Path) : Prop where
  globs : ∀ g : Glob.Any, g.matchesFileBy matcher w q = g.matchesFileBy matcher w q'
  linters : ∀ s : Selection, s.forFileBy matcher w q = s.forFileBy matcher w q'
  excluded : ∀ tree globs, tree.workingDirectory = w →
    Search.isExcludedBy matcher tree [] globs q = Search.isExcludedBy matcher tree [] globs q'
  preprocessed : ∀ p : Preprocessor, p.appliesBy matcher w q = p.appliesBy matcher w q'

theorem SameVerdicts.of_globs {w q q' : Path}
    (h : ∀ g : Glob.Any, g.matchesFileBy matcher w q = g.matchesFileBy matcher w q') :
    SameVerdicts matcher w q q' where
  globs := h
  linters := fun s ↦ by simp only [Selection.forFileBy, SelectedLinter.appliesBy, h]
  excluded := fun tree globs htree ↦ by
    simp only [Search.isExcludedBy, htree, h, List.any_nil]
  preprocessed := fun p ↦ by simp only [Preprocessor.appliesBy, h]

end Matcher

/-- Whatever the matcher, its verdict on a file below the working directory does not depend on how
the file is spelled; so neither do the linters that run on the file, whether patterns exclude it
from a search, and whether it is preprocessed. -/
theorem verdicts_of_spells (hw : w.isAbsolute = true) (hne : names ≠ [])
    (h : ∀ s ∈ names, IsName s) (hq : Spells w (ofNames names) q) :
    (∀ matcher, Glob.matchesEither matcher w q = Glob.matchesEither matcher w (ofNames names)) ∧
    (∀ matcher, SameVerdicts matcher w q (ofNames names)) ∧
    (∀ g : Glob.Any, g.matchesFile w q = g.matchesFile w (ofNames names)) ∧
    (∀ s : Selection, s.forFile w q = s.forFile w (ofNames names)) ∧
    (∀ tree globs, tree.workingDirectory = w →
      Search.isExcluded tree [] globs q = Search.isExcluded tree [] globs (ofNames names)) ∧
    ∀ p : Preprocessor, p.appliesTo w q = p.appliesTo w (ofNames names) := by
  have heither (matcher : Path → Bool) :
      Glob.matchesEither matcher w q = Glob.matchesEither matcher w (ofNames names) := by
    have hself : Spells w (ofNames names) (ofNames names) := .dotted 0
    rw [Glob.matchesEither_of_spells matcher hw hne h hq,
      Glob.matchesEither_of_spells matcher hw hne h hself]
  have hsame (matcher : List Glob.Token → Path → Bool) :
      SameVerdicts matcher w q (ofNames names) := .of_globs matcher fun g ↦ heither _
  obtain ⟨hglobs, hlinters, hexcluded, hpreprocessed⟩ := hsame Glob.matchesText
  rw [Glob.Any.matchesFileBy_matchesText] at hglobs
  rw [Selection.forFileBy_matchesText] at hlinters
  rw [Search.isExcludedBy_matchesText] at hexcluded
  rw [Preprocessor.appliesBy_matchesText] at hpreprocessed
  exact ⟨heither, hsame, hglobs, hlinters, hexcluded, hpreprocessed⟩

theorem verdicts_of_spells_docs :
    Path.isAbsolute ⟨"/work"⟩ = true ∧ (∀ s ∈ ["docs", "a.md"], IsName s) ∧
    (∀ matcher, Glob.matchesEither matcher ⟨"/work"⟩ ((join ⟨"."⟩)^[2] (ofNames ["docs", "a.md"])) =
      Glob.matchesEither matcher ⟨"/work"⟩ (ofNames ["docs", "a.md"])) ∧
    (∀ matcher, SameVerdicts matcher ⟨"/work"⟩ (join ⟨"/work"⟩ (ofNames ["docs", "a.md"]))
      (ofNames ["docs", "a.md"])) ∧
    ∀ s : Selection, s.forFile ⟨"/work"⟩ (join ⟨"/work"⟩ (ofNames ["docs", "a.md"])) =
      s.forFile ⟨"/work"⟩ (ofNames ["docs", "a.md"]) := by
  have hw : Path.isAbsolute ⟨"/work"⟩ = true := by decide
  have hnames : ∀ s ∈ ["docs", "a.md"], IsName s := by
    simp only [List.forall_mem_cons, List.not_mem_nil, IsEmpty.forall_iff, implies_true, and_true]
    exact ⟨⟨by decide, by decide, by decide⟩, ⟨by decide, by decide, by decide⟩⟩
  have hdotted := verdicts_of_spells hw (List.cons_ne_nil _ _) hnames (.dotted 2)
  have habsolute := verdicts_of_spells hw (List.cons_ne_nil _ _) hnames .absolute
  exact ⟨hw, hnames, hdotted.1, habsolute.2.1, habsolute.2.2.2.1⟩

end LintEngine
