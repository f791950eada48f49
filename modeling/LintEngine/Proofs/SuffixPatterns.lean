import LintEngine.Proofs.Encoding
import LintEngine.Proofs.Verdicts

namespace LintEngine

namespace Glob

open LintEngine.Path

section Rests

variable {bytes rest : List UInt8} {tokens : List Token} {token : Token}

theorem dropLiteral?_eq_some {word : List UInt8} :
    dropLiteral? word bytes = some rest ↔ bytes = word ++ rest := by
  fun_induction dropLiteral? word bytes with
  | case1 bytes => simp
  | case2 => simp
  | case3 as b bs ih => simp [ih]
  | case4 a as b bs hne => simp [Ne.symm hne]

theorem mem_afterStar :
    rest ∈ afterStar bytes ↔ ∃ run, slash ∉ run ∧ bytes = run ++ rest := by
  induction bytes with
  | nil => simp [afterStar]
  | cons b bytes ih =>
    rw [afterStar, List.mem_cons]
    constructor
    · rintro (rfl | hrest)
      · exact ⟨[], by simp, rfl⟩
      · split at hrest
        · cases hrest
        · next hb =>
          obtain ⟨run, hrun, rfl⟩ := ih.1 hrest
          exact ⟨b :: run, by simp [hrun, Ne.symm hb], rfl⟩
    · rintro ⟨run, hrun, hbytes⟩
      cases run with
      | nil => exact .inl hbytes.symm
      | cons c run =>
        obtain ⟨rfl, rfl⟩ := List.cons.inj hbytes
        rw [List.mem_cons, not_or] at hrun
        rw [if_neg (Ne.symm hrun.1)]
        exact .inr (ih.2 ⟨run, hrun.2, rfl⟩)

theorem mem_afterSlashes :
    rest ∈ afterSlashes bytes ↔ ∃ front, bytes = front ++ slash :: rest := by
  induction bytes with
  | nil => simp [afterSlashes]
  | cons b bytes ih =>
    have hsplit : (∃ front, b :: bytes = front ++ slash :: rest) ↔
        (b = slash ∧ bytes = rest) ∨ ∃ front, bytes = front ++ slash :: rest := by
      constructor
      · rintro ⟨front, hfront⟩
        cases front with
        | nil => exact .inl (List.cons.inj hfront)
        | cons c front => exact .inr ⟨front, (List.cons.inj hfront).2⟩
      · rintro (⟨rfl, rfl⟩ | ⟨front, rfl⟩)
        · exact ⟨[], rfl⟩
        · exact ⟨b :: front, rfl⟩
    rw [hsplit, ← ih, afterSlashes]
    by_cases hb : b = slash
    · simp [hb, eq_comm]
    · simp [hb]

theorem mem_tokenRests {texts : List (List UInt8)} :
    rest ∈ tokenRests tokens texts ↔ ∃ bytes ∈ texts, rest ∈ tokenRests tokens [bytes] := by
  induction tokens generalizing texts with
  | nil => simp [tokenRests]
  | cons token tokens ih =>
    have hcons (texts : List (List UInt8)) : rest ∈ tokenRests (token :: tokens) texts ↔
        ∃ bytes ∈ texts, ∃ middle ∈ token.rests bytes, rest ∈ tokenRests tokens [middle] := by
      rw [tokenRests, ih]
      simp only [List.mem_eraseDups, List.mem_flatMap]
      grind
    simp only [hcons, List.mem_singleton, exists_eq_left]

theorem mem_tokenRests_cons :
    rest ∈ tokenRests (token :: tokens) [bytes] ↔
      ∃ middle ∈ token.rests bytes, rest ∈ tokenRests tokens [middle] := by
  rw [tokenRests, mem_tokenRests]
  simp

theorem mem_tokenRests_literals {cs : List Char} :
    rest ∈ tokenRests (cs.map .literal) [bytes] ↔ bytes = cs.flatMap charBytes ++ rest := by
  induction cs generalizing bytes with
  | nil => simp [tokenRests, eq_comm]
  | cons c cs ih =>
    rw [List.map_cons, mem_tokenRests_cons]
    simp [Token.rests, dropLiteral?_eq_some, ih]

end Rests

def isSpecial (c : Char) : Bool := c ∈ ['*', '?', '[', '\x7b', '\x7d', '\\']

def endingWith (cs : List Char) : List Token :=
  .leadingDirectories :: .star :: cs.map .literal

theorem exists_last_run (bytes : List UInt8) :
    ∃ run, slash ∉ run ∧ (bytes = run ∨ ∃ front, bytes = front ++ slash :: run) := by
  induction bytes with
  | nil => exact ⟨[], by simp, .inl rfl⟩
  | cons b bytes ih =>
    obtain ⟨run, hrun, rfl | ⟨front, rfl⟩⟩ := ih
    · by_cases hb : b = slash
      · exact ⟨bytes, hrun, .inr ⟨[], by rw [hb]; rfl⟩⟩
      · exact ⟨b :: bytes, by simp [hrun, Ne.symm hb], .inl rfl⟩
    · exact ⟨run, hrun, .inr ⟨b :: front, rfl⟩⟩

theorem mem_tokenRests_endingWith {cs : List Char} {bytes : List UInt8} :
    [] ∈ tokenRests (endingWith cs) [bytes] ↔ cs.flatMap charBytes <:+ bytes := by
  simp only [endingWith, mem_tokenRests_cons, mem_tokenRests_literals, List.append_nil,
    exists_eq_right, Token.rests, List.mem_cons, mem_afterSlashes, mem_afterStar]
  constructor
  · rintro ⟨_, rfl | ⟨front, rfl⟩, run, -, rfl⟩
    · exact List.suffix_append run _
    · exact ⟨front ++ slash :: run, by simp⟩
  · rintro ⟨before, rfl⟩
    -- The star stands for what follows the last slash, and all before it for directories.
    obtain ⟨run, hrun, rfl | ⟨front, rfl⟩⟩ := exists_last_run before
    · exact ⟨_, .inl rfl, before, hrun, rfl⟩
    · exact ⟨_, .inr ⟨front, by simp⟩, run, hrun, rfl⟩

/-- The pattern matches what ends with its text. That text ends with no dot, for then the pattern
would not match where there is no name. -/
theorem matchesText_endingWith {text : String} {p : Path} {last : Char}
    (hlast : text.toList.getLast? = some last) (hdot : last ≠ '.') :
    matchesText (endingWith text.toList) p = true ↔ text.toList <:+ p.text.toList := by
  have hend : ((endingWith text.toList).getLast?.any (Token.isChar '.')) = false := by
    simp [endingWith, List.getLast?_cons, hlast, Token.isChar, Ne.symm hdot]
  have hbytes : text.toList.flatMap charBytes = text.toUTF8.toList := (Text.toList_toUTF8 text).symm
  rw [matchesText, ← Text.suffix_toUTF8_iff, ← hbytes, ← mem_tokenRests_endingWith, matchesBytes,
    hend]
  · simp
  · simp [endingWith]

theorem parseFrom_literals {cs : List Char} {b : Builder} (h : ∀ c ∈ cs, isSpecial c = false)
    (hclass : b.openClass = none) (hgroups : b.groups = []) :
    ∃ b', parseFrom b cs = .ok b' ∧ b'.branch = (cs.map .literal).reverse ++ b.branch ∧
      b'.groups = [] := by
  induction cs generalizing b with
  | nil => exact ⟨b, by simp [parseFrom, hclass], rfl, hgroups⟩
  | cons c cs ih =>
    rw [List.forall_mem_cons] at h
    have hstep : parseFrom b (c :: cs) = parseFrom (b.push (.literal c) c) cs := by
      have hc := h.1
      simp only [isSpecial, List.mem_cons, List.not_mem_nil, or_false, decide_eq_false_iff_not,
        not_or] at hc
      rw [parseFrom.eq_def]
      -- A comma is read by a branch of its own, which makes it a literal outside of groups.
      by_cases hcomma : c = ','
      · simp [hclass, hcomma, Builder.comma, hgroups]
      · simp [hclass, hc, hcomma]
    obtain ⟨b', hparse, hbranch, hgroups'⟩ := @ih (b.push (.literal c) c) h.2 hclass hgroups
    exact ⟨b', hstep.trans hparse, by simp [hbranch, Builder.push], hgroups'⟩

theorem parse_endingWith {text : String} (h : ∀ c ∈ text.toList, isSpecial c = false) :
    parse ("**/*" ++ text) = .ok (endingWith text.toList) := by
  have htext : ("**/*" ++ text).toList = '*' :: '*' :: '/' :: '*' :: text.toList := by simp
  have hstart : parseFrom .start ('*' :: '*' :: '/' :: '*' :: text.toList) =
      parseFrom ((Builder.start.push .leadingDirectories '/').push .star '*') text.toList := by
    cases hcs : text.toList with
    | nil => rfl
    | cons c cs =>
      have hc : c ≠ '*' := by
        rintro rfl
        have hspecial := h '*' (hcs ▸ List.mem_cons_self)
        cases hspecial
      simp [parseFrom, hc, Builder.start, Builder.push]
  obtain ⟨b, hparse, hbranch, hgroups⟩ := parseFrom_literals h
    (b := (Builder.start.push .leadingDirectories '/').push .star '*') rfl rfl
  rw [parse, htext, hstart, hparse]
  simp [bind, Except.bind, hgroups, hbranch, endingWith, Builder.push, Builder.start]

theorem isName_star_append {text : String} (hslash : '/' ∉ text.toList) :
    IsName ("*" ++ text) := by
  have hne (s : String) (hs : s.toList.head? ≠ some '*') : "*" ++ text ≠ s := by
    rintro rfl
    simp at hs
  refine ⟨?_, hne ".." (by simp), by simpa using hslash⟩
  simp [skips, hne "." (by simp)]

theorem components_endingWith {text : String} (hslash : '/' ∉ text.toList) :
    (Path.mk ("**/*" ++ text)).components = [.name "**", .name ("*" ++ text)] := by
  have hnames : ∀ s ∈ ["**", "*" ++ text], IsName s := by
    have hstars : IsName "**" := ⟨rfl, by simp, by simp⟩
    simp [hstars, isName_star_append hslash]
  have hpath : Path.mk ("**/*" ++ text) = ofNames ["**", "*" ++ text] := by
    rw [ofNames, Path.mk.injEq, ← String.toList_inj, String.toList_intercalate]
    simp [List.intercalate]
  rw [hpath, components_ofNames hnames]
  rfl

theorem normalize_endingWith {text : String} (hslash : '/' ∉ text.toList) :
    (Path.mk ("**/*" ++ text)).normalize = ⟨"**/*" ++ text⟩ :=
  normalize_of_head fun rest hc ↦ by
    rw [components_endingWith hslash] at hc
    cases hc

theorem compile_endingWith {text : String} (h : ∀ c ∈ text.toList, isSpecial c = false)
    (hslash : '/' ∉ text.toList) :
    compile ("**/*" ++ text) = .ok (endingWith text.toList) := by
  rw [compile, normalize_endingWith hslash]
  simp only [parse_endingWith h, Except.mapError]

theorem walkStart_endingWith {text : String} (hslash : '/' ∉ text.toList) :
    Search.walkStart (Path.mk ("**/*" ++ text)).normalize = ⟨"."⟩ := by
  have hstars : Search.isLiteral (.name "**") = false := by simp [Search.isLiteral, Component.text]
  have hstart : Search.literalStart ⟨"**/*" ++ text⟩ = ⟨""⟩ := by
    rw [Search.literalStart, components_endingWith hslash]
    simp [hstars, ofComponents]
  rw [normalize_endingWith hslash, Search.walkStart, hstart]
  rfl

end Glob

end LintEngine
