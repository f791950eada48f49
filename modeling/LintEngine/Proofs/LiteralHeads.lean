import LintEngine.Proofs.Result
import LintEngine.Proofs.SuffixPatterns
import Mathlib.Data.List.Infix
import Mathlib.Logic.Relation

namespace LintEngine

namespace Path

theorem intercalate_append_cons {front back : List (List Char)} {part : List Char}
    (hne : front ≠ []) : ['/'].intercalate (front ++ part :: back) =
      ['/'].intercalate front ++ '/' :: ['/'].intercalate (part :: back) := by
  induction front with
  | nil => exact absurd rfl hne
  | cons first front ih =>
    cases front with
    | nil => simp [List.intercalate_cons_cons]
    | cons next front =>
      have hrest := ih (List.cons_ne_nil next front)
      simp only [List.cons_append, List.intercalate_cons_cons, List.append_assoc] at hrest ⊢
      rw [hrest]

theorem forall_mem_intercalate {P : Char → Prop} {parts : List (List Char)} (hslash : P '/')
    (h : ∀ part ∈ parts, ∀ c ∈ part, P c) : ∀ c ∈ ['/'].intercalate parts, P c := by
  induction parts with
  | nil => simp
  | cons part rest ih =>
    rw [List.forall_mem_cons] at h
    cases rest with
    | nil => simpa using h.1
    | cons next rest =>
      simp only [List.intercalate_cons_cons, List.mem_append, List.mem_singleton]
      rintro c ((hc | rfl) | hc)
      · exact h.1 c hc
      · exact hslash
      · exact ih h.2 c hc

end Path

namespace Glob

open LintEngine.Path

def isWild (c : Char) : Bool := c = '*' || c = '?' || c = '[' || c = '\x7b'

def unescape : List Char → List Char
  | [] => []
  | c :: rest =>
    if c = '\\' then
      match rest with
      | [] => []
      | d :: rest => d :: unescape rest
    else c :: unescape rest

section Unescape

variable {c : Char} {l : List Char} {parts : List (List Char)}

theorem unescape_quoted (c : Char) (l : List Char) :
    unescape ('\\' :: c :: l) = c :: unescape l := by
  simp [unescape]

theorem unescape_cons (hc : c ≠ '\\') : unescape (c :: l) = c :: unescape l := by
  rw [unescape.eq_def]
  simp [hc]

theorem unescape_sublist (l : List Char) : (unescape l).Sublist l := by
  fun_induction unescape l with
  | case1 => exact .slnil
  | case2 => exact List.nil_sublist _
  | case3 d rest ih => exact (ih.cons_cons d).cons _
  | case4 c rest hc ih => exact ih.cons_cons c

theorem unescape_append_slash (l m : List Char) :
    unescape (l ++ '/' :: m) = unescape l ++ '/' :: unescape m := by
  fun_induction unescape l with
  | case1 => exact unescape_cons (by decide)
  | case2 => exact unescape_quoted '/' m
  | case3 d rest ih => rw [List.cons_append, List.cons_append, unescape_quoted, ih]; rfl
  | case4 c rest hc ih => rw [List.cons_append, unescape_cons hc, ih]; rfl

theorem unescape_intercalate (parts : List (List Char)) :
    unescape (['/'].intercalate parts) = ['/'].intercalate (parts.map unescape) := by
  induction parts with
  | nil => rfl
  | cons part rest ih =>
    cases rest with
    | nil => simp
    | cons next rest =>
      rw [List.intercalate_cons_cons, List.append_assoc, List.singleton_append,
        unescape_append_slash, ih]
      simp [List.intercalate_cons_cons]

theorem not_mem_unescape (h : ∀ part ∈ parts, '/' ∉ part) :
    ∀ part ∈ parts.map unescape, '/' ∉ part := by
  intro unescaped hmem hslash
  obtain ⟨part, hpart, rfl⟩ := List.mem_map.1 hmem
  exact h part hpart ((unescape_sublist part).subset hslash)

theorem unescape_of_not_mem (h : '\\' ∉ l) : unescape l = l := by
  induction l with
  | nil => rfl
  | cons c l ih =>
    rw [List.mem_cons, not_or] at h
    rw [unescape_cons (Ne.symm h.1), ih h.2]

theorem not_mem_of_unescape_eq (h : unescape l = l) : '\\' ∉ l := by
  fun_induction unescape l with
  | case1 => simp
  | case2 => simp at h
  | case3 d rest ih =>
    have hlength := (unescape_sublist rest).length_le
    have hsame := congrArg List.length h
    simp only [List.length_cons] at hsame
    omega
  | case4 c rest hc ih => simp [Ne.symm hc, ih (List.cons.inj h).2]

end Unescape

section Reading

variable {b b' : Builder} {word cs rest : List Char}

/-- Characters that open nothing are read as themselves or quote the next one. -/
theorem exists_parseFrom_unescape (hwild : ∀ c ∈ word, isWild c = false)
    (hend : rest = [] ∨ word.getLast? ≠ some '\\') (hclass : b.openClass = none)
    (hgroups : b.groups = []) (h : parseFrom b (word ++ rest) = .ok b') :
    ∃ b₁, parseFrom b₁ rest = .ok b' ∧
      b₁.branch = ((unescape word).map .literal).reverse ++ b.branch ∧ b₁.groups = [] := by
  have hshorter (c : Char) (l : List Char) (h : rest = [] ∨ (c :: l).getLast? ≠ some '\\') :
      rest = [] ∨ l.getLast? ≠ some '\\' :=
    h.imp_right fun hne hlast ↦ hne (by simp [List.getLast?_cons, hlast])
  fun_induction unescape word generalizing b with
  | case1 => exact ⟨b, h, rfl, hgroups⟩
  | case2 =>
    obtain rfl : rest = [] := hend.resolve_right fun hne ↦ hne rfl
    simp [parseFrom, hclass] at h
  | case3 d word ih =>
    have hstep : parseFrom b ('\\' :: d :: (word ++ rest)) =
        parseFrom (b.push (.literal d) d) (word ++ rest) := by
      rw [parseFrom.eq_def]
      simp [hclass]
    obtain ⟨b₁, hb₁, hbranch, hgroups₁⟩ := ih (b := b.push (.literal d) d)
      (fun c hc ↦ hwild c (by simp [hc])) (hshorter _ _ (hshorter _ _ hend)) hclass hgroups
      (hstep.symm.trans h)
    exact ⟨b₁, hb₁, by simp [hbranch, Builder.push], hgroups₁⟩
  | case4 c word hc ih =>
    have hchar : c ≠ '*' ∧ c ≠ '?' ∧ c ≠ '[' ∧ c ≠ '\x7b' := by
      simpa [isWild, and_assoc] using hwild c List.mem_cons_self
    rw [List.cons_append, parseFrom.eq_def] at h
    -- Outside of groups a closing brace cannot be read, and a comma is an ordinary character.
    by_cases hbrace : c = '\x7d'
    · simp [hclass, hbrace, Builder.closeGroup, hgroups] at h
    have hstep : parseFrom (b.push (.literal c) c) (word ++ rest) = .ok b' := by
      by_cases hcomma : c = ','
      · simpa [hclass, hcomma, Builder.comma, hgroups] using h
      · simpa [hclass, hchar, hbrace, hcomma, hc] using h
    obtain ⟨b₁, hb₁, hbranch, hgroups₁⟩ := ih (b := b.push (.literal c) c)
      (fun d hd ↦ hwild d (List.mem_cons_of_mem c hd)) (hshorter _ _ hend) hclass hgroups hstep
    exact ⟨b₁, hb₁, by simp [hbranch, Builder.push], hgroups₁⟩

def Token.opensWithSlash : Token → Bool
  | .literal c => c = '/'
  | .everythingBelow => true
  | .directoriesBetween => true
  | _ => false

/-- What the next characters of a pattern can do to what has been read. -/
inductive Builder.Step (b : Builder) : Builder → Prop
  | push (t : Token) (c : Char) : Step b (b.push t c)
  | recursive {t : Token} (c : Char) : t.opensWithSlash = true → Step b (b.pushRecursive t c)
  | openGroup : Step b b.openGroup
  | closeGroup {b' : Builder} : b.closeGroup = .ok b' → Step b b'
  | comma : Step b b.comma
  | inClass (k : Option OpenClass) : Step b { b with openClass := k }

theorem steps_of_parseFrom (h : parseFrom b cs = .ok b') :
    Relation.ReflTransGen Builder.Step b b' := by
  have htwo (b : Builder) : Relation.ReflTransGen Builder.Step b
      ((b.push .star '*').push .star '*') := .tail (.single (.push _ _)) (.push _ _)
  fun_induction parseFrom b cs
  case case1 | case5 | case20 | case22 | case25 => cases h
  case case2 => cases h; exact .refl
  case case3 k _ _ ih => exact .head (.inClass none) (.head (.push k.finish ']') (ih h))
  case case4 ih | case6 ih | case7 ih | case18 ih | case19 ih => exact .head (.inClass _) (ih h)
  case case8 ih | case9 ih | case10 ih | case17 ih | case26 ih | case27 ih =>
    exact .head (.push _ _) (ih h)
  case case11 ih | case15 ih | case16 ih => exact (htwo _).trans (ih h)
  case case12 ih | case13 ih | case14 ih => exact .head (.recursive _ rfl) (ih h)
  case case21 ih => exact .head .openGroup (ih h)
  case case23 hclose _ _ _ _ ih => exact .head (.closeGroup hclose) (ih h)
  case case24 ih => exact .head .comma (ih h)

def Builder.outermost (b : Builder) : List Token :=
  match b.groups.getLast? with
  | none => b.branch
  | some g => g.before

def Builder.Headed (word : List Char) (b : Builder) : Prop :=
  ∃ parts t, b.outermost = parts ++ t :: (word.map .literal).reverse ∧ t.opensWithSlash = true

namespace Builder

theorem outermost_push (t : Token) (c : Char) :
    (b.push t c).outermost = b.outermost ∨ (b.push t c).outermost = t :: b.outermost := by
  unfold outermost push
  cases b.groups.getLast? <;> simp

theorem outermost_openGroup : b.openGroup.outermost = b.outermost := by
  unfold outermost openGroup
  cases b.groups <;> simp [List.getLast?_cons]

theorem outermost_comma : b.comma.outermost = b.outermost ∨
    b.comma.outermost = .literal ',' :: b.outermost := by
  unfold comma
  split
  · exact b.outermost_push _ _
  · next g outer hg => cases outer <;> simp [outermost, hg, List.getLast?_cons]

theorem outermost_closeGroup (h : b.closeGroup = .ok b') :
    b'.outermost = b.outermost ∨ ∃ t, b'.outermost = t :: b.outermost := by
  unfold closeGroup at h
  split at h
  · cases h
  · next g outer hg => cases h; cases outer <;> simp [outermost, hg, List.getLast?_cons]

theorem Headed.of_outermost (h : b.Headed word)
    (hb : b'.outermost = b.outermost ∨ ∃ t, b'.outermost = t :: b.outermost) :
    b'.Headed word := by
  obtain ⟨parts, t, hparts, hslash⟩ := h
  obtain hb | ⟨u, hb⟩ := hb
  · exact ⟨parts, t, hb.trans hparts, hslash⟩
  · exact ⟨u :: parts, t, by rw [hb, hparts, List.cons_append], hslash⟩

@[simp]
theorem groups_pushRecursive (t : Token) (c : Char) : (b.pushRecursive t c).groups = b.groups := by
  unfold pushRecursive
  split <;> rfl

theorem branch_pushRecursive (t u : Token) (c : Char) {parts : List Token}
    (h : b.branch = u :: parts) : (b.pushRecursive t c).branch = b.branch ∨
      (b.pushRecursive t c).branch = t :: parts := by
  unfold pushRecursive
  split
  · exact .inl rfl
  · exact .inl rfl
  · next hbranch => exact .inr (by rw [(List.cons.inj (h.symm.trans hbranch)).2])
  · next hbranch => cases h.symm.trans hbranch

theorem Headed.pushRecursive (h : b.Headed word) {t : Token} (c : Char)
    (ht : t.opensWithSlash = true) : (b.pushRecursive t c).Headed word := by
  obtain ⟨parts, u, hparts, hslash⟩ := h
  unfold outermost at hparts
  cases hg : b.groups.getLast? with
  | some g =>
    simp only [hg] at hparts
    exact ⟨parts, u, by simpa [outermost, hg] using hparts, hslash⟩
  | none =>
    simp only [hg] at hparts
    have houter : (b.pushRecursive t c).outermost = (b.pushRecursive t c).branch := by
      simp [outermost, hg]
    unfold Headed
    rw [houter]
    cases parts with
    | nil =>
      obtain hsame | hnew := branch_pushRecursive t u c hparts
      · exact ⟨[], u, hsame.trans hparts, hslash⟩
      · exact ⟨[], t, hnew, ht⟩
    | cons v parts =>
      obtain hsame | hnew := branch_pushRecursive t v c hparts
      · exact ⟨v :: parts, u, hsame.trans hparts, hslash⟩
      · exact ⟨t :: parts, u, hnew, hslash⟩

theorem Headed.step (h : b.Headed word) (hb : b.Step b') : b'.Headed word := by
  cases hb with
  | push t c => exact h.of_outermost ((b.outermost_push t c).imp_right fun h ↦ ⟨t, h⟩)
  | recursive c ht => exact h.pushRecursive c ht
  | openGroup => exact h.of_outermost (.inl outermost_openGroup)
  | closeGroup hclose => exact h.of_outermost (outermost_closeGroup hclose)
  | comma => exact h.of_outermost (outermost_comma.imp_right fun h ↦ ⟨_, h⟩)
  | inClass k => exact h.of_outermost (.inl rfl)

theorem Headed.steps (h : b.Headed word) (hb : Relation.ReflTransGen Step b b') :
    b'.Headed word := by
  induction hb with
  | refl => exact h
  | tail _ hstep ih => exact ih.step hstep

end Builder

theorem parse_eq_ok {text : String} {tokens : List Token} : parse text = .ok tokens ↔
    ∃ b, parseFrom .start text.toList = .ok b ∧ b.groups = [] ∧ tokens = b.branch.reverse := by
  rw [parse, Result.bind_eq_ok]
  refine exists_congr fun b ↦ and_congr_right fun _ ↦ ?_
  cases hg : b.groups with
  | nil => simp [eq_comm]
  | cons g groups => simp

theorem parse_of_not_wild {text : String} {tokens : List Token}
    (hwild : ∀ c ∈ text.toList, isWild c = false) (h : parse text = .ok tokens) :
    tokens = (unescape text.toList).map .literal := by
  obtain ⟨b, hb, -, rfl⟩ := parse_eq_ok.1 h
  rw [← List.append_nil text.toList] at hb
  obtain ⟨b₁, hb₁, hbranch, hgroups⟩ := exists_parseFrom_unescape hwild (.inl rfl) rfl rfl hb
  obtain rfl : b₁ = b := by
    rw [parseFrom] at hb₁
    split at hb₁
    · cases hb₁
    · exact Except.ok.inj hb₁
  rw [hbranch]
  simp [Builder.start]

/-- A pattern that goes on behind a slash is read as its characters up to there, unescaped, and as
parts of which the first begins with a slash. -/
theorem exists_parse_of_slash {text : String} {tokens : List Token}
    (htext : text.toList = word ++ '/' :: rest) (hwild : ∀ c ∈ word, isWild c = false)
    (h : parse text = .ok tokens) :
    ∃ t more, tokens = (unescape word).map .literal ++ t :: more ∧ t.opensWithSlash = true := by
  obtain ⟨b, hb, hgroups, rfl⟩ := parse_eq_ok.1 h
  rw [htext, ← List.singleton_append, ← List.append_assoc] at hb
  have hwild' : ∀ c ∈ word ++ ['/'], isWild c = false := by
    simp only [List.mem_append, List.mem_singleton]
    rintro c (hc | rfl)
    · exact hwild c hc
    · rfl
  obtain ⟨b₁, hb₁, hbranch, hgroups₁⟩ :=
    exists_parseFrom_unescape hwild' (.inr (by simp)) rfl rfl hb
  have hheaded : b₁.Headed (unescape word) :=
    ⟨[], .literal '/', by simp [Builder.outermost, hgroups₁, hbranch, unescape_append_slash,
      unescape, Builder.start], rfl⟩
  obtain ⟨parts, t, hparts, hslash⟩ := hheaded.steps (steps_of_parseFrom hb₁)
  have hbranch' : b.branch = parts ++ t :: ((unescape word).map .literal).reverse := by
    rw [← hparts, Builder.outermost, hgroups]
    rfl
  exact ⟨t, parts.reverse, by simp [hbranch'], hslash⟩

end Reading

section Matching

variable {bytes : List UInt8} {tokens tokens' : List Token} {f p : Path}

theorem mem_tokenRests_append {rest : List UInt8} :
    rest ∈ tokenRests (tokens ++ tokens') [bytes] ↔
      ∃ middle ∈ tokenRests tokens [bytes], rest ∈ tokenRests tokens' [middle] := by
  induction tokens generalizing bytes with
  | nil => simp [tokenRests]
  | cons t tokens ih =>
    rw [List.cons_append, mem_tokenRests_cons]
    simp only [ih, mem_tokenRests_cons]
    grind

theorem exists_slash_of_rests {t : Token} (ht : t.opensWithSlash = true) {rest : List UInt8}
    (h : rest ∈ t.rests bytes) : ∃ more, bytes = slash :: more := by
  cases t with
  | literal c =>
    obtain rfl : c = '/' := by simpa [Token.opensWithSlash] using ht
    simp only [Token.rests, Option.mem_toList, dropLiteral?_eq_some] at h
    exact ⟨rest, h⟩
  | everythingBelow | directoriesBetween =>
    cases bytes with
    | nil => simp [Token.rests] at h
    | cons a bytes =>
      by_cases ha : a = slash
      · exact ⟨bytes, by rw [ha]⟩
      · simp [Token.rests, ha] at h
  | _ => cases ht

theorem nil_mem_tokenRests (hne : tokens ≠ [.leadingDirectories])
    (h : matchesText tokens f = true) :
    [] ∈ tokenRests tokens [f.text.toList.flatMap charBytes] := by
  have hbytes : f.text.toList.flatMap charBytes = f.text.toUTF8.toList :=
    (Text.toList_toUTF8 f.text).symm
  rw [matchesText, ← hbytes] at h
  unfold matchesBytes at h
  split at h
  · exact absurd rfl hne
  · split at h
    · cases h
    · simpa using h

theorem text_of_matchesText_literals {cs : List Char}
    (h : matchesText (cs.map .literal) f = true) : f.text.toList = cs := by
  have hne : cs.map Token.literal ≠ [.leadingDirectories] := by
    cases cs <;> simp
  have hbytes := mem_tokenRests_literals.1 (nil_mem_tokenRests hne h)
  obtain ⟨more, hmore, hnil⟩ := Text.exists_of_flatMap_utf8EncodeChar hbytes
  cases more with
  | nil => rw [hmore, List.append_nil]
  | cons c more =>
    rw [List.flatMap_cons, eq_comm, List.append_eq_nil_iff] at hnil
    exact absurd hnil.1 String.utf8EncodeChar_ne_nil

theorem text_of_matchesText_slash {cs : List Char} {t : Token} (ht : t.opensWithSlash = true)
    (h : matchesText (cs.map .literal ++ t :: tokens) f = true) :
    ∃ more, f.text.toList = cs ++ '/' :: more := by
  have hne : cs.map Token.literal ++ t :: tokens ≠ [.leadingDirectories] := by
    cases cs with
    | nil =>
      rintro he
      rw [(List.cons.inj he).1] at ht
      cases ht
    | cons c cs => simp
  obtain ⟨middle, hmiddle, hrest⟩ := mem_tokenRests_append.1 (nil_mem_tokenRests hne h)
  obtain ⟨last, hlast, -⟩ := mem_tokenRests_cons.1 hrest
  obtain ⟨after, rfl⟩ := exists_slash_of_rests ht hlast
  have hbytes : f.text.toList.flatMap charBytes = (cs ++ ['/']).flatMap charBytes ++ after := by
    rw [mem_tokenRests_literals.1 hmiddle, List.flatMap_append, List.append_assoc]
    rfl
  obtain ⟨more, hmore, -⟩ := Text.exists_of_flatMap_utf8EncodeChar hbytes
  exact ⟨more, by rw [hmore, List.append_assoc, List.singleton_append]⟩

def literalParts (p : Path) : List (List Char) :=
  (splitSlashes p.text.toList).takeWhile fun part ↦ !part.any isWild

theorem literalParts_cases (p : Path) :
    literalParts p = [] ∨ p.text.toList = ['/'].intercalate (literalParts p) ∨
      ∃ rest, p.text.toList = ['/'].intercalate (literalParts p) ++ '/' :: rest := by
  by_cases hne : literalParts p = []
  · exact .inl hne
  have htext : p.text.toList = ['/'].intercalate (literalParts p ++
      (splitSlashes p.text.toList).dropWhile fun part ↦ !part.any isWild) := by
    rw [literalParts, List.takeWhile_append_dropWhile, intercalate_splitSlashes]
  generalize (splitSlashes p.text.toList).dropWhile (fun part ↦ !part.any isWild) = back at htext
  cases back with
  | nil => exact .inr (.inl (by rw [htext, List.append_nil]))
  | cons part back =>
    exact .inr (.inr ⟨['/'].intercalate (part :: back), htext.trans (intercalate_append_cons hne)⟩)

theorem literalParts_unescaped (hp : parse p.text = .ok tokens)
    (hf : matchesText tokens f = true) :
    (literalParts p).map unescape <+: splitSlashes f.text.toList := by
  have hwild : ∀ c ∈ ['/'].intercalate (literalParts p), isWild c = false :=
    forall_mem_intercalate rfl fun part hpart ↦ by simpa using List.mem_takeWhile_imp hpart
  have hslash : ∀ part ∈ (literalParts p).map unescape, '/' ∉ part :=
    not_mem_unescape fun part hpart ↦ not_mem_of_mem_splitSlashes (List.takeWhile_subset _ hpart)
  by_cases hne : literalParts p = []
  · simp [hne]
  have hsplit := splitSlashes_intercalate (by simpa using hne) hslash
  obtain hnil | htext | ⟨rest, htext⟩ := literalParts_cases p
  · exact absurd hnil hne
  · rw [← htext] at hwild
    rw [parse_of_not_wild hwild hp] at hf
    rw [text_of_matchesText_literals hf, htext, unescape_intercalate, hsplit]
  · obtain ⟨t, more, rfl, ht⟩ := exists_parse_of_slash htext hwild hp
    obtain ⟨after, hafter⟩ := text_of_matchesText_slash ht hf
    rw [hafter, unescape_intercalate, splitSlashes_append, hsplit]
    exact List.prefix_append _ _

end Matching

end Glob

end LintEngine
