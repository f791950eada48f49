import LintEngine.Run.Options
import Mathlib.Data.List.Forall2
import Mathlib.Data.Nat.Digits.Defs

namespace LintEngine

namespace Text

def SameLetters (a b : String) : Prop :=
  List.Forall₂ (fun c d ↦ c = d.toLower ∨ c = d.toUpper) a.toList b.toList

theorem toNat_toLower (c : Char) :
    c.toLower.toNat = if 65 ≤ c.toNat ∧ c.toNat ≤ 90 then c.toNat + 32 else c.toNat := by
  have hrange : c.val ≥ 'A'.val ∧ c.val ≤ 'Z'.val ↔ 65 ≤ c.toNat ∧ c.toNat ≤ 90 := by
    simp only [ge_iff_le, UInt32.le_iff_toNat_le]
    exact Iff.rfl
  unfold Char.toLower
  by_cases h : 65 ≤ c.toNat ∧ c.toNat ≤ 90
  · rw [dif_pos (hrange.2 h), if_pos h]
    change (c.val + 32).toNat = _
    rw [UInt32.toNat_add]
    change (c.toNat + 32) % _ = _
    omega
  · rw [dif_neg fun hc ↦ h (hrange.1 hc), if_neg h]

theorem toNat_toUpper (c : Char) :
    c.toUpper.toNat = if 97 ≤ c.toNat ∧ c.toNat ≤ 122 then c.toNat - 32 else c.toNat := by
  have hrange : c.val ≥ 'a'.val ∧ c.val ≤ 'z'.val ↔ 97 ≤ c.toNat ∧ c.toNat ≤ 122 := by
    simp only [ge_iff_le, UInt32.le_iff_toNat_le]
    exact Iff.rfl
  unfold Char.toUpper
  by_cases h : 97 ≤ c.toNat ∧ c.toNat ≤ 122
  · rw [dif_pos (hrange.2 h), if_pos h]
    change (c.val + ('A'.val - 'a'.val)).toNat = _
    rw [UInt32.toNat_add]
    change (c.toNat + 4294967264) % 4294967296 = _
    omega
  · rw [dif_neg fun hc ↦ h (hrange.1 hc), if_neg h]

theorem toLower_eq_iff {c d : Char} : c.toLower = d.toLower ↔ c = d.toLower ∨ c = d.toUpper := by
  simp only [← Char.toNat_inj, toNat_toLower, toNat_toUpper]
  split <;> split <;> split <;> omega

theorem sameIgnoringCase_iff {a b : String} : sameIgnoringCase a b = true ↔ SameLetters a b := by
  rw [sameIgnoringCase, beq_iff_eq, ← List.forall₂_eq_eq_eq, List.forall₂_map_left_iff,
    List.forall₂_map_right_iff]
  simp only [toLower_eq_iff, SameLetters]

end Text

namespace Number

def digitValue (c : Char) : ℕ := c.toNat - '0'.toNat

/-- Decimal digits for a number, the last of which counts ones. -/
structure IsDecimal (digits : List Char) (n : ℕ) : Prop where
  ne_nil : digits ≠ []
  isDigit : ∀ c ∈ digits, c.isDigit = true
  value : Nat.ofDigits 10 (digits.reverse.map digitValue) = n

variable {digits : List Char} {n : ℕ}

theorem digitValue_lt {c : Char} (h : c.isDigit = true) : digitValue c < 10 := by
  obtain ⟨hlow, hhigh⟩ := Char.isDigit_iff_toNat.1 h
  have hzero : '0'.toNat = 48 := rfl
  have hnine : '9'.toNat = 57 := rfl
  rw [digitValue]
  omega

theorem hexValue?_bind_ten (m : ℕ) (c : Char) :
    ((hexValue? c).bind fun d ↦ if d < 10 then some (10 * m + d) else none) =
      if c.isDigit = true then some (10 * m + digitValue c) else none := by
  have hdigit : (decide ('0' ≤ c) && decide (c ≤ '9')) = c.isDigit := rfl
  rw [hexValue?, hdigit]
  cases hc : c.isDigit with
  | true =>
    rw [if_pos rfl, if_pos rfl, Option.bind_some]
    exact if_pos (digitValue_lt hc)
  | false =>
    simp only [Bool.false_eq_true, if_false]
    split_ifs <;> simp

theorem foldlM_eq_some_iff (m : ℕ) :
    digits.foldlM (fun m c ↦ (hexValue? c).bind fun d ↦
      if d < 10 then some (10 * m + d) else none) m = some n ↔
    (∀ c ∈ digits, c.isDigit = true) ∧
      Nat.ofDigits 10 (digits.reverse.map digitValue) + 10 ^ digits.length * m = n := by
  simp only [hexValue?_bind_ten]
  induction digits generalizing m with
  | nil => simp
  | cons c digits ih =>
    rw [List.foldlM_cons, List.reverse_cons, List.map_append, Nat.ofDigits_append]
    cases hc : c.isDigit with
    | true =>
      have hvalue (k : ℕ) : k + 10 ^ digits.length * (10 * m + digitValue c) =
          k + 10 ^ digits.length * digitValue c + 10 ^ (digits.length + 1) * m := by
        rw [pow_succ]
        ring
      simp [ih, hc, hvalue]
    | false => simp [hc]

theorem ofRadix?_eq_some_iff : ofRadix? 10 digits = some n ↔ IsDecimal digits n := by
  by_cases hnil : digits = []
  · subst hnil
    exact iff_of_false (by simp [ofRadix?]) fun h ↦ h.ne_nil rfl
  · rw [ofRadix?, if_neg (by simpa using hnil)]
    refine (foldlM_eq_some_iff 0).trans ?_
    rw [Nat.mul_zero, Nat.add_zero]
    exact ⟨fun h ↦ ⟨hnil, h.1, h.2⟩, fun h ↦ ⟨h.isDigit, h.value⟩⟩

theorem digitValue_digitChar (h : n < 10) : digitValue n.digitChar = n := by
  rw [digitValue, Nat.toNat_digitChar_of_lt_ten h]
  exact Nat.add_sub_cancel_left 48 n

theorem ofDigits_toDigits (n : ℕ) :
    Nat.ofDigits 10 ((Nat.toDigits 10 n).reverse.map digitValue) = n := by
  induction n using Nat.strongRecOn with
  | ind n ih =>
    by_cases hn : n < 10
    · rw [Nat.toDigits_of_lt_base hn]
      simp [digitValue_digitChar hn]
    · have hlast : digitValue (n % 10).digitChar = n % 10 := digitValue_digitChar (by omega)
      rw [Nat.toDigits_of_base_le (by decide) (by omega), List.reverse_append, List.map_append,
        List.reverse_singleton, List.map_singleton, List.singleton_append, Nat.ofDigits_cons,
        ih (n / 10) (by omega), hlast]
      exact Nat.mod_add_div n 10

theorem isDecimal_toDigits (n : ℕ) : IsDecimal (Nat.toDigits 10 n) n where
  ne_nil := Nat.toDigits_ne_nil
  isDigit _ := Nat.isDigit_of_mem_toDigits (by decide) (by decide)
  value := ofDigits_toDigits n

end Number

namespace Concurrency

open Number

/-- A numeral for a number of workers: decimal digits, perhaps after one plus sign. -/
def Numeral (text : String) (n : ℕ) : Prop :=
  ∃ sign digits, (sign = [] ∨ sign = ['+']) ∧ text.toList = sign ++ digits ∧ IsDecimal digits n

variable {text : String} {n : ℕ}

theorem dropPlus_cases (cs : List Char) : cs = '+' :: dropPlus cs ∨ cs = dropPlus cs := by
  unfold dropPlus
  split
  · exact .inl rfl
  · exact .inr rfl

theorem dropPlus_of_isDecimal {digits : List Char} (h : IsDecimal digits n) :
    dropPlus digits = digits := by
  obtain hplus | hself := dropPlus_cases digits
  · have hdigit : '+'.isDigit = true := h.isDigit '+' (by rw [hplus]; exact List.mem_cons_self)
    cases hdigit
  · exact hself.symm

theorem ofRadix?_dropPlus : ofRadix? 10 (dropPlus text.toList) = some n ↔ Numeral text n := by
  rw [ofRadix?_eq_some_iff]
  constructor
  · intro h
    obtain hplus | hself := dropPlus_cases text.toList
    · exact ⟨['+'], dropPlus text.toList, .inr rfl, hplus, h⟩
    · exact ⟨[], dropPlus text.toList, .inl rfl, hself, h⟩
  · rintro ⟨sign, digits, rfl | rfl, htext, h⟩
    · rw [htext, List.nil_append, dropPlus_of_isDecimal h]
      exact h
    · rw [htext]
      exact h

theorem Numeral.unique {m : ℕ} (hm : Numeral text m) (hn : Numeral text n) : m = n :=
  Option.some.inj ((ofRadix?_dropPlus.2 hm).symm.trans (ofRadix?_dropPlus.2 hn))

theorem Numeral.eq_plus_or_isDigit (h : Numeral text n) {c : Char} (hc : c ∈ text.toList) :
    c = '+' ∨ c.isDigit = true := by
  obtain ⟨sign, digits, hsign, htext, hdigits⟩ := h
  rw [htext, List.mem_append] at hc
  obtain hc | hc := hc
  · obtain rfl | rfl := hsign
    · cases hc
    · exact .inl (List.mem_singleton.1 hc)
  · exact .inr (hdigits.isDigit c hc)

theorem Numeral.not_sameLetters (h : Numeral text n) : ¬Text.SameLetters text "auto" := by
  intro hauto
  obtain ⟨first, rest, hfirst, -, htext⟩ := List.forall₂_cons_right_iff.1 hauto
  have hplain : first = '+' ∨ first.isDigit = true :=
    h.eq_plus_or_isDigit (by rw [htext]; exact List.mem_cons_self)
  obtain rfl | rfl := hfirst
  · exact absurd hplain (by decide)
  · exact absurd hplain (by decide)

theorem in_range_iff : (0 < n && n < limit) = true ↔ 1 ≤ n ∧ n ≤ 2 ^ 64 - 1 := by
  rw [Bool.and_eq_true, decide_eq_true_iff, decide_eq_true_iff, limit]
  omega

theorem parse_cases (text : String) :
    (Text.SameLetters text "auto" ∧ parse text = .ok .auto) ∨
    (¬Text.SameLetters text "auto" ∧ ∃ n, Numeral text n ∧ 1 ≤ n ∧ n ≤ 2 ^ 64 - 1 ∧
      parse text = .ok (.workers n)) ∨
    (¬Text.SameLetters text "auto" ∧ (∀ n, Numeral text n → ¬(1 ≤ n ∧ n ≤ 2 ^ 64 - 1)) ∧
      parse text = .error (.invalidConcurrency text)) := by
  rw [parse]
  split
  · next hauto => exact .inl ⟨Text.sameIgnoringCase_iff.1 hauto, rfl⟩
  · next hauto =>
    rw [Text.sameIgnoringCase_iff] at hauto
    right
    split
    · next n hn =>
      have hnumeral := ofRadix?_dropPlus.1 hn
      split
      · next hrange =>
        obtain ⟨hlow, hhigh⟩ := in_range_iff.1 hrange
        exact .inl ⟨hauto, n, hnumeral, hlow, hhigh, rfl⟩
      · next hrange =>
        refine .inr ⟨hauto, ?_, rfl⟩
        intro m hm
        rw [hm.unique hnumeral, ← in_range_iff]
        exact hrange
    · next hnone =>
      refine .inr ⟨hauto, ?_, rfl⟩
      intro n hn
      rw [ofRadix?_dropPlus.2 hn] at hnone
      cases hnone

theorem parse_eq_auto_iff : parse text = .ok .auto ↔ Text.SameLetters text "auto" := by
  obtain ⟨hauto, hparse⟩ | ⟨hauto, m, -, -, -, hparse⟩ | ⟨hauto, -, hparse⟩ := parse_cases text
  all_goals simp [hparse, hauto]

theorem parse_eq_workers_iff :
    parse text = .ok (.workers n) ↔ Numeral text n ∧ 1 ≤ n ∧ n ≤ 2 ^ 64 - 1 := by
  obtain ⟨hauto, hparse⟩ | ⟨-, m, hm, hlow, hhigh, hparse⟩ | ⟨-, hnone, hparse⟩ := parse_cases text
  · rw [hparse]
    exact iff_of_false (by simp) fun h ↦ h.1.not_sameLetters hauto
  · rw [hparse, Except.ok.injEq, workers.injEq]
    constructor
    · rintro rfl
      exact ⟨hm, hlow, hhigh⟩
    · rintro ⟨hn, -⟩
      exact hm.unique hn
  · rw [hparse]
    exact iff_of_false (by simp) fun h ↦ hnone n h.1 h.2

theorem parse_eq_error_iff {e : Error} : parse text = .error e ↔
    e = .invalidConcurrency text ∧ ¬Text.SameLetters text "auto" ∧
      ∀ n, Numeral text n → ¬(1 ≤ n ∧ n ≤ 2 ^ 64 - 1) := by
  obtain ⟨hauto, hparse⟩ | ⟨-, m, hm, hlow, hhigh, hparse⟩ | ⟨hauto, hnone, hparse⟩ :=
    parse_cases text
  · rw [hparse]
    exact iff_of_false (by simp) fun h ↦ h.2.1 hauto
  · rw [hparse]
    exact iff_of_false (by simp) fun h ↦ h.2.2 m hm ⟨hlow, hhigh⟩
  · rw [hparse, Except.error.injEq]
    exact ⟨fun h ↦ ⟨h.symm, hauto, hnone⟩, fun h ↦ h.1.symm⟩

theorem numeral_toString (n : ℕ) : Numeral (toString n) n := by
  refine ⟨[], Nat.toDigits 10 n, .inl rfl, ?_, isDecimal_toDigits n⟩
  rw [Nat.toString_eq_ofList_toDigits, String.toList_ofList, List.nil_append]

/-- Which texts are numbers of workers, which number each of them is, and what becomes of others. -/
theorem parse_exact (text : String) :
    (parse text = .ok .auto ↔ Text.SameLetters text "auto") ∧
    (∀ n, parse text = .ok (.workers n) ↔ Numeral text n ∧ 1 ≤ n ∧ n ≤ 2 ^ 64 - 1) ∧
    (∀ e, parse text = .error e ↔ e = .invalidConcurrency text ∧
      ¬Text.SameLetters text "auto" ∧ ∀ n, Numeral text n → ¬(1 ≤ n ∧ n ≤ 2 ^ 64 - 1)) ∧
    (Error.invalidConcurrency text).category = .commandLine ∧
    ∀ n : ℕ, 1 ≤ n → n ≤ 2 ^ 64 - 1 → parse (toString n) = .ok (.workers n) := by
  refine ⟨parse_eq_auto_iff, fun n ↦ parse_eq_workers_iff, fun e ↦ parse_eq_error_iff, rfl, ?_⟩
  intro n hlow hhigh
  exact parse_eq_workers_iff.2 ⟨numeral_toString n, hlow, hhigh⟩

theorem parse_exact_around_greatest :
    parse (toString (2 ^ 64 - 1)) = .ok (.workers (2 ^ 64 - 1)) ∧
    parse (toString (2 ^ 64)) = .error (.invalidConcurrency (toString (2 ^ 64))) ∧
    Numeral "+007" 7 ∧ parse "+007" = .ok (.workers 7) := by
  obtain ⟨-, -, -, -, hround⟩ := parse_exact ""
  obtain ⟨-, hworkers, -, -, -⟩ := parse_exact "+007"
  obtain ⟨-, -, herror, -, -⟩ := parse_exact (toString (2 ^ 64))
  have hover : Numeral (toString (2 ^ 64)) (2 ^ 64) := numeral_toString (2 ^ 64)
  have hsigned : Numeral "+007" 7 :=
    ⟨['+'], ['0', '0', '7'], .inr rfl, rfl, by decide, List.all_eq_true.1 rfl, rfl⟩
  refine ⟨hround _ (by decide) le_rfl, ?_, hsigned, (hworkers 7).2 ⟨hsigned, by decide, by decide⟩⟩
  refine (herror _).2 ⟨rfl, hover.not_sameLetters, ?_⟩
  intro n hn hrange
  rw [hn.unique hover] at hrange
  omega

end Concurrency

end LintEngine
