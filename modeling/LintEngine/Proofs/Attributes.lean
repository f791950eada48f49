import LintEngine.Number.Decimal
import LintEngine.Proofs.Markup

namespace LintEngine

namespace Xml

def isLegal (c : Char) : Bool :=
  c.toNat = 0x9 || c.toNat = 0xA || c.toNat = 0xD || (0x20 ≤ c.toNat && c.toNat ≤ 0xD7FF) ||
    (0xE000 ≤ c.toNat && c.toNat ≤ 0xFFFD) || (0x10000 ≤ c.toNat && c.toNat ≤ 0x10FFFF)

def entities : List (String × Char) :=
  [("amp", '&'), ("lt", '<'), ("gt", '>'), ("quot", '"'), ("apos", '\'')]

def character? (n : ℕ) : Option Char :=
  if n.isValidChar ∧ isLegal (.ofNat n) then some (.ofNat n) else none

def denoted? : List Char → Option Char
  | '#' :: 'x' :: digits => (Number.ofRadix? 16 digits).bind character?
  | '#' :: digits => (Number.ofRadix? 10 digits).bind character?
  | name => entities.lookup (.ofList name)

def normalized (c : Char) : Char :=
  if c = '\t' ∨ c = '\n' ∨ c = '\r' then ' ' else c

/-- Reads the rest of a value, perhaps in the middle of a reference of which a part is given. -/
def valueFrom : Option (List Char) → List Char → Option (List Char)
  | none, [] => some []
  | some _, [] => none
  | none, c :: rest =>
    if c = '&' then valueFrom (some []) rest
    else if c = '<' ∨ c = '"' ∨ isLegal c = false then none
    else (valueFrom none rest).map (normalized c :: ·)
  | some name, c :: rest =>
    if c = ';' then do
      let d ← denoted? name
      let more ← valueFrom none rest
      some (d :: more)
    else valueFrom (some (name ++ [c])) rest

/-- The value of an attribute that is written with the given text between double quotes. There is
none if the text is not well-formed. -/
def attributeValue? (text : String) : Option String :=
  (valueFrom none text.toList).map .ofList

theorem valueFrom_name {name : List Char} (hname : ';' ∉ name) (first rest : List Char) :
    valueFrom (some first) (name ++ ';' :: rest) =
      valueFrom (some (first ++ name)) (';' :: rest) := by
  induction name generalizing first with
  | nil => rw [List.nil_append, List.append_nil]
  | cons c name ih =>
    rw [List.mem_cons, not_or] at hname
    have hstep : valueFrom (some first) (c :: (name ++ ';' :: rest)) =
        valueFrom (some (first ++ [c])) (name ++ ';' :: rest) := by
      rw [valueFrom, if_neg (Ne.symm hname.1)]
    rw [List.cons_append, hstep, ih hname.2, List.append_assoc, List.singleton_append]

theorem valueFrom_reference {name : List Char} {d : Char} (hname : ';' ∉ name)
    (hd : denoted? name = some d) (rest : List Char) :
    valueFrom none ('&' :: (name ++ ';' :: rest)) = (valueFrom none rest).map (d :: ·) := by
  have hbegin : valueFrom none ('&' :: (name ++ ';' :: rest)) =
      valueFrom (some []) (name ++ ';' :: rest) := by
    rw [valueFrom, if_pos rfl]
  rw [hbegin, valueFrom_name hname, List.nil_append, valueFrom, if_pos rfl, hd]
  cases valueFrom none rest <;> rfl

theorem valueFrom_literal {c : Char} (hamp : c ≠ '&') (hlt : c ≠ '<') (hquot : c ≠ '"')
    (hc : isLegal c = true) (rest : List Char) :
    valueFrom none (c :: rest) = (valueFrom none rest).map (normalized c :: ·) := by
  have hallowed : ¬(c = '<' ∨ c = '"' ∨ isLegal c = false) := by
    simp [hlt, hquot, hc]
  rw [valueFrom, if_neg hamp, if_neg hallowed]

end Xml

namespace Checkstyle

open Xml

def received (c : Char) : Char := if c = '\t' ∨ c = '\r' then ' ' else c

theorem received_of_reference {reference : String × Char} (h : reference ∈ references) :
    received reference.2 = reference.2 := by
  revert reference
  decide

theorem normalized_of_literal {c : Char} (h : ∀ reference ∈ references, reference.2 ≠ c) :
    normalized c = received c := by
  have hfeed : c ≠ '\n' := (h ("#10", '\n') (by decide)).symm
  simp [normalized, received, hfeed]

theorem valueFrom_escapeChar {c : Char} (hc : isLegal c = true) (rest : List Char) :
    valueFrom none ((escapeChar c).toList ++ rest) =
      (valueFrom none rest).map (received c :: ·) := by
  have hreferences : ∀ reference ∈ references, ';' ∉ reference.1.toList ∧
      denoted? reference.1.toList = some reference.2 := by decide
  rcases escapeChar_cases c with ⟨reference, hmem, rfl, htext⟩ | ⟨hne, htext⟩
  · obtain ⟨hname, hd⟩ := hreferences reference hmem
    rw [htext, List.cons_append, List.append_assoc, List.singleton_append,
      valueFrom_reference hname hd, received_of_reference hmem]
  · have hamp := (hne ("amp", '&') (by decide)).symm
    have hlt := (hne ("lt", '<') (by decide)).symm
    have hquot := (hne ("quot", '"') (by decide)).symm
    rw [htext, List.singleton_append, valueFrom_literal hamp hlt hquot hc,
      normalized_of_literal hne]

theorem valueFrom_escape {text : String} (h : ∀ c ∈ text.toList, isLegal c = true) :
    valueFrom none (escape text).toList = some (text.toList.map received) := by
  rw [toList_escape]
  generalize text.toList = cs at h
  induction cs with
  | nil => rfl
  | cons c rest ih =>
    rw [List.forall_mem_cons] at h
    rw [List.flatMap_cons, valueFrom_escapeChar h.1, ih h.2]
    rfl

theorem attributeValue?_eq {text : String} (h : ∀ c ∈ text.toList, isLegal c = true) :
    attributeValue? (escape text) = some (.ofList (text.toList.map received)) := by
  rw [attributeValue?, valueFrom_escape h, Option.map_some]

theorem received_eq_self_iff {c : Char} : received c = c ↔ c ≠ '\t' ∧ c ≠ '\r' := by
  constructor
  · intro h
    constructor <;> rintro rfl <;> exact absurd h (by decide)
  · rintro ⟨htab, hreturn⟩
    simp [received, htab, hreturn]

theorem map_received_eq_self_iff {text : List Char} :
    text.map received = text ↔ '\t' ∉ text ∧ '\r' ∉ text := by
  induction text with
  | nil => simp
  | cons c rest ih =>
    rw [List.map_cons, List.cons_eq_cons, received_eq_self_iff, ih, List.mem_cons, List.mem_cons]
    tauto

/-- An attribute into which a text of legal characters is written is well-formed, and its value is
the text with spaces in the place of tabs and carriage returns. So it is the text itself just if
there are none of these. -/
theorem attributeValue?_escape {text : String} (h : ∀ c ∈ text.toList, Xml.isLegal c = true) :
    Xml.attributeValue? (escape text) = some (.ofList (text.toList.map fun c ↦
      if c = '\t' ∨ c = '\r' then ' ' else c)) ∧
    (Xml.attributeValue? (escape text) = some text ↔
      '\t' ∉ text.toList ∧ '\r' ∉ text.toList) := by
  refine ⟨attributeValue?_eq h, ?_⟩
  rw [attributeValue?_eq h, Option.some.injEq, ← map_received_eq_self_iff, ← String.toList_inj,
    String.toList_ofList]

theorem attributeValue?_escape_markup :
    (∀ c ∈ "\"a\" < 'b'\n& \tc".toList, Xml.isLegal c = true) ∧
    Xml.attributeValue? (escape "\"a\" < 'b'\n& \tc") = some "\"a\" < 'b'\n&  c" := by
  have hlegal : ∀ c ∈ "\"a\" < 'b'\n& \tc".toList, Xml.isLegal c = true :=
    List.all_eq_true.1 (by decide)
  exact ⟨hlegal, (attributeValue?_escape hlegal).1⟩

theorem attributeValue?_escape_blanks :
    (∀ c ∈ "\t\r\n".toList, Xml.isLegal c = true) ∧
    Xml.attributeValue? (escape "\t") = some " " ∧ Xml.attributeValue? (escape "\r") = some " " ∧
    Xml.attributeValue? (escape "\n") = some "\n" := by
  refine ⟨List.all_eq_true.1 (by decide), ?_, ?_, ?_⟩ <;>
    exact attributeValue?_eq (List.all_eq_true.1 (by decide))

end Checkstyle

end LintEngine
