import BpmnAudit.Json.Printer
import BpmnAudit.Proofs.Text.Terminal
import Mathlib.Tactic.SplitIfs

/-!
# Values over several lines

A value that is printed in ASCII over several lines is a plain text: in its strings escapes stand
for all control characters, and outside of them only line ends are printed. So nothing of it gets
lost away from a terminal (`Json.withoutTerminal_indented`). Only whole numbers are considered.
-/

namespace BpmnAudit.Json

open Text (Plain)

/-! ## Values with whole numbers -/

mutual

/-- A value in which all numbers are whole. -/
def Whole : Json → Prop
  | .number (.real _) => False
  | .array items => WholeItems items
  | .object members => WholeMembers members
  | _ => True

/-- Items in which all numbers are whole. -/
def WholeItems : List Json → Prop
  | [] => True
  | item :: items => Whole item ∧ WholeItems items

/-- Members in which all numbers are whole. -/
def WholeMembers : List (String × Json) → Prop
  | [] => True
  | (_, value) :: members => Whole value ∧ WholeMembers members

end

theorem whole_array {items : List Json} : Whole (.array items) ↔ ∀ item ∈ items, item.Whole := by
  rw [Whole]
  induction items with
  | nil => simp [WholeItems]
  | cons item items ih => simp [WholeItems, ih]

theorem whole_object {members : List (String × Json)} :
    Whole (.object members) ↔ ∀ m ∈ members, m.2.Whole := by
  rw [Whole]
  induction members with
  | nil => simp [WholeMembers]
  | cons m members ih => obtain ⟨key, value⟩ := m; simp [WholeMembers, ih]

theorem whole_optionalText (text : Option String) : (optionalText text).Whole := by
  cases text <;> simp [optionalText, Whole]

/-! ## Strings and numbers -/

theorem plain_hexDigit : ∀ d, d < 16 →
    Text.hexDigit d ≠ Text.escapeChar ∧ Text.hexDigit d ≠ '\r' := by decide

theorem plain_hexDigits (width n : Nat) : Plain (Text.hexDigits width n) := by
  induction width generalizing n with
  | zero => exact Text.plain_nil
  | succ width ih =>
    rw [Text.hexDigits, Text.plain_append, Text.plain_cons]
    exact ⟨ih _, plain_hexDigit _ (Nat.mod_lt n (by decide)), Text.plain_nil⟩

theorem plain_escapedUnit (n : Nat) : Plain (escapedUnit n) := by
  unfold escapedUnit
  rw [Text.plain_cons, Text.plain_cons]
  exact ⟨by decide, by decide, plain_hexDigits 4 n⟩

theorem plain_escapedUnits (n : Nat) : Plain (escapedUnits n) := by
  unfold escapedUnits
  split
  · exact plain_escapedUnit n
  · exact Text.plain_append.mpr ⟨plain_escapedUnit _, plain_escapedUnit _⟩

theorem plain_escaped {c : Char} (h : c ≠ Text.escapeChar ∧ c ≠ '\r') : Plain ['\\', c] :=
  Text.plain_cons.mpr ⟨by decide, Text.plain_cons.mpr ⟨h, Text.plain_nil⟩⟩

theorem plain_writtenChar (c : Char) : Plain (writtenChar asciiStyle c) := by
  unfold writtenChar
  split_ifs with _ _ _ _ _ _ _ control
  · exact plain_escaped (by decide)
  · exact plain_escaped (by decide)
  · exact plain_escaped (by decide)
  · exact plain_escaped (by decide)
  · exact plain_escaped (by decide)
  · exact plain_escaped (by decide)
  · exact plain_escaped (by decide)
  · exact plain_escapedUnit _
  · exact plain_escapedUnits _
  · -- The escape character and the carriage return are control characters.
    refine Text.plain_cons.mpr ⟨⟨?_, ?_⟩, Text.plain_nil⟩
    · rintro rfl
      exact control (by decide)
    · rintro rfl
      exact control (by decide)

theorem plain_writeText (s : String) {rest : List Char} (h : Plain rest) :
    Plain (writeText asciiStyle s rest) := by
  unfold writeText
  rw [Text.plain_cons]
  refine ⟨by decide, ?_⟩
  induction s.toList with
  | nil => exact Text.plain_cons.mpr ⟨by decide, h⟩
  | cons c cs ih => exact Text.plain_append.mpr ⟨plain_writtenChar c, ih⟩

theorem plain_digits (n : Nat) : Plain (Nat.toDigits 10 n) := by
  intro c hc
  have digit := Nat.isDigit_of_mem_toDigits (by decide) (by decide) hc
  constructor
  · rintro rfl
    cases digit
  · rintro rfl
    cases digit

theorem plain_numberText (n : Int) : Plain (numberText (.whole n)).toList := by
  show Plain n.repr.toList
  cases n with
  | ofNat m =>
    show Plain m.repr.toList
    rw [Nat.toList_repr]
    exact plain_digits m
  | negSucc m =>
    show Plain ("-" ++ m.succ.repr).toList
    rw [String.toList_append, Nat.toList_repr, Text.plain_append]
    exact ⟨Text.plain_cons.mpr ⟨by decide, Text.plain_nil⟩, plain_digits m.succ⟩

/-! ## Values -/

theorem plain_newLine (depth : Nat) {rest : List Char} (h : Plain rest) :
    Plain (newLine depth rest) := by
  unfold newLine
  refine Text.plain_cons.mpr ⟨by decide, Text.plain_append.mpr ⟨fun c hc => ?_, h⟩⟩
  obtain rfl := List.eq_of_mem_replicate hc
  decide

mutual

theorem plain_writeLines (depth : Nat) (v : Json) (hv : v.Whole) {rest : List Char}
    (h : Plain rest) : Plain (writeLines asciiStyle depth v rest) := by
  cases v with
  | null => exact Text.plain_append.mpr ⟨by simp [Text.escapeChar], h⟩
  | bool b => cases b <;> exact Text.plain_append.mpr ⟨by simp [Text.escapeChar], h⟩
  | number n =>
    cases n with
    | whole n => exact Text.plain_append.mpr ⟨plain_numberText n, h⟩
    | real x => exact absurd hv (by simp [Whole])
  | text s => exact plain_writeText s h
  | array items =>
    rw [Whole] at hv
    cases items with
    | nil =>
      rw [writeLines]
      exact Text.plain_cons.mpr ⟨by decide, Text.plain_cons.mpr ⟨by decide, h⟩⟩
    | cons item items =>
      rw [WholeItems] at hv
      rw [writeLines]
      refine Text.plain_cons.mpr ⟨by decide, plain_newLine _ ?_⟩
      exact plain_writeLines (depth + 1) item hv.1 (plain_writeItemLines depth items hv.2 h)
  | object members =>
    rw [Whole] at hv
    cases members with
    | nil =>
      rw [writeLines]
      exact Text.plain_cons.mpr ⟨by decide, Text.plain_cons.mpr ⟨by decide, h⟩⟩
    | cons m members =>
      obtain ⟨key, value⟩ := m
      rw [WholeMembers] at hv
      rw [writeLines]
      refine Text.plain_cons.mpr ⟨by decide, plain_newLine _ (plain_writeText key ?_)⟩
      refine Text.plain_cons.mpr ⟨by decide, Text.plain_cons.mpr ⟨by decide, ?_⟩⟩
      exact plain_writeLines (depth + 1) value hv.1 (plain_writeMemberLines depth members hv.2 h)

theorem plain_writeItemLines (depth : Nat) (items : List Json) (hi : WholeItems items)
    {rest : List Char} (h : Plain rest) : Plain (writeItemLines asciiStyle depth items rest) := by
  cases items with
  | nil =>
    rw [writeItemLines]
    exact plain_newLine depth (Text.plain_cons.mpr ⟨by decide, h⟩)
  | cons item items =>
    rw [WholeItems] at hi
    rw [writeItemLines]
    refine Text.plain_cons.mpr ⟨by decide, plain_newLine _ ?_⟩
    exact plain_writeLines (depth + 1) item hi.1 (plain_writeItemLines depth items hi.2 h)

theorem plain_writeMemberLines (depth : Nat) (members : List (String × Json))
    (hm : WholeMembers members) {rest : List Char} (h : Plain rest) :
    Plain (writeMemberLines asciiStyle depth members rest) := by
  cases members with
  | nil =>
    rw [writeMemberLines]
    exact plain_newLine depth (Text.plain_cons.mpr ⟨by decide, h⟩)
  | cons m members =>
    obtain ⟨key, value⟩ := m
    rw [WholeMembers] at hm
    rw [writeMemberLines]
    refine Text.plain_cons.mpr ⟨by decide, plain_newLine _ (plain_writeText key ?_)⟩
    refine Text.plain_cons.mpr ⟨by decide, Text.plain_cons.mpr ⟨by decide, ?_⟩⟩
    exact plain_writeLines (depth + 1) value hm.1 (plain_writeMemberLines depth members hm.2 h)

end

/-- Nothing of a printed value and the line end behind it gets lost away from a terminal. -/
theorem withoutTerminal_indented {v : Json} (h : v.Whole) :
    Text.withoutTerminal (v.indented ++ "\n") = v.indented ++ "\n" := by
  apply Text.withoutTerminal_of_plain
  rw [String.toList_append, indented, String.toList_ofList]
  exact Text.plain_append.mpr ⟨plain_writeLines 0 v h Text.plain_nil, by simp [Text.escapeChar]⟩

end BpmnAudit.Json
