import BpmnAudit.Proofs.Document.Faults
import BpmnAudit.Proofs.Document.Shapes

/-!
# Readings that fail for a reason

A reading is frank if it does not fail without a fault; then it yields a value exactly if it has no
faults (`Outcome.Frank.faults_eq_nil_iff`). Frank readings of parts make up a frank reading of the
whole (`Codec.frank_read`), and the fields of every sort are read frankly (`Field.sorts_frank`). So
is every element of every shape (`Element.frank_read`).
-/

namespace BpmnAudit

/-! ## Outcomes -/

namespace Outcome

variable {α β : Type}

/-- A reading does not fail without a fault. -/
def Frank (o : Outcome α) : Prop := o ≠ .error []

/-- A frank reading yields a value exactly if it has no faults. -/
theorem Frank.faults_eq_nil_iff {o : Outcome α} (h : o.Frank) :
    o.faults = [] ↔ ∃ a, o = .ok a := by
  cases o with
  | ok a => exact iff_of_true rfl ⟨a, rfl⟩
  | error faults =>
    refine iff_of_false (fun hnil => h ?_) (fun ⟨a, ha⟩ => by cases ha)
    obtain rfl : faults = [] := hnil
    rfl

@[simp] theorem frank_ok (a : α) : Frank (.ok a : Outcome α) := nofun

@[simp] theorem frank_fault (cause : Cause) : Frank (fault cause : Outcome α) := nofun

theorem Frank.under {o : Outcome α} (h : o.Frank) (step : Step) : (o.under step).Frank := by
  cases o with
  | ok a => exact frank_ok a
  | error faults =>
    intro heq
    obtain rfl := List.map_eq_nil_iff.mp (Except.error.inj heq)
    exact h rfl

theorem Frank.map {o : Outcome α} (h : o.Frank) (f : α → β) : Frank (o.map f) := by
  cases o with
  | ok a => exact frank_ok (f a)
  | error faults => exact fun heq => h (congrArg Except.error (Except.error.inj heq))

theorem Frank.ap {f : Outcome (α → β)} {o : Outcome α} (hf : f.Frank) (ho : o.Frank) :
    (f.ap o).Frank := by
  cases f with
  | ok f => cases o with
    | ok a => exact frank_ok (f a)
    | error faults => exact fun heq => ho (congrArg Except.error (Except.error.inj heq))
  | error faults => cases o with
    | ok a => exact fun heq => hf (congrArg Except.error (Except.error.inj heq))
    | error others =>
      intro heq
      obtain ⟨rfl, -⟩ := List.append_eq_nil_iff.mp (Except.error.inj heq)
      exact hf rfl

theorem frank_collect {os : List (Outcome α)} (h : ∀ o ∈ os, o.Frank) (i : Nat) :
    (collect i os).Frank := by
  induction os generalizing i with
  | nil => exact frank_ok []
  | cons o os ih =>
    obtain ⟨first, rest⟩ := List.forall_mem_cons.mp h
    exact Frank.ap (Frank.map (first.under _) _) (ih rest (i + 1))

end Outcome

open Outcome (frank_ok frank_fault)

/-! ## Layouts -/

/-- The values of a field are read frankly. -/
def Field.Frank {α : Type} (f : Field α) : Prop := ∀ value, (f.read value).Frank

theorem Field.Frank.get {α : Type} {f : Field α} (h : f.Frank) (members : Json.Members) :
    (f.get members).Frank := by
  unfold Field.get
  split
  · exact (h _).under _
  · split
    · exact frank_ok _
    · exact (frank_fault _).under _

/-- A layout of frank fields is read frankly, if what is owned is. -/
theorem Codec.frank_read {χ ω α : Type} {c : Codec χ ω α} (h : c.All Field.Frank)
    (members : Json.Members) {owned : Outcome χ} (ho : owned.Frank) :
    (c.read members owned).Frank := by
  induction c with
  | pure a => exact frank_ok a
  | field f get => exact Field.Frank.get h members
  | children get => exact ho
  | ap head last ihHead ihLast => exact (ihHead h.1).ap (ihLast h.2)

theorem Form.frank_read {χ α : Type} {form : Form χ α} (h : form.layout.All Field.Frank)
    (members : Json.Members) {owned : Outcome χ} (ho : owned.Frank) :
    (form.read members owned).Frank :=
  (Codec.frank_read h members ho).map form.make

/-! ## Values of fields -/

theorem frank_readText (v : Json) : (readText v).Frank := by
  unfold readText
  split <;> simp

theorem frank_readOptionalText (v : Json) : (readOptionalText v).Frank := by
  unfold readOptionalText
  split <;> simp

theorem frank_boolOfInt (least n : Int) : (boolOfInt least n).Frank := by
  unfold boolOfInt
  split_ifs <;> simp

theorem frank_readBool (v : Json) : (readBool v).Frank := by
  unfold readBool
  split
  · exact frank_ok _
  · exact frank_boolOfInt _ _
  · split
    · exact frank_boolOfInt _ _
    · exact frank_fault _
  · dsimp only
    split_ifs <;> simp
  · exact frank_fault _

theorem frank_readEntries (members : Json.Members) :
    (readAttributes.readEntries members).Frank := by
  induction members with
  | nil => exact frank_ok _
  | cons m members ih =>
    obtain ⟨name, value⟩ := m
    rw [readAttributes.readEntries]
    exact Outcome.Frank.ap (Outcome.Frank.map ((frank_readText value).under _) _) ih

theorem frank_readAttributes (v : Json) : (readAttributes v).Frank := by
  unfold readAttributes
  split
  · exact (frank_readEntries _).map _
  · exact frank_fault _

theorem frank_readWord {α : Type} (words : List String) (ofWord? : String → Option α) (v : Json) :
    (readWord words ofWord? v).Frank := by
  unfold readWord
  split
  · split <;> simp
  · exact frank_fault _

section Lists

variable {κ α : Type}

theorem frank_readList {read : Json → Outcome α} (h : ∀ v, (read v).Frank) (v : Json) :
    (readList read v).Frank := by
  unfold readList
  split
  · refine Outcome.frank_collect (List.forall_mem_map.mpr fun v _ => h v) 0
  · exact frank_fault _

theorem frank_readTagged {read : κ → Outcome α} (h : ∀ kind, (read kind).Frank) (field : String)
    (tags : List String) (ofTag? : String → Option κ) (members : Json.Members) :
    (readTagged field tags ofTag? read members).Frank := by
  unfold readTagged
  split
  · exact frank_fault _
  · split
    · exact (h _).under _
    · exact frank_fault _
  · exact frank_fault _

end Lists

/-! ## Tagged lists -/

/-- What holds of a value whenever it holds of the flow elements that the value owns, holds of every
value. -/
theorem Json.owned_induction {P : Json → Prop}
    (h : ∀ members, (∀ items, get? members childrenName = some (.array items) →
      ∀ item ∈ items, P item) → P (.object members))
    (other : ∀ v, (∀ members, v ≠ .object members) → P v) (v : Json) : P v := by
  cases v with
  | object members =>
    refine h members fun items hitems item hi => ?_
    have inside : sizeOf item < sizeOf (Json.object members) := by
      have hm := List.sizeOf_lt_of_mem (mem_of_get?_eq_some hitems)
      have hi := List.sizeOf_lt_of_mem hi
      simp only [Prod.mk.sizeOf_spec, array.sizeOf_spec] at hm
      simp only [object.sizeOf_spec]
      omega
    exact owned_induction h other item
  | _ => exact other _ nofun
termination_by sizeOf v
decreasing_by exact inside

theorem frank_readEventDefinition (h : ∀ kind, (Layout.trigger kind).layout.All Field.Frank)
    (v : Json) : (readEventDefinition v).Frank := by
  cases v with
  | object members =>
    exact frank_readTagged (fun kind => Form.frank_read (h kind) members (frank_ok ())) _ _ _ _
  | _ => exact frank_fault _

theorem frank_readFlowElement (h : ∀ kind, (Layout.flow kind).layout.All Field.Frank) (v : Json) :
    (readFlowElement v).Frank := by
  induction v using Json.owned_induction with
  | h members ih =>
    have owned : (readOwned members).Frank := by
      rw [readOwned_eq, Field.get]
      split
      · next v hv =>
        refine Outcome.Frank.under ?_ _
        cases v with
        | array items =>
          exact Outcome.frank_collect (List.forall_mem_map.mpr (ih items hv)) 0
        | _ => exact frank_fault _
      · exact frank_ok _
    rw [readFlowElement]
    exact frank_readTagged (fun kind => Form.frank_read (h kind) members owned) _ _ _ _
  | other v hv =>
    cases v with
    | object members => exact (hv members rfl).elim
    | _ => rw [readFlowElement] <;> simp

theorem frank_readRootElement (h : ∀ kind, (Layout.root kind).layout.All Field.Frank)
    (ho : Field.flowElements.Frank) (v : Json) : (readRootElement v).Frank := by
  cases v with
  | object members =>
    have owned : (readOwned members).Frank := by
      rw [readOwned_eq]
      exact ho.get members
    exact frank_readTagged (fun kind => Form.frank_read (h kind) members owned) _ _ _ _
  | _ => exact frank_fault _

/-! ## All fields -/

/-- The values of every sort of field are read frankly. -/
theorem Field.sorts_frank : Field.Sorts Field.Frank where
  optionalText _ := frank_readOptionalText
  text _ _ := frank_readText
  flag _ _ := frank_readBool
  texts _ := frank_readList frank_readText
  attributes := frank_readAttributes
  blocks := frank_readList frank_readAttributes
  constant _ word v := by
    cases v with
    | text s =>
      show Outcome.Frank (if s = word then _ else _)
      split_ifs <;> simp
    | _ => exact frank_fault _
  word _ _ _ _ _ _ := frank_readWord _ _
  optionalWord _ words ofWord? _ _ v := by
    dsimp only [optionalWord]
    split
    · exact frank_ok _
    · exact (frank_readWord words ofWord? v).map some
  optionalObject _ _ h v := by
    cases v with
    | null => exact frank_ok _
    | object members => exact (Codec.frank_read h members (frank_ok ())).map some
    | _ => exact frank_fault _
  eventDefinitions h := frank_readList (frank_readEventDefinition h)
  flowElements h := frank_readList (frank_readFlowElement h)
  rootElements h ho := frank_readList (frank_readRootElement h ho)

/-- Elements of every shape are read frankly. -/
theorem Element.frank_read (shape : Shape) (v : Json) : (Element.read shape v).Frank := by
  cases v with
  | object members =>
    rw [read, readMembers_eq]
    exact Form.frank_read (Field.sorts_frank.all_form shape) members (frank_ok ())
  | _ => exact frank_fault _

end BpmnAudit
