import BpmnAudit.Model.Tree

/-!
# Misfits

An element can be asked for something that elements of its shape do not have: a sequence flow has
no outgoing connections, an expression has no id. Whoever asks stops there, and what was done
before stands. A misfit says what was asked for in vain, a progress how far something came. The
main statement is that steps without misfits are a fold.
-/

namespace BpmnAudit

/-- What was asked for in vain. -/
inductive Misfit where
  /-- A field that something of a sort does not have. -/
  | lacks (label field : String)
  /-- The directions of a kind that is no gateway's; an element may have no kind at all. -/
  | noDirections (kind : Option ElementKind)
  deriving DecidableEq, Repr

/-- The constant that stands for a kind in messages: the words of its tag in capitals. A
subprocess is one word. -/
def ElementKind.constant (kind : ElementKind) : String :=
  if kind = .flow .subProcess then "SUBPROCESS"
  else String.ofList (kind.tag.toList.flatMap fun c => if c.isUpper then ['_', c] else [c.toUpper])

def Misfit.message : Misfit → String
  | lacks label field => "'" ++ label ++ "' object has no attribute '" ++ field ++ "'"
  | noDirections none => "None"
  | noDirections (some kind) => "<BPMNElementType." ++ kind.constant ++ ": '" ++ kind.tag ++ "'>"

/-! ## Progress -/

/-- How far something came: what came of it, and the misfit that stopped it, if one did. -/
structure Progress (α : Type) where
  result : α
  misfit : Option Misfit := none

namespace Progress

variable {α β : Type}

/-- Makes something else of what came. -/
def map (f : α → β) (p : Progress α) : Progress β := ⟨f p.result, p.misfit⟩

/-- Goes on, unless there was a misfit. -/
def andThen (p : Progress α) (next : α → Progress α) : Progress α :=
  match p.misfit with
  | none => next p.result
  | some _ => p

/-- Takes steps one after the other, up to the first misfit. -/
def steps (step : α → β → Progress α) (start : α) (items : List β) : Progress α :=
  items.foldl (fun p item => p.andThen (step · item)) ⟨start, none⟩

/-- Puts lists one after the other, up to the first misfit. -/
def append (p q : Progress (List β)) : Progress (List β) :=
  p.andThen fun found => q.map (found ++ ·)

@[simp] theorem andThen_none (a : α) (next : α → Progress α) :
    andThen ⟨a, none⟩ next = next a := rfl

/-- Steps without misfits are a fold. -/
theorem steps_eq_foldl {step : α → β → Progress α} {items : List β} {P : α → Prop}
    (h : ∀ a, P a → ∀ item ∈ items, (step a item).misfit = none ∧ P (step a item).result)
    {start : α} (hs : P start) :
    steps step start items = ⟨items.foldl (fun a item => (step a item).result) start, none⟩ := by
  unfold steps
  induction items generalizing start with
  | nil => rfl
  | cons item items ih =>
    obtain ⟨none', kept⟩ := h start hs item (by simp)
    have first : step start item = ⟨(step start item).result, none⟩ := by rw [← none']
    simp only [List.foldl_cons, andThen_none]
    rw [first]
    exact ih (fun a ha i hi => h a ha i (List.mem_cons_of_mem _ hi)) kept

end Progress

/-! ## Containers -/

/-- The container that an element is. -/
def Located.asOwner (l : Located) : Except Misfit Owner :=
  match l.owner? with
  | some owner => .ok owner
  | none => .error (.lacks l.element.label "flow_elements")

end BpmnAudit
