import BpmnAudit.Proofs.Document.Parts
import Mathlib.Data.List.Nodup

/-!
# Faults along ways

A reading tells all faults at once: those of the fields of an object one after the other, each under
the name of its field (`Codec.faults_read`), and those of the members of a list, each under its
index (`Outcome.faults_collect`). Where no two parts are under the same step, the faults beyond a
step are those of one part, whatever else is wrong (`faultsAt_joinFaults`).
-/

namespace BpmnAudit

/-! ## Ways -/

/-- A fault told from where a way to it begins. -/
def Fault.within (way : List Step) (f : Fault) : Fault := { f with path := way ++ f.path }

/-- A fault told from the end of a way, if it stands there or beyond. -/
def Fault.beyond? : List Step → Fault → Option Fault
  | [], f => some f
  | _ :: _, ⟨[], _⟩ => none
  | step :: way, ⟨first :: path, cause⟩ =>
    if step = first then beyond? way ⟨path, cause⟩ else none

/-- The faults at the end of a way or beyond, told from there. -/
def faultsAt (way : List Step) (faults : List Fault) : List Fault :=
  faults.filterMap (Fault.beyond? way)

theorem faultsAt_nil (faults : List Fault) : faultsAt [] faults = faults :=
  List.filterMap_some

theorem faultsAt_append (way : List Step) (faults more : List Fault) :
    faultsAt way (faults ++ more) = faultsAt way faults ++ faultsAt way more :=
  List.filterMap_append

theorem faultsAt_flatMap {α : Type} (way : List Step) (items : List α) (faults : α → List Fault) :
    faultsAt way (items.flatMap faults) = items.flatMap fun item => faultsAt way (faults item) := by
  rw [faultsAt, List.filterMap_flatMap]
  rfl

theorem faultsAt_within_self (step : Step) (way : List Step) (faults : List Fault) :
    faultsAt (step :: way) (faults.map (Fault.within [step])) = faultsAt way faults := by
  rw [faultsAt, List.filterMap_map]
  congr 1
  funext f
  simp [Fault.beyond?, Fault.within]

theorem faultsAt_within_of_ne {step first : Step} (h : step ≠ first) (way : List Step)
    (faults : List Fault) : faultsAt (step :: way) (faults.map (Fault.within [first])) = [] := by
  rw [faultsAt, List.filterMap_map, List.filterMap_eq_nil_iff]
  intro f _
  simp [Fault.beyond?, Fault.within, h]

theorem Fault.beyond?_eq_some {way : List Step} {f g : Fault} :
    f.beyond? way = some g ↔ f = g.within way := by
  induction way generalizing f with
  | nil => exact Option.some_inj
  | cons step way ih =>
    obtain ⟨path, cause⟩ := f
    cases path with
    | nil => simp [beyond?, within]
    | cons first path =>
      rw [beyond?]
      split
      · next h =>
        rw [ih, h]
        simp [within]
      · next h => simp [within, Ne.symm h]

/-- The faults that a way leads to are those at its end or beyond. -/
theorem filter_isPrefixOf (way : List Step) (faults : List Fault) :
    faults.filter (fun f => way.isPrefixOf f.path) =
      (faultsAt way faults).map (Fault.within way) := by
  induction faults with
  | nil => rfl
  | cons f faults ih =>
    rw [List.filter_cons, faultsAt, List.filterMap_cons, ih]
    cases hf : f.beyond? way with
    | some g =>
      obtain rfl := Fault.beyond?_eq_some.mp hf
      simp [Fault.within, faultsAt]
    | none =>
      have outside : ¬ way.isPrefixOf f.path = true := by
        rw [List.isPrefixOf_iff_prefix]
        rintro ⟨rest, hrest⟩
        have found : f.beyond? way = some ⟨rest, f.cause⟩ :=
          Fault.beyond?_eq_some.mpr (by simp [Fault.within, hrest])
        rw [hf] at found
        cases found
      rw [if_neg outside]
      rfl

/-! ## Faults of readings -/

namespace Outcome

variable {α β : Type}

/-- Readings side by side tell the faults of both, the first ones first. -/
theorem faults_ap (f : Outcome (α → β)) (o : Outcome α) :
    (f.ap o).faults = f.faults ++ o.faults := by
  cases f <;> cases o <;> simp [ap, faults]

theorem faults_under (step : Step) (o : Outcome α) :
    (o.under step).faults = o.faults.map (Fault.within [step]) := by
  cases o <;> rfl

theorem faults_map (f : α → β) (o : Outcome α) : faults (o.map f) = o.faults := by
  cases o <;> rfl

end Outcome

/-! ## Faults of parts -/

/-- The faults of parts one after the other, each told under the step that leads to its part. -/
def joinFaults (parts : List (Step × List Fault)) : List Fault :=
  parts.flatMap fun (step, faults) => faults.map (Fault.within [step])

theorem joinFaults_cons (step : Step) (faults : List Fault) (parts : List (Step × List Fault)) :
    joinFaults ((step, faults) :: parts) = faults.map (Fault.within [step]) ++ joinFaults parts :=
  List.flatMap_cons

theorem faultsAt_joinFaults_of_not_mem {step : Step} {parts : List (Step × List Fault)}
    (h : step ∉ parts.map Prod.fst) (way : List Step) :
    faultsAt (step :: way) (joinFaults parts) = [] := by
  rw [joinFaults, faultsAt_flatMap, List.flatMap_eq_nil_iff]
  rintro ⟨other, faults⟩ hmem
  refine faultsAt_within_of_ne (fun heq => h ?_) way faults
  exact List.mem_map.mpr ⟨_, hmem, heq.symm⟩

/-- Where a step of its own leads to each part, the faults beyond a step are those of its part. -/
theorem faultsAt_joinFaults {parts : List (Step × List Fault)}
    (nodup : (parts.map Prod.fst).Nodup) {step : Step} {faults : List Fault}
    (h : (step, faults) ∈ parts) (way : List Step) :
    faultsAt (step :: way) (joinFaults parts) = faultsAt way faults := by
  induction parts with
  | nil => cases h
  | cons part parts ih =>
    rw [List.map_cons, List.nodup_cons] at nodup
    rw [joinFaults_cons, faultsAt_append]
    rcases List.mem_cons.mp h with rfl | h
    · rw [faultsAt_within_self, faultsAt_joinFaults_of_not_mem nodup.1, List.append_nil]
    · have other : step ≠ part.1 := by
        rintro rfl
        exact nodup.1 (List.mem_map.mpr ⟨_, h, rfl⟩)
      rw [faultsAt_within_of_ne other, ih nodup.2 h, List.nil_append]

/-! ## Faults of lists -/

/-- The faults of the members of a list, from an index on. -/
def indexedFaults {α : Type} (faults : α → List Fault) (i : Nat) (items : List α) :
    List (Step × List Fault) :=
  (items.zipIdx i).map fun (item, j) => (.index j, faults item)

theorem nodup_indexedFaults {α : Type} (faults : α → List Fault) (i : Nat) (items : List α) :
    ((indexedFaults faults i items).map Prod.fst).Nodup := by
  have steps : (indexedFaults faults i items).map Prod.fst =
      (List.range' i items.length).map Step.index := by
    rw [← List.zipIdx_map_snd, List.map_map, indexedFaults, List.map_map]
    rfl
  rw [steps]
  exact List.Nodup.map (fun _ _ => Step.index.inj) List.nodup_range'

theorem mem_indexedFaults {α : Type} {items : List α} {i : Nat} {item : α}
    (h : items[i]? = some item) (faults : α → List Fault) :
    (.index i, faults item) ∈ indexedFaults faults 0 items :=
  List.mem_map.mpr ⟨(item, i), List.mem_zipIdx_iff_getElem?.mpr h, rfl⟩

/-- Readings of a list's members tell the faults of each of them under its index. -/
theorem Outcome.faults_collect {α : Type} (i : Nat) (os : List (Outcome α)) :
    (collect i os).faults = joinFaults (indexedFaults faults i os) := by
  induction os generalizing i with
  | nil => rfl
  | cons o os ih =>
    rw [collect, faults_ap, faults_map, faults_under, ih]
    exact (joinFaults_cons ..).symm

namespace Field

/-- The faults of a field of an object, told from the field. -/
def faultsIn {α : Type} (f : Field α) (members : Json.Members) : List Fault :=
  match Json.get? members f.name with
  | some value => (f.read value).faults
  | none => if f.absent.isSome then [] else [⟨[], .missing⟩]

theorem faults_get {α : Type} (f : Field α) (members : Json.Members) :
    (f.get members).faults = (f.faultsIn members).map (Fault.within [.key f.name]) := by
  unfold get faultsIn
  cases Json.get? members f.name with
  | some value => exact Outcome.faults_under _ _
  | none => cases f.absent <;> rfl

end Field

/-! ## Faults of layouts -/

namespace Codec

variable {χ ω α : Type}

/-- The faults of each field of an object, told from the field. -/
def fieldFaults (members : Json.Members) :
    {α : Type} → Codec χ ω α → List (Step × List Fault)
  | _, .pure _ => []
  | _, .field f _ => [(.key f.name, f.faultsIn members)]
  | _, .children _ => []
  | _, .ap head last => head.fieldFaults members ++ last.fieldFaults members

theorem fieldFaults_sublist (c : Codec χ ω α) (members : Json.Members) :
    ((c.fieldFaults members).map Prod.fst).Sublist (c.names.map Step.key) := by
  induction c with
  | pure a => exact List.Sublist.refl _
  | field f get => exact List.Sublist.refl _
  | children get => exact List.nil_sublist _
  | ap head last ihHead ihLast =>
    rw [fieldFaults, names, List.map_append, List.map_append]
    exact ihHead.append ihLast

theorem Any.mem_fieldFaults {c : Codec χ ω α} {name : String} {v : Json} {faults : List Fault}
    (h : c.Any fun f => f.name = name ∧ (f.read v).faults = faults) {members : Json.Members}
    (hv : Json.get? members name = some v) : (.key name, faults) ∈ c.fieldFaults members := by
  induction c with
  | pure a => exact h.elim
  | field f get =>
    obtain ⟨rfl, rfl⟩ := h
    rw [fieldFaults, Field.faultsIn, hv]
    exact List.mem_singleton_self _
  | children get => exact h.elim
  | ap head last ihHead ihLast =>
    rw [fieldFaults, List.mem_append]
    exact h.imp ihHead ihLast

theorem nodup_fieldFaults {c : Codec χ ω α} (h : c.names.Nodup) (members : Json.Members) :
    ((c.fieldFaults members).map Prod.fst).Nodup :=
  (List.Nodup.map (fun _ _ => Step.key.inj) h).sublist (c.fieldFaults_sublist members)

/-- Reading tells the faults of all fields, in the order of the layout. -/
theorem faults_read (c : Codec χ ω α) (members : Json.Members) (owned : χ) :
    (c.read members (.ok owned)).faults = joinFaults (c.fieldFaults members) := by
  induction c with
  | pure a => rfl
  | field f get =>
    rw [read, f.faults_get]
    exact (List.append_nil _).symm
  | children get => rfl
  | ap head last ihHead ihLast =>
    rw [read, Outcome.faults_ap, ihHead, ihLast, fieldFaults, joinFaults, joinFaults, joinFaults,
      List.flatMap_append]

end Codec

end BpmnAudit
