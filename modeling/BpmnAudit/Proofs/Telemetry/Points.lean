import BpmnAudit.Audit.Validator
import BpmnAudit.Proofs.Groups
import BpmnAudit.Proofs.Json.RoundTrip
import BpmnAudit.Telemetry.Host
import Mathlib.Algebra.GroupWithZero.Nat

/-!
# Points of measurements

What a manager makes of the measurements of batches. Totals come with the name of a root type as
their only attribute, so they are summed up type by type (`addPoint_tally`); durations come without
attributes and are counted at one point (`countPoint_durations`). A manager that shows some runs
shows one more after each measurement of a run (`Manager.Shows`).

What is printed on the way does not matter: what a host measures is what its manager takes in
(`Host.manager_receiveAll`).
-/

namespace BpmnAudit

/-! ## Attributes -/

/-- The attributes under which the diagnostics of a root type are counted. -/
def rootType (label : String) : Json.Members := [("root_type", .text label)]

theorem compact_rootType_injective {a b : String}
    (h : (Json.object (rootType a)).compact = (Json.object (rootType b)).compact) : a = b := by
  have read : ∀ label, Json.parse (Json.object (rootType label)).compact.toList =
      some (.object (rootType label)) := by
    intro label
    refine Json.parse_compact ?_ ?_
    · simp [rootType, Json.Numberless, Json.NumberlessMembers]
    · simp [rootType, Json.depth, Json.membersDepth, Json.documentLimits]
  have same : some (Json.object (rootType a)) = some (.object (rootType b)) := by
    rw [← read a, h, read b]
  simpa [rootType] using same

theorem canonical_rootType (label : String) :
    canonical (.object (rootType label)) = .object (rootType label) := by
  simp [rootType, canonical, canonicalMembers, sortedAttributes]

theorem sameAttributes_rootType (a b : String) :
    sameAttributes (rootType a) (rootType b) = decide (a = b) := by
  unfold sameAttributes
  rw [canonical_rootType, canonical_rootType, Bool.eq_iff_iff, beq_iff_eq, decide_eq_true_iff]
  exact ⟨compact_rootType_injective, congrArg fun label => (Json.object (rootType label)).compact⟩

/-! ## Points -/

/-- The sum of the totals of a root type among those of some runs. -/
def totalOf (runs : List (String × Nat)) (label : String) : Nat :=
  ((runs.filter (·.1 == label)).map (·.2)).sum

/-- The points of a counter of totals: one for each root type of which there is a run. -/
def tally (runs : List (String × Nat)) : List CounterPoint :=
  (runs.map (·.1)).eraseDups.map fun label => ⟨rootType label, some (.whole (totalOf runs label))⟩

/-- The points of a histogram of durations: one without attributes, if there is any run. -/
def durations (runs : Nat) : List HistogramPoint := if runs = 0 then [] else [⟨[], runs⟩]

/-- An amount is added to the point of its root type, or comes last as a point of its own. -/
theorem addPoint_map {labels : List String} (distinct : labels.Nodup) (sum : String → Nat)
    (label : String) (n : Nat) (unseen : label ∉ labels → sum label = 0) :
    addPoint (rootType label) (.whole n)
        (labels.map fun l => ⟨rootType l, some (.whole (sum l))⟩) =
      (if label ∈ labels then labels else labels ++ [label]).map fun l =>
        ⟨rootType l, some (.whole ((sum l + if l = label then n else 0 : Nat) : Int))⟩ := by
  induction labels with
  | nil => simp [addPoint, Number.add?, unseen List.not_mem_nil]
  | cons l labels ih =>
    obtain ⟨fresh, distinct⟩ := List.nodup_cons.mp distinct
    rw [List.map_cons, addPoint, sameAttributes_rootType]
    by_cases here : l = label
    · subst here
      have others : ∀ l' ∈ labels, l' ≠ l := fun l' hl heq => fresh (heq ▸ hl)
      rw [if_pos (decide_eq_true rfl), if_pos List.mem_cons_self, List.map_cons, if_pos rfl]
      congr 1
      refine List.map_congr_left fun l' hl => ?_
      rw [if_neg (others l' hl), Nat.add_zero]
    · have next := ih distinct fun missing => unseen (by simp [Ne.symm here, missing])
      rw [if_neg (by simpa using here), next]
      by_cases later : label ∈ labels <;> simp [later, here, Ne.symm here]

theorem totalOf_append (runs : List (String × Nat)) (label l : String) (n : Nat) :
    totalOf (runs ++ [(label, n)]) l = totalOf runs l + if l = label then n else 0 := by
  unfold totalOf
  rw [List.filter_append, List.map_append, List.sum_append]
  by_cases h : l = label
  · simp [h]
  · simp [h, Ne.symm h]

theorem totalOf_eq_zero {runs : List (String × Nat)} {label : String}
    (h : label ∉ runs.map (·.1)) : totalOf runs label = 0 := by
  have none' : runs.filter (·.1 == label) = [] := by
    refine List.filter_eq_nil_iff.mpr fun run hr heq => h ?_
    exact List.mem_map.mpr ⟨run, hr, eq_of_beq heq⟩
  rw [totalOf, none']
  rfl

/-- A total is added to the totals. -/
theorem addPoint_tally (runs : List (String × Nat)) (label : String) (n : Nat) :
    addPoint (rootType label) (.whole n) (tally runs) = tally (runs ++ [(label, n)]) := by
  have added := addPoint_map (nodup_eraseDups (runs.map (·.1))) (totalOf runs) label n
    fun unseen => totalOf_eq_zero (mt List.mem_eraseDups.mpr unseen)
  unfold tally
  rw [added, List.map_append, List.map_singleton, eraseDups_append_singleton]
  simp only [totalOf_append]

/-- A duration is counted. -/
theorem countPoint_durations (runs : Nat) :
    countPoint [] (durations runs) = durations (runs + 1) := by
  have same : sameAttributes [] [] = true := beq_self_eq_true _
  unfold durations
  rw [if_neg (Nat.succ_ne_zero runs)]
  split
  · next h => rw [h, countPoint]
  · rw [countPoint, if_pos same]

/-! ## Emissions -/

/-- The amount that a batch with a report measures. -/
def Emission.total (label : String) (n : Nat) : Emission :=
  .measured "validation_diagnostics_total" (.number (.whole n)) (rootType label)

namespace Manager

/-- Takes in what an emission measures. -/
def take (manager : Manager) : Emission → Manager
  | .record _ => manager
  | .elapsed name => manager.measureTime (durationName name)
  | .measured name amount attributes =>
    match manager.fault? amount with
    | some _ => manager
    | none => manager.measure name amount attributes

theorem foldl_take_records (manager : Manager) (records : List LogRecord) :
    (records.map Emission.record).foldl take manager = manager := by
  induction records with
  | nil => rfl
  | cons record records ih => exact ih

/-- A manager shows runs: the totals of those that were completed, and how many were begun. -/
structure Shows (manager : Manager) (completed : List (String × Nat)) (begun : Nat) : Prop where
  metrics : manager.settings.enableMetrics = true
  counter : manager.counter = tally completed
  histogram : manager.histogram = durations begun

variable {manager : Manager} {completed : List (String × Nat)} {begun : Nat}

theorem endsWith_validationTimer : (durationName validationTimer).endsWith "_total" = false := by
  rw [← String.endsWith_toSlice, String.Slice.endsWith_string_eq_false_iff, String.copy_toSlice]
  decide

theorem take_elapsed (metrics : manager.settings.enableMetrics = true) :
    manager.take (.elapsed validationTimer) =
      { manager with histogram := countPoint [] manager.histogram } := by
  have measurable : (Amount.number (.real 0)).measurable? = some (.real 0) := rfl
  simp [take, measureTime, measure, metrics, measurable, endsWith_validationTimer, Amount.isWhole,
    namedMembers]

theorem Shows.take_elapsed (h : manager.Shows completed begun) :
    (manager.take (.elapsed validationTimer)).Shows completed (begun + 1) := by
  rw [Manager.take_elapsed h.metrics]
  refine ⟨h.metrics, h.counter, ?_⟩
  rw [← countPoint_durations, ← h.histogram]

theorem Shows.take_total (h : manager.Shows completed begun) (label : String) {n : Nat}
    (near : (Number.whole n).isFinite = true) :
    (manager.take (.total label n)).Shows (completed ++ [(label, n)]) begun := by
  have faultless : manager.fault? (.number (.whole n)) = none := by
    simp [fault?, Amount.fault?, near]
  have measurable : (Amount.number (.whole n)).measurable? = some (.whole n) := by
    simp [Amount.measurable?, Amount.value?, Option.filter, Number.isNegative, near]
  have next : manager.take (Emission.total label n) =
      { manager with counter := addPoint (rootType label) (.whole n) manager.counter } := by
    simp [take, Emission.total, faultless, measure, h.metrics, measurable, Amount.isWhole,
      namedMembers, named, rootType]
  rw [next]
  refine ⟨h.metrics, ?_, h.histogram⟩
  rw [← addPoint_tally, ← h.counter]

/-- Any other total stops whoever measures it. -/
theorem take_total_of_far (metrics : manager.settings.enableMetrics = true) (label : String)
    {n : Nat} (far : (Number.whole n).isFinite = false) :
    manager.take (Emission.total label n) = manager := by
  have fault : manager.fault? (.number (.whole n)) = some .tooLarge := by
    simp [fault?, Amount.fault?, far, metrics]
  simp [take, Emission.total, fault]

end Manager

namespace Host

@[simp] theorem manager_print (host : Host) (level : LineLevel) (message : String)
    (extra : Json.Members) (exception : Option String) :
    (host.print level message extra exception).manager = host.manager := by
  unfold print
  split
  · rfl
  · split <;> rfl

/-- What a manager makes of an emission does not depend on what is printed. -/
theorem manager_receive (host : Host) (emission : Emission) :
    (host.receive emission).manager = host.manager.map (·.take emission) := by
  cases emission with
  | record record => simp [receive, Manager.take]
  | elapsed name => simp [receive, elapsed, debug, Manager.take]
  | measured name amount attributes =>
    unfold receive measure
    cases hm : host.manager with
    | none => simp [debug]
    | some manager =>
      simp only [Option.bind_some, Option.map_some, Manager.take]
      cases manager.fault? amount <;> simp [debug, hm]

theorem manager_receiveAll (host : Host) (emissions : List Emission) :
    (host.receiveAll emissions).manager =
      host.manager.map fun manager => emissions.foldl Manager.take manager := by
  unfold receiveAll
  induction emissions generalizing host with
  | nil => simp
  | cons emission emissions ih =>
    rw [List.foldl_cons, ih, manager_receive, Option.map_map]
    rfl

end Host

end BpmnAudit
