import BpmnAudit.Audit.NodeRule
import BpmnAudit.Proofs.Keys

/-!
# Extension blocks

Merging blocks gives every name its first value over the blocks (`lookup_mergeBlocks`), and each name
once, in the order in which the names first come up (`keys_mergeBlocks`). So the simulation data of
a strict run have a name exactly when its first value is not blank (`lookup_simulationData`); outside
of strict runs there are none. All look-ups in blocks agree (`BaseElement.blockLookups_agree`).
-/

namespace BpmnAudit

/-- Of a name in several blocks the first value counts. -/
theorem lookup_mergeBlocks (blocks : List Attributes) (name : String) :
    (mergeBlocks blocks).lookup name = blockValue? blocks name := by
  have key : ∀ (blocks : List Attributes) (merged : List (String × String)),
      (blocks.foldl (fun merged block => putNewKeys merged block.entries) merged).lookup name =
        (merged.lookup name).or (blockValue? blocks name) := by
    intro blocks
    induction blocks with
    | nil => intro merged; exact Option.or_none.symm
    | cons block blocks ih =>
      intro merged
      rw [List.foldl_cons, ih, lookup_putNewKeys, Option.or_assoc]
      congr 1
      unfold blockValue?
      rw [List.findSome?_cons]
      unfold Attributes.get?
      cases block.entries.lookup name <;> simp
  exact key blocks []

/-- Merged blocks have their names in the order in which they first come up. -/
theorem keys_mergeBlocks (blocks : List Attributes) :
    (mergeBlocks blocks).map Prod.fst =
      (blocks.flatMap fun block => block.entries.map Prod.fst).eraseDups := by
  have key : ∀ (blocks : List Attributes) (merged : List (String × String)) (seen : List String),
      merged.map Prod.fst = seen.eraseDups →
      (blocks.foldl (fun merged block => putNewKeys merged block.entries) merged).map Prod.fst =
        (seen ++ blocks.flatMap fun block => block.entries.map Prod.fst).eraseDups := by
    intro blocks
    induction blocks with
    | nil =>
      intro merged seen h
      rw [List.foldl_nil, List.flatMap_nil, List.append_nil, h]
    | cons block blocks ih =>
      intro merged seen h
      rw [List.foldl_cons, ih _ _ (keys_putNewKeys h block.entries), List.flatMap_cons,
        List.append_assoc]
  exact key blocks [] [] rfl

theorem nodup_mergeBlocks (blocks : List Attributes) :
    ((mergeBlocks blocks).map Prod.fst).Nodup := by
  rw [keys_mergeBlocks]
  exact nodup_eraseDups _

/-- The simulation data of a strict run have a name exactly when its first value is not blank. -/
theorem lookup_simulationData (strict : Bool) (base : BaseElement) (name : String) :
    (simulationData strict base).lookup name =
      if strict then (blockValue? base.blocks name).filter fun v => !Text.isBlank (some v)
      else none := by
  unfold simulationData
  split
  · rw [← lookup_mergeBlocks]
    exact lookup_filter (fun v => !Text.isBlank (some v)) (nodup_mergeBlocks base.blocks) name
  · rfl

/-- A name has the same value whether it is looked up block by block or in the merged blocks, which
have each name once, in the order in which the names first come up. The simulation data of a strict
run have a name with this value unless it is blank. So a blank value hides the ones that later
blocks give the name, blank or not. Outside of strict runs there are no simulation data. -/
theorem BaseElement.blockLookups_agree (base : BaseElement) :
    (∀ name value, (mergeBlocks base.blocks).lookup name = some value ↔
      blockValue? base.blocks name = some value) ∧
    (∀ name, (mergeBlocks base.blocks).lookup name = none ↔ blockValue? base.blocks name = none) ∧
    ((mergeBlocks base.blocks).map Prod.fst).Nodup ∧
    (mergeBlocks base.blocks).map Prod.fst =
      (base.blocks.flatMap fun block => block.entries.map Prod.fst).eraseDups ∧
    (∀ name value, (simulationData true base).lookup name = some value ↔
      blockValue? base.blocks name = some value ∧ Text.isBlank (some value) = false) ∧
    (∀ earlier block later name value, base.blocks = earlier ++ block :: later →
      (∀ other ∈ earlier, other.get? name = none) → block.get? name = some value →
      Text.isBlank (some value) = true → (simulationData true base).lookup name = none) ∧
    simulationData false base = [] := by
  have strict : ∀ name value, (simulationData true base).lookup name = some value ↔
      blockValue? base.blocks name = some value ∧ Text.isBlank (some value) = false := by
    intro name value
    rw [lookup_simulationData, if_pos rfl, Option.filter_eq_some_iff, Bool.not_eq_true']
  refine ⟨fun name value => ?_, fun name => ?_, nodup_mergeBlocks _, keys_mergeBlocks _, strict,
    ?_, rfl⟩
  · rw [lookup_mergeBlocks]
  · rw [lookup_mergeBlocks]
  · intro earlier block later name value blocks absent here blank
    have first : blockValue? base.blocks name = some value := by
      rw [blockValue?, blocks, List.findSome?_append, List.findSome?_eq_none_iff.mpr absent,
        Option.none_or, List.findSome?_cons, here]
    rw [Option.eq_none_iff_forall_ne_some]
    intro other found
    obtain ⟨given, said⟩ := (strict name other).mp found
    rw [first] at given
    rw [← Option.some.inj given, blank] at said
    cases said

/-- The first block leaves a duration blank that the second one has. -/
theorem BaseElement.blockLookups_agree_blankDuration :
    let first : Attributes := .ofList [("duration", " "), ("timeUnits", "min")]
    let second : Attributes := .ofList [("range", "2"), ("duration", "5")]
    let base : BaseElement := { blocks := [first, second] }
    (mergeBlocks base.blocks).lookup "duration" = some " " ∧
      (mergeBlocks base.blocks).map Prod.fst = ["duration", "timeUnits", "range"] ∧
      (simulationData true base).lookup "duration" = none ∧
      (simulationData true base).lookup "range" = some "2" := by
  intro first second base
  obtain ⟨merged, -, -, keys, strict, hidden, -⟩ := base.blockLookups_agree
  refine ⟨(merged "duration" " ").mpr rfl, keys.trans (by decide), ?_,
    (strict "range" "2").mpr ⟨rfl, by decide⟩⟩
  exact hidden [] first [second] "duration" " " rfl (List.forall_mem_nil _) rfl (by decide)

end BpmnAudit
