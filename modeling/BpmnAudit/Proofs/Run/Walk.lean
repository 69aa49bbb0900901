import BpmnAudit.Audit.Walk
import BpmnAudit.Proofs.Run.Rules

/-!
# Walks as visits

The loop over a stack of containers does what the visits say, one after the other: it applies the
rules to each element inside the container that itself owns it (`Run.walk_eq`).

A frame of the stack is a container with the elements that are left of it. What the loop does
with a frame, whatever is below it, are the visits from the frame's next element on
(`Walk.resume_frame`); so a walk comes back from a subprocess to the elements after it, and to the
container that owns them. From this follows what a walk leads to, visit by visit
(`Run.Sound.walk`).
-/

namespace BpmnAudit

/-- What the rules find wrong with a visited element, given what governs them. -/
def Visit.findings (settings : Settings) (adHoc : Bool) (v : Visit) : List Diagnostic :=
  v.placed.located.findings (.inside settings adHoc (.owner v.owner))

/-- What the rules find wrong with all that a container owns, given what governs them. -/
def Owner.findings (settings : Settings) (adHoc : Bool) (owner : Owner) : List Diagnostic :=
  owner.visits.flatMap (·.findings settings adHoc)

/-- What is told at a visit, given what governs the rules. -/
def Visit.records (settings : Settings) (adHoc : Bool) (v : Visit) : List LogRecord :=
  v.placed.located.records (.inside settings adHoc (.owner v.owner))

/-- The record of a walk: the container, how many elements it owns at all depths, and how many
levels they make up. -/
def Owner.walkRecord (owner : Owner) : LogRecord :=
  ⟨.debug, .walk,
    "Walked container " ++ shownId owner.id ++ ": " ++
      toString (preorder owner.elements).length ++ " elements, depth " ++
        toString (1 + heights owner.elements)⟩

/-- What a walk tells: what is told at each visit, then the record of the walk. -/
def Owner.records (settings : Settings) (adHoc : Bool) (owner : Owner) : List LogRecord :=
  owner.visits.flatMap (·.records settings adHoc) ++ [owner.walkRecord]

namespace Run

/-- Applies the rules to a visited element inside its owner. -/
def visit (run : Run) (v : Visit) : Run :=
  ((run.enterContainer (.owner v.owner)).applyRules v.placed.located).result

end Run

/-! ## The loop -/

namespace Walk

/-- A walk after visits: they happened, and so many levels of containers were open. -/
def after (walk : Walk) (visits : List Visit) (level : Nat) : Walk where
  run := visits.foldl Run.visit walk.run
  visited := walk.visited + visits.length
  depth := max walk.depth level

theorem after_append (walk : Walk) (visits more : List Visit) (level level' : Nat) :
    (walk.after visits level).after more level' =
      walk.after (visits ++ more) (max level level') := by
  simp only [after, List.foldl_append, List.length_append, Nat.add_assoc, Nat.max_assoc]

theorem depth_le_after (walk : Walk) (visits : List Visit) (level : Nat) :
    walk.depth ≤ (walk.after visits level).depth := Nat.le_max_left _ _

mutual

theorem resume_cons (owner : Owner) (i : Nat) (e : FlowElement) (rest : List FlowElement)
    (stack : List WalkFrame) (walk : Walk) (h : stack.length + 1 ≤ walk.depth) :
    resume (⟨owner, i, e :: rest⟩ :: stack) walk =
      resume (⟨owner, i + 1, rest⟩ :: stack)
        (walk.after (e.visits owner i) (stack.length + 1 + e.height)) := by
  cases e with
  | leaf l =>
    have hk : (FlowElement.leaf l).kind.isContainer = false := l.kind_isContainer
    rw [resume]
    simp only [hk, Bool.false_eq_true, if_false]
    congr 1
    simp only [after, visit, FlowElement.visits, FlowElement.height, List.length_singleton,
      List.foldl_cons, List.foldl_nil, Nat.add_zero, Nat.max_eq_left h]
    rfl
  | subProcess node es triggered =>
    have hk : (FlowElement.subProcess node es triggered).kind.isContainer = true := rfl
    -- the frame pushed for the subprocess, above the frame of its owner
    have inside := resume_frame
      (.ofPlaced (owner.placed i (.subProcess node es triggered))) 0 es
      (⟨owner, i + 1, rest⟩ :: stack)
      (walk.after [⟨owner, owner.placed i (.subProcess node es triggered)⟩] (stack.length + 2))
      (Nat.le_max_right _ _)
    rw [resume]
    simp only [hk, if_true]
    refine Eq.trans inside ?_
    rw [after_append]
    congr 2
    simp only [FlowElement.height, List.length_cons]
    omega

/-- The loop does with a frame what the visits from its next element on say, and goes on with the
frames below. -/
theorem resume_frame (owner : Owner) (i : Nat) (es : List FlowElement) (stack : List WalkFrame)
    (walk : Walk) (h : stack.length + 1 ≤ walk.depth) :
    resume (⟨owner, i, es⟩ :: stack) walk =
      resume stack (walk.after (visitsFrom owner i es) (stack.length + 1 + heights es)) := by
  cases es with
  | nil =>
    rw [resume]
    congr 1
    simp only [after, visitsFrom, heights, List.foldl_nil, List.length_nil, Nat.add_zero,
      Nat.max_eq_left h]
  | cons e es =>
    rw [resume_cons owner i e es stack walk h,
      resume_frame owner (i + 1) es stack _ (Nat.le_trans h (depth_le_after _ _ _)), after_append]
    congr 2
    simp only [heights]
    omega

end

end Walk

namespace Run

/-- A walk through a container: its visits one after the other, then a record of their number and
of how deep they went. -/
theorem walk_eq (run : Run) (owner : Owner) :
    run.walk owner =
      (owner.visits.length,
        (owner.visits.foldl visit run).tell owner.walkRecord) := by
  unfold walk Owner.walkRecord
  rw [Walk.resume_frame owner 0 owner.elements [] { run } (Nat.le_refl 1), Walk.resume,
    ← owner.length_visits]
  simp only [Walk.after, Owner.visits, List.length_nil, Nat.zero_add]
  rw [Nat.max_eq_right (Nat.le_add_right 1 _)]

/-! ## What walks lead to -/

variable {documents : Documents} {run : Run}

theorem Sound.enterOwner (h : run.Sound documents) {owner : Owner} (ho : owner.IsIn documents) :
    (run.enterContainer (.owner owner)).Sound documents :=
  ⟨fun _ e => Option.some.inj e ▸ ho, h.indexes⟩

theorem Sound.visit (h : run.Sound documents) {v : Visit} (hv : v.owner.IsIn documents) :
    Leads documents run (v.findings run.settings run.adHoc) (v.records run.settings run.adHoc)
      (run.visit v) := by
  have applied := (h.enterOwner hv).applyRules rfl v.placed
  exact ⟨⟨applied.settings, applied.diagnostics, applied.log, applied.sound⟩, applied.process,
    applied.adHoc⟩

@[simp] theorem container_visit (run : Run) (v : Visit) :
    (run.visit v).container = .owner v.owner := container_applyRules _ _

theorem Sound.visits (h : run.Sound documents) {visits : List Visit}
    (hv : ∀ v ∈ visits, v.owner.IsIn documents) :
    Leads documents run (visits.flatMap (·.findings run.settings run.adHoc))
      (visits.flatMap (·.records run.settings run.adHoc)) (visits.foldl Run.visit run) := by
  induction visits generalizing run with
  | nil => exact .refl h
  | cons v visits ih =>
    have first := h.visit (hv v List.mem_cons_self)
    have rest := ih first.sound fun w hw => hv w (List.mem_cons_of_mem _ hw)
    rw [first.settings, first.adHoc] at rest
    exact first.trans rest

/-- The last visit leaves the run inside its owner. -/
theorem container_visits (run : Run) (visits : List Visit) :
    (visits.foldl visit run).container =
      (visits.getLast?.map fun v => Surroundings.owner v.owner).getD run.container := by
  rcases List.eq_nil_or_concat visits with rfl | ⟨before, v, rfl⟩
  · rfl
  · rw [List.concat_eq_append, List.foldl_append]
    simp

/-- A walk adds what the rules find at each visit, in the order of the visits; it tells what they
tell there, and then of itself. -/
theorem Sound.walk (h : run.Sound documents) {owner : Owner} (ho : owner.IsIn documents) :
    Leads documents run (owner.findings run.settings run.adHoc)
      (owner.records run.settings run.adHoc) (run.walk owner).2 := by
  have visited := h.visits fun v hv => ((Owner.mem_visits_iff.mp hv).isIn ho).1
  rw [walk_eq]
  exact ⟨visited.toAdds.tell owner.walkRecord, visited.process, visited.adHoc⟩

end Run

end BpmnAudit
