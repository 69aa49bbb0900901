import BpmnAudit.Proofs.Run.Audit
import BpmnAudit.Proofs.Tree.Lookup
import BpmnAudit.Proofs.Tree.Segments

/-!
# Single elements and whole documents

A batch of a single flow element of a document audits the container that itself owns the element.
What it reports is what a batch of the document reports inside of that container, in one stretch;
only of an ad hoc process, which a batch of a single element knows nothing of, the batch of the
document leaves out the problems of connections (`Settings.outcome_element_of_document`).
-/

namespace BpmnAudit

/-- A diagnostic is of an element inside the container at a place. -/
def Diagnostic.Inside (x : Diagnostic) (outer : Place) : Prop :=
  ∃ l, x.element = some l ∧ l.place.Inside outer

/-! ## Findings inside a container -/

theorem Visit.inside_of_mem_findings {settings : Settings} {adHoc : Bool} {v : Visit} {i : Nat}
    (hv : v.placed.place = i :: v.owner.place) {x : Diagnostic}
    (h : x ∈ v.findings settings adHoc) {outer : Place} :
    x.Inside outer ↔ v.placed.place.Inside outer := by
  obtain ⟨l, j, hl, hj⟩ := v.place_of_mem_findings hv h
  rw [hv, Place.inside_cons_iff]
  constructor
  · rintro ⟨l', hl', hin⟩
    obtain rfl : l = l' := Option.some.inj (hl.symm.trans hl')
    rwa [hj, Place.inside_cons_iff] at hin
  · intro hs
    exact ⟨l, hl, by rwa [hj, Place.inside_cons_iff]⟩

/-- The findings of a container are those inside an owner that it meets, in one stretch, and others
before and after. -/
theorem Owner.findings_eq_append (settings : Settings) (adHoc : Bool) {owner : Owner} {v : Visit}
    (h : owner.Meets v) :
    ∃ before after,
      owner.findings settings adHoc = before ++ v.owner.findings settings adHoc ++ after ∧
      ∀ x ∈ before ++ after, ¬ x.Inside v.owner.place := by
  obtain ⟨before, after, hs, outside⟩ := Owner.visits_eq_append_inside h
  refine ⟨before.flatMap (·.findings settings adHoc), after.flatMap (·.findings settings adHoc),
    ?_, fun x hx => ?_⟩
  · unfold Owner.findings
    rw [hs, List.flatMap_append, List.flatMap_append]
  · rw [← List.flatMap_append] at hx
    obtain ⟨w, hw, hx⟩ := List.mem_flatMap.mp hx
    have met : owner.Meets w := by
      rw [← Owner.mem_visits_iff, hs]
      rcases List.mem_append.mp hw with hw | hw
      · exact List.mem_append_left _ (List.mem_append_left _ hw)
      · exact List.mem_append_right _ hw
    obtain ⟨i, hi⟩ := met.suffix.2
    rw [Visit.inside_of_mem_findings hi hx]
    exact outside w hw

theorem Owner.inside_of_mem_findings {settings : Settings} {adHoc : Bool} {owner : Owner}
    {x : Diagnostic} (h : x ∈ owner.findings settings adHoc) : x.Inside owner.place := by
  obtain ⟨w, hw, hx⟩ := List.mem_flatMap.mp h
  have met := Owner.mem_visits_iff.mp hw
  obtain ⟨i, hi⟩ := met.suffix.2
  exact (Visit.inside_of_mem_findings hi hx).mpr met.inside

/-! ## Findings inside a process -/

theorem Located.inside_of_mem_processFindings {settings : Settings} {l : Located} {x : Diagnostic}
    (h : x ∈ l.processFindings settings) : x.element = none ∨ x.Inside l.place := by
  unfold Located.processFindings at h
  split at h
  · rcases List.mem_append.mp h with h | h
    · exact Or.inl (Process.element_of_mem_ownFindings h)
    · exact Or.inr (Owner.inside_of_mem_findings h)
  · cases h

/-- The findings of a document are those inside an owner that a process meets, in one stretch, and
others before and after. -/
theorem Definitions.findings_eq_append (settings : Settings) {d : Definitions} {i : Nat}
    {p : Process} {place : Place} {v : Visit} (hp : d.rootElements[i]? = some (.process p))
    (hv : (p.owner (i :: place)).Meets v) :
    ∃ before after,
      d.findings settings place = before ++ v.owner.findings settings p.isAdHoc ++ after ∧
      ∀ x ∈ before ++ after, ¬ x.Inside v.owner.place := by
  obtain ⟨ls, ls', hs, elsewhere⟩ := d.locatedProcesses_eq_append hp place
  obtain ⟨before, after, hw, outside⟩ :=
    Owner.findings_eq_append settings p.isAdHoc hv
  refine ⟨ls.flatMap (·.processFindings settings) ++ p.ownFindings ++ before,
    after ++ ls'.flatMap (·.processFindings settings), ?_, fun x hx => ?_⟩
  · unfold Definitions.findings
    rw [hs, List.flatMap_append, List.flatMap_cons]
    show _ ++ (p.findings settings (i :: place) ++ _) = _
    rw [Process.findings, hw]
    simp only [List.append_assoc]
  · have others : x ∈ (ls ++ ls').flatMap (·.processFindings settings) →
        ¬ x.Inside v.owner.place := by
      rintro hx ⟨l, hl, k, hk⟩
      obtain ⟨process, hprocess, hx⟩ := List.mem_flatMap.mp hx
      obtain ⟨j, hj, hplace⟩ := elsewhere process hprocess
      rcases Located.inside_of_mem_processFindings hx with hnone | ⟨l', hl', m, hm⟩
      · rw [hnone] at hl
        cases hl
      · obtain rfl : l = l' := Option.some.inj (hl.symm.trans hl')
        rw [hplace] at hm
        exact hj (Place.index_eq ((List.suffix_cons m _).trans hm)
          ((hv.suffix.1.trans (List.suffix_cons k _)).trans hk))
    simp only [List.flatMap_append, List.mem_append] at hx others
    rcases hx with ((hx | hx) | hx) | hx | hx
    · exact others (Or.inl hx)
    · rintro ⟨l, hl, -⟩
      rw [Process.element_of_mem_ownFindings hx] at hl
      cases hl
    · exact outside x (List.mem_append_left _ hx)
    · exact outside x (List.mem_append_right _ hx)
    · exact others (Or.inr hx)

/-! ## Requests -/

/-- A container met in a process is one by its tag. -/
theorem Owner.Meets.isTagged {owner : Owner} {v : Visit} (hv : owner.Meets v)
    (h : owner.isTagged = true) : v.owner.isTagged = true := by
  induction hv with
  | own _ => exact h
  | @inner owner i e v he inside ih =>
    refine ih ?_
    cases e with
    | leaf l =>
      cases inside <;> simp [ofPlaced, Owner.placed, FlowElement.flowElements] at *
    | subProcess node es triggered => rfl

variable {d : Definitions} {n i : Nat} {p : Process} {v : Visit}

theorem Definitions.owner_mem_owners (hp : d.rootElements[i]? = some (.process p)) :
    p.owner [i, n] ∈ d.owners [n] :=
  List.mem_filterMap.mpr ⟨_, Definitions.mem_locatedProcesses.mpr ⟨i, p, hp, rfl⟩, rfl⟩

theorem Request.owner_eq {request : Request} (hp : d.rootElements[i]? = some (.process p))
    (hv : (p.owner [i, n]).Meets v) (hcontainer : request.container.isNothing = true)
    (hdefinitions : request.definitions = .plain (.element ⟨[n], .definitions d⟩)) :
    request.owner v.placed.located = .ok (some v.owner) := by
  have here : Documents.at? (fun _ => some (.definitions d)) [n] = some (.definitions d) := rfl
  have found := Definitions.containerOf?_of_meets here (Definitions.owner_mem_owners hp) hv
  unfold Request.owner
  rw [hcontainer, hdefinitions]
  show Except.ok ((d.containerOf? [n] v.placed.place).filter (·.isTagged)) = _
  rw [found, Option.filter_some, hv.isTagged rfl]
  rfl

/-- A batch of a flow element that a process of a document meets, and a batch of the document:
the second one reports inside of the element's owner, in one stretch, what the first one reports,
but for the problems of connections if the process is ad hoc. -/
theorem Settings.outcome_element_of_document (settings : Settings) (single whole : Request)
    (hp : d.rootElements[i]? = some (.process p)) (hv : (p.owner [i, n]).Meets v)
    (hsingle : single.root.content = .element v.placed.located)
    (hcontainer : single.container.isNothing = true)
    (hdefinitions : single.definitions = .plain (.element ⟨[n], .definitions d⟩))
    (hsingleMode : single.mode? settings = some .batch)
    (hwhole : whole.root.content = .element ⟨[n], .definitions d⟩)
    (hwholeMode : whole.mode? settings = some .batch) :
    ∃ found before inside after : List Diagnostic,
      (settings.answer single).outcome = .ok (.ofDiagnostics found) ∧
      (settings.answer whole).outcome = .ok (.ofDiagnostics (before ++ inside ++ after)) ∧
      (∀ x ∈ inside, x.Inside v.owner.place) ∧
      (∀ x ∈ before ++ after, ¬ x.Inside v.owner.place) ∧
      (p.isAdHoc = false → inside = found) ∧
      (p.isAdHoc = true → inside = found.filter (!·.problem.isConnection)) := by
  obtain ⟨before, after, hw, outside⟩ := Definitions.findings_eq_append settings hp hv
  have hin : v.owner.IsIn fun _ => some (.definitions d) := by
    refine (hv.isIn ?_).1
    exact (Definitions.isIn_of_mem_locatedProcesses rfl
      (Definitions.mem_locatedProcesses.mpr ⟨i, p, hp, rfl⟩)).owner rfl
  refine ⟨_, before, _, after,
    outcome_element hsingle rfl hsingleMode (Request.owner_eq hp hv hcontainer hdefinitions) hin,
    hw ▸ outcome_document hwhole hwholeMode, fun x hx => Owner.inside_of_mem_findings hx, outside,
    fun h => by rw [h], fun h => ?_⟩
  rw [h, Owner.findings_adHoc]

/-- A subprocess with a script task that lacks everything. -/
def FlowElement.emptyScript : FlowElement :=
  .subProcess {} [.leaf (.scriptTask { id := some "s" })] false

/-- An ad hoc process with that subprocess. -/
def Process.emptyScript : Process where
  attributes := .ofList [("adHoc", "true")]
  flowElements := [.emptyScript]

def Definitions.emptyScript : Definitions where
  rootElements := [.process .emptyScript]

/-- A batch of the script task alone and one of its document: the process is ad hoc. -/
theorem Settings.outcome_emptyScript :
    let whole : Request := { root := .plain (.element ⟨[5], .definitions .emptyScript⟩) }
    let single : Request := {
      root := .plain (.element ⟨[0, 0, 0, 5], .flow (.leaf (.scriptTask { id := some "s" }))⟩)
      definitions := whole.root }
    ∃ found before inside after : List Diagnostic,
      (Settings.answer {} single).outcome = .ok (.ofDiagnostics found) ∧
      (Settings.answer {} whole).outcome = .ok (.ofDiagnostics (before ++ inside ++ after)) ∧
      inside = found.filter (!·.problem.isConnection) := by
  intro whole single
  have met : (Process.emptyScript.owner [0, 5]).Meets
      ⟨.ofPlaced ⟨[0, 0, 5], .emptyScript⟩,
        ⟨[0, 0, 0, 5], .leaf (.scriptTask { id := some "s" })⟩⟩ :=
    .inner (i := 0) (e := .emptyScript) rfl (.own (i := 0) rfl)
  have first : Definitions.emptyScript.rootElements[0]? = some (.process .emptyScript) := rfl
  obtain ⟨found, before, inside, after, hsingle, hwhole, -, -, -, adHoc⟩ :=
    outcome_element_of_document {} single whole first met rfl rfl rfl rfl rfl rfl
  exact ⟨found, before, inside, after, hsingle, hwhole, adHoc (by decide)⟩

end BpmnAudit
