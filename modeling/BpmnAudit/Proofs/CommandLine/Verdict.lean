import BpmnAudit.Proofs.CommandLine.Orders
import BpmnAudit.Proofs.Document.RoundTrip
import BpmnAudit.Proofs.Run.Single
import BpmnAudit.Proofs.Telemetry.Managers

/-!
# Verdicts of the program

An order that finds its document comes to a verdict: what a batch finds, either with the whole
document or with the container of the element that is asked for. There is none only if no element
has the id asked for (`Definitions.verdict?_eq_none_iff`). The verdict is the one of every request
to a validator that is about the same things (`Request.IsAbout.outcome`), and how the program ends
follows from it (`ValidateOrder.validate_spec`).
-/

namespace BpmnAudit

/-! ## Verdicts -/

/-- A request is a batch of what an order is about: the document, or the first flow element in it
with the id that the order asks for. -/
inductive Request.IsAbout (request : Request) (settings : Settings) (d : Definitions) :
    Option String → Prop
  | document (asks : request.AsksFor settings 0 d) : IsAbout request settings d none
  | element {id : String} {p : Placed} (found : d.find? documentPlace (some id) = some p)
    (root : request.root.content = .element p.located)
    (container : request.container.isNothing = true)
    (definitions : request.definitions = .plain (.element ⟨documentPlace, .definitions d⟩))
    (mode : request.mode? settings = some .batch) : IsAbout request settings d (some id)

/-- What a batch finds with a document, or with the container of the first flow element of an id;
none if there is no such element. -/
def Definitions.verdict? (d : Definitions) (strict : Bool) :
    Option String → Option (List Diagnostic)
  | none => some (d.findings (Settings.withStrict {} strict) documentPlace)
  | some id =>
    (d.find? documentPlace (some id)).map fun p =>
      (d.containerOf? documentPlace p.place).elim []
        (·.findings (Settings.withStrict {} strict) false)

/-- The status of a verdict; without one that of no document. -/
def verdictStatus : Option (List Diagnostic) → Nat
  | none => exitLoadError
  | some [] => exitOk
  | some (_ :: _) => exitDiagnostics

theorem Definitions.verdict?_eq_none_iff {d : Definitions} {strict : Bool}
    {element : Option String} :
    d.verdict? strict element = none ↔
      ∃ id, element = some id ∧ ∀ e ∈ d.flowElements, e.id ≠ some id := by
  cases element with
  | none => simp [verdict?]
  | some id =>
    rw [verdict?, Option.map_eq_none_iff, find?_eq_none_iff]
    simp

/-- Of all settings only strictness matters to what is found inside a container. -/
theorem Owner.findings_withStrict (owner : Owner) (settings : Settings) (adHoc : Bool) :
    owner.findings (Settings.withStrict {} settings.strictSimulation) adHoc =
      owner.findings settings adHoc := rfl

theorem Definitions.findings_withStrict (d : Definitions) (settings : Settings) (place : Place) :
    d.findings (Settings.withStrict {} settings.strictSimulation) place =
      d.findings settings place := rfl

/-- A batch of what an order is about reports the verdict. -/
theorem Request.IsAbout.outcome {request : Request} {settings : Settings} {d : Definitions}
    {element : Option String} (h : request.IsAbout settings d element) :
    ∃ found, d.verdict? settings.strictSimulation element = some found ∧
      (settings.answer request).outcome = .ok (.ofDiagnostics found) := by
  cases h with
  | document asks =>
    refine ⟨_, rfl, ?_⟩
    rw [Definitions.findings_withStrict]
    exact Settings.outcome_document asks.root asks.mode
  | @element id p found root container definitions mode =>
    obtain ⟨i, q, v, hq, met, rfl⟩ := Definitions.meets_of_find? found
    have here : Documents.at? (fun _ => some (.definitions d)) documentPlace =
        some (.definitions d) := rfl
    have process : q.owner (i :: documentPlace) ∈ d.owners documentPlace :=
      Definitions.owner_mem_owners hq
    have inside : v.owner.IsIn fun _ => some (.definitions d) := by
      refine (met.isIn ?_).1
      exact (Definitions.isIn_of_mem_locatedProcesses here
        (Definitions.mem_locatedProcesses.mpr ⟨i, q, hq, rfl⟩)).owner rfl
    refine ⟨v.owner.findings settings false, ?_, Settings.outcome_element root rfl mode
      (Request.owner_eq hq met container definitions) inside⟩
    rw [Definitions.verdict?, found, Option.map_some,
      Definitions.containerOf?_of_meets here process met, Option.elim_some,
      Owner.findings_withStrict]

/-! ## What orders come to -/

/-- The file of an order holds a document. -/
def ValidateOrder.Loads (order : ValidateOrder) (d : Definitions) : Prop :=
  ∃ text, Text.decodeUtf8 order.bytes = .ok text ∧
    Element.load (.element .definitions) text = .ok (.definitions d)

theorem ValidateOrder.Loads.unique {order : ValidateOrder} {d d' : Definitions}
    (h : order.Loads d) (h' : order.Loads d') : d = d' := by
  obtain ⟨text, decoded, load⟩ := h
  obtain ⟨text', decoded', load'⟩ := h'
  obtain rfl : text = text' := Except.ok.inj (decoded.symm.trans decoded')
  exact Element.definitions.inj (Except.ok.inj (load.symm.trans load'))

/-- Settings name a level that the host knows. -/
def Settings.NamesLevel (settings : Settings) : Prop :=
  (lineLevels.lookup settings.logLevel).isSome

instance (settings : Settings) : Decidable settings.NamesLevel :=
  inferInstanceAs (Decidable ((lineLevels.lookup settings.logLevel).isSome = true))

theorem Element.exists_definitions {text : List Char} {e : Element}
    (h : load (.element .definitions) text = .ok e) : ∃ d, e = .definitions d := by
  obtain ⟨members, -, read⟩ := exists_of_load h
  have shape := shape_of_readMembers read
  cases e with
  | definitions d => exact ⟨d, rfl⟩
  | root r => cases r <;> cases shape
  | outline o => cases o <;> cases shape
  | _ => cases shape

namespace ValidateOrder

variable {order : ValidateOrder} {environment : Settings} {d : Definitions}

theorem started (known : (order.settings environment).NamesLevel) :
    ∃ host : Host, ({} : Host).start
      (.ofSettings (order.settings environment) "bpmn-validator-cli") = (some false, host) := by
  have new : ({} : Host).manager = none := rfl
  have named : (HostSettings.ofSettings (order.settings environment)
    "bpmn-validator-cli").NamesLevel := known
  obtain ⟨-, host, -, start, -⟩ := Host.start_of_known new named
  exact ⟨host, start⟩

/-- The request of an order is about what the order is about, and there is none if there is no
verdict. -/
theorem request?_spec (strict : Bool) :
    match order.request? ⟨documentPlace, .definitions d⟩ with
    | none => d.verdict? strict order.element = none
    | some request => ∀ settings, request.IsAbout settings d order.element := by
  unfold request?
  cases element : order.element with
  | none => exact fun settings => .document ⟨rfl, rfl⟩
  | some id =>
    have same : (⟨documentPlace, .definitions d⟩ : Located).find? (some id) =
      d.find? documentPlace (some id) := rfl
    dsimp only
    rw [same]
    cases found : d.find? documentPlace (some id) with
    | none =>
      rw [Option.map_none]
      show d.verdict? strict (some id) = none
      rw [Definitions.verdict?, found, Option.map_none]
    | some p => exact fun settings => .element found rfl rfl rfl rfl

theorem exists_isAbout {strict : Bool} {found : List Diagnostic}
    (verdict : d.verdict? strict order.element = some found) :
    ∃ request : Request, ∀ settings, request.IsAbout settings d order.element := by
  have about := order.request?_spec (d := d) strict
  cases asked : order.request? ⟨documentPlace, .definitions d⟩ with
  | none =>
    rw [asked, verdict] at about
    cases about
  | some request =>
    rw [asked] at about
    exact ⟨request, about⟩

theorem run_of_undecodable (known : (order.settings environment).NamesLevel)
    {fault : Text.Utf8Fault} (undecodable : Text.decodeUtf8 order.bytes = .error fault) :
    (order.run environment).status = 1 ∧
      (order.run environment).crash = some (.badBytes fault) := by
  obtain ⟨host, start⟩ := started known
  unfold run
  simp only [start, undecodable]
  exact ⟨rfl, rfl⟩

theorem run_of_unloadable (known : (order.settings environment).NamesLevel) {text : List Char}
    (decoded : Text.decodeUtf8 order.bytes = .ok text) (unloadable : ∀ d, ¬ order.Loads d) :
    (order.run environment).status = exitLoadError ∧ (order.run environment).crash = none := by
  obtain ⟨host, start⟩ := started known
  unfold run
  simp only [start, decoded]
  cases load : Element.load (.element .definitions) text with
  | error failure => exact ⟨rfl, rfl⟩
  | ok e =>
    obtain ⟨d, rfl⟩ := Element.exists_definitions load
    exact absurd ⟨text, decoded, load⟩ (unloadable d)

/-- A validation prints the verdict, if there is one, and ends with its status. -/
theorem validate_spec (order : ValidateOrder) (settings : Settings) (host : Host)
    (d : Definitions) :
    let verdict := d.verdict? settings.strictSimulation order.element
    let completion := order.validate settings host (.definitions d)
    completion.crash = none ∧ completion.status = verdictStatus verdict ∧
      completion.stdout = verdict.elim "" fun found =>
        (Report.ofDiagnostics found).print order.path order.format := by
  have about := order.request?_spec (d := d) settings.strictSimulation
  unfold validate
  cases asked : order.request? ⟨documentPlace, .definitions d⟩ with
  | none =>
    rw [asked] at about
    rw [show d.verdict? settings.strictSimulation order.element = none from about]
    exact ⟨rfl, rfl, rfl⟩
  | some request =>
    rw [asked] at about
    obtain ⟨found, verdict, outcome⟩ := (about settings).outcome
    rw [verdict]
    dsimp only
    rw [outcome]
    cases found <;> exact ⟨rfl, rfl, rfl⟩

theorem run_of_loads (known : (order.settings environment).NamesLevel) (loads : order.Loads d) :
    ∃ host, order.run environment =
      order.validate (order.settings environment) host (.definitions d) := by
  obtain ⟨text, decoded, load⟩ := loads
  obtain ⟨host, start⟩ := started known
  refine ⟨host, ?_⟩
  unfold run
  simp only [start, decoded, load]
  rfl

end ValidateOrder

end BpmnAudit
