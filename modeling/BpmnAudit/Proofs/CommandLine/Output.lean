import BpmnAudit.Proofs.CommandLine.Status
import BpmnAudit.Proofs.Json.Lines

/-!
# What a validation prints

A call that orders a validation prints the verdict, each diagnostic with an entry of its own and in
order, be it as lines or as items of an array (`ValidateOrder.Prints`). Of all that a call is given,
only the document, the id of the element asked for and strictness have an influence on what it
prints of diagnostics and on its status. Both are those of every batch by a validator that is about
the same things (`Invocation.Orders.same_verdict`).
-/

namespace BpmnAudit

/-! ## Outputs -/

/-- What is printed above diagnostics. -/
def ValidateOrder.heading (order : ValidateOrder) (found : List Diagnostic) : String :=
  "File: " ++ order.path ++ "\nValid: " ++ shownBool found.isEmpty ++ "\nDiagnostics: " ++
    toString found.length ++ "\n"

/-- A text prints diagnostics in the format of an order: each of them has an entry, and the entries
stand in order. -/
def ValidateOrder.Prints (order : ValidateOrder) (found : List Diagnostic) (stdout : String) :
    Prop :=
  match order.format with
  | .text =>
    stdout = Text.withoutTerminal (order.heading found) ++
      String.join (found.map fun x => Text.withoutTerminal x.line)
  | .json =>
    stdout = (Json.object
      [("file", .text order.path),
       ("ok", .bool found.isEmpty),
       ("total_issues", .nat found.length),
       ("issues_by_level", .object ((Report.ofDiagnostics found).issuesByLevel.map
         fun (level, n) => (level.tag, .nat n))),
       ("diagnostics", .array (found.map Diagnostic.toJson))]).indented ++ "\n"

theorem Diagnostic.isLine_line (x : Diagnostic) : Text.IsLine x.line := Text.isLine_append _

theorem Diagnostic.whole_toJson (x : Diagnostic) : x.toJson.Whole := by
  rw [toJson, Json.whole_object]
  simp [Json.whole_optionalText, Json.Whole]

theorem ValidateOrder.prints_report (order : ValidateOrder) (found : List Diagnostic) :
    order.Prints found
      (Text.withoutTerminal ((Report.ofDiagnostics found).print order.path order.format)) := by
  unfold Prints
  cases order.format with
  | text =>
    have lines : ∀ s ∈ found.map Diagnostic.line, Text.IsLine s :=
      List.forall_mem_map.mpr fun x _ => x.isLine_line
    have heading : Text.IsLine (order.heading found) := Text.isLine_append _
    show Text.withoutTerminal (order.heading found ++ String.join (found.map Diagnostic.line)) = _
    rw [Text.withoutTerminal_append heading, Text.withoutTerminal_join lines, List.map_map]
    rfl
  | json =>
    have counts : (Json.object ((Report.ofDiagnostics found).issuesByLevel.map
        fun (level, n) => (level.tag, .nat n))).Whole :=
      Json.whole_object.mpr (List.forall_mem_map.mpr fun _ _ => trivial)
    have entries : (Json.array (found.map Diagnostic.toJson)).Whole :=
      Json.whole_array.mpr (List.forall_mem_map.mpr fun x _ => x.whole_toJson)
    refine Json.withoutTerminal_indented (Json.whole_object.mpr ?_)
    simpa [Json.Whole, Json.nat] using ⟨counts, entries⟩

/-! ## Strictness -/

/-- A call that orders a validation wants it strict, by a switch or by an environment variable. -/
def Invocation.IsStrict (invocation : Invocation) (order : ValidateOrder) : Prop :=
  order.strictSimulation = true ∨
    ∃ text, invocation.environment Settings.Variable.strictSimulation.tag = some text ∧
      Settings.isOn text = true

namespace Invocation

variable {invocation invocation' : Invocation} {order order' : ValidateOrder} {d : Definitions}

theorem isStrict_iff :
    (invocation.settings order).strictSimulation = true ↔ invocation.IsStrict order := by
  show (((invocation.environment Settings.Variable.strictSimulation.tag).map
    Settings.isOn).getD false || order.strictSimulation) = true ↔ _
  rw [Bool.or_eq_true, or_comm]
  unfold IsStrict
  refine or_congr Iff.rfl ?_
  cases invocation.environment Settings.Variable.strictSimulation.tag with
  | none => simp
  | some text => simp

/-! ## Verdicts -/

/-- A call that orders a validation of a document ends as the verdict says, and prints it. -/
theorem Orders.prints_verdict (h : invocation.Orders order)
    (known : (invocation.settings order).NamesLevel) (loads : order.Loads d) :
    let verdict := d.verdict? (invocation.settings order).strictSimulation order.element
    (runProgram invocation).crash = none ∧
      (runProgram invocation).status = verdictStatus verdict ∧
      (verdict = none → (runProgram invocation).stdout = "") ∧
      ∀ found, verdict = some found → order.Prints found (runProgram invocation).stdout := by
  intro verdict
  obtain ⟨host, run⟩ : ∃ host, order.run (.ofEnvironment invocation.environment) =
      order.validate (invocation.settings order) host (.definitions d) :=
    ValidateOrder.run_of_loads known loads
  obtain ⟨sound, ended, printed⟩ := order.validate_spec (invocation.settings order) host d
  obtain ⟨status, crash, stdout⟩ := h.runProgram_eq
  rw [status, crash, stdout, run]
  refine ⟨sound, ended, fun none' => ?_, fun found some' => ?_⟩
  · rw [printed, show d.verdict? _ _ = none from none']
    exact Text.withoutTerminal_empty
  · rw [printed, show d.verdict? _ _ = some found from some']
    exact order.prints_report found

theorem status_eq_zero_iff {found : List Diagnostic} :
    verdictStatus (some found) = 0 ↔ (Report.ofDiagnostics found).ok = true := by
  cases found with
  | nil => exact ⟨fun _ => rfl, fun _ => rfl⟩
  | cons x xs => exact ⟨nofun, nofun⟩

/-- Two calls that order a validation of the same document, of the same part of it, and both strict
or both not, whatever else they are given as long as the host knows their levels. They end with the
same status. Either no flow element has the id asked for, and nothing is printed; or both print the
same diagnostics. A validator can then be asked for a batch about the same things, every such batch
reports these diagnostics, and the status is 0 exactly if the report is in order. -/
theorem Orders.same_verdict (h : invocation.Orders order) (h' : invocation'.Orders order')
    (known : (invocation.settings order).NamesLevel)
    (known' : (invocation'.settings order').NamesLevel)
    (loads : order.Loads d) (loads' : order'.Loads d) (element : order.element = order'.element)
    (strict : invocation.IsStrict order ↔ invocation'.IsStrict order') :
    (runProgram invocation).crash = none ∧ (runProgram invocation').crash = none ∧
      (runProgram invocation).status = (runProgram invocation').status ∧
      ((∃ id, order.element = some id ∧ (∀ e ∈ d.flowElements, e.id ≠ some id) ∧
          (runProgram invocation).status = 2 ∧ (runProgram invocation).stdout = "" ∧
          (runProgram invocation').stdout = "") ∨
        ∃ found : List Diagnostic,
          order.Prints found (runProgram invocation).stdout ∧
          order'.Prints found (runProgram invocation').stdout ∧
          (∃ request : Request, ∀ settings, request.IsAbout settings d order.element) ∧
          ∀ (settings : Settings) (request : Request),
            (settings.strictSimulation = true ↔ invocation.IsStrict order) →
            request.IsAbout settings d order.element →
            ∃ report, (settings.answer request).outcome = .ok report ∧
              report.diagnostics = found ∧
              ((runProgram invocation).status = 0 ↔ report.ok = true)) := by
  have same : (invocation.settings order).strictSimulation =
      (invocation'.settings order').strictSimulation := by
    rw [Bool.eq_iff_iff, isStrict_iff, isStrict_iff]
    exact strict
  obtain ⟨sound, ended, silent, prints⟩ := h.prints_verdict known loads
  obtain ⟨sound', ended', silent', prints'⟩ := h'.prints_verdict known' loads'
  rw [← same, ← element] at ended' silent' prints'
  refine ⟨sound, sound', ended.trans ended'.symm, ?_⟩
  cases verdict : d.verdict? (invocation.settings order).strictSimulation order.element with
  | none =>
    obtain ⟨id, asked, missing⟩ := Definitions.verdict?_eq_none_iff.mp verdict
    rw [verdict] at ended
    exact Or.inl ⟨id, asked, missing, ended, silent verdict, silent' verdict⟩
  | some found =>
    rw [verdict] at ended
    refine Or.inr ⟨found, prints found verdict, prints' found verdict,
      ValidateOrder.exists_isAbout verdict, ?_⟩
    intro settings request alike about
    have strictness : settings.strictSimulation = (invocation.settings order).strictSimulation := by
      rw [Bool.eq_iff_iff, isStrict_iff]
      exact alike
    obtain ⟨found', settled, outcome⟩ := about.outcome
    rw [strictness, verdict] at settled
    obtain rfl : found = found' := Option.some.inj settled
    refine ⟨_, outcome, rfl, ?_⟩
    rw [ended]
    exact status_eq_zero_iff

/-- A document with one process, of which nothing is said, as bytes. -/
def bareProcess : List UInt8 :=
  "\x7b\"root_elements\":[\x7b\"element_type\":\"process\"\x7d]\x7d".toList.map
    fun c => UInt8.ofNat c.toNat

/-- A call that prints an array in an environment that asks for live runs, and one that prints
lines: both print the five problems of the process, and none ends with 0. -/
theorem same_verdict_bareProcess :
    let environment := fun name => if name = "BPMN_VALIDATOR_MODE" then some "live" else none
    let live : Invocation := { ofBytes bareProcess with environment }
    let order' : ValidateOrder := { path := "m.json", bytes := bareProcess }
    let plain : Invocation := { ofBytes bareProcess with arguments := order'.spelled }
    ∃ found : List Diagnostic,
      (orderOfBytes bareProcess).Prints found (runProgram live).stdout ∧
      order'.Prints found (runProgram plain).stdout ∧
      found.map (·.problem) =
        [.noProcessId, .noPackageName, .noProcessName, .noStartNode, .noEndNode] ∧
      (runProgram live).status = (runProgram plain).status ∧ (runProgram plain).status ≠ 0 := by
  intro environment live order' plain
  have orders : live.Orders (orderOfBytes bareProcess) := orders_ofBytes bareProcess
  have orders' : plain.Orders order' :=
    orders_spelled rfl (by simp [plain, order', ofBytes]) (by simp [order'])
  have loads : (orderOfBytes bareProcess).Loads { rootElements := [.process {}] } :=
    ⟨_, rfl, rfl⟩
  have loads' : order'.Loads { rootElements := [.process {}] } := loads
  have lenient : ¬ live.IsStrict (orderOfBytes bareProcess) := by
    rintro (h | ⟨text, h, -⟩)
    · cases h
    · simp [live, environment, Settings.Variable.tag] at h
  have lenient' : ¬ plain.IsStrict order' := by
    rintro (h | ⟨text, h, -⟩) <;> cases h
  obtain ⟨-, -, status, none' | ⟨found, prints, prints', -, reported⟩⟩ :=
    orders.same_verdict orders' (by decide) (by decide) loads loads' rfl
      (iff_of_false lenient lenient')
  · obtain ⟨id, asked, -⟩ := none'
    cases asked
  · let request : Request :=
      { root := .plain (.element ⟨documentPlace, .definitions { rootElements := [.process {}] }⟩) }
    obtain ⟨report, outcome, rfl, ended⟩ :=
      reported {} request (iff_of_false Bool.false_ne_true lenient) (.document ⟨rfl, rfl⟩)
    have known := outcome.symm.trans (Settings.outcome_document rfl rfl)
    obtain rfl := Except.ok.inj known
    refine ⟨_, prints, prints', by decide, status, fun zero => ?_⟩
    exact absurd (ended.mp (status.trans zero)) (by decide)

end Invocation

end BpmnAudit
