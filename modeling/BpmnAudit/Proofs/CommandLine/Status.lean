import BpmnAudit.Proofs.CommandLine.Verdict

/-!
# The status of a validation

What is in the file of an order settles the status that the program owes
(`ValidateOrder.Owes`): 2 without a document or without the element asked for, and otherwise 0 or 1
by what a validator reports. The program keeps to this, without a crash, for all files whose bytes
are UTF-8, and only for them (`Invocation.Orders.keeps_status_iff`): on other bytes it crashes,
instead of ending as it does without a document.
-/

namespace BpmnAudit

/-- The status that the program owes, by what is in the file of an order. -/
inductive ValidateOrder.Owes (order : ValidateOrder) (settings : Settings) : Nat → Prop
  | unloadable (none' : ∀ d, ¬ order.Loads d) : Owes order settings 2
  | unknown {d : Definitions} {id : String} (loads : order.Loads d)
    (asked : order.element = some id) (missing : ∀ e ∈ d.flowElements, e.id ≠ some id) :
    Owes order settings 2
  | faulty {d : Definitions} {request : Request} {report : Report} (loads : order.Loads d)
    (about : request.IsAbout settings d order.element)
    (outcome : (settings.answer request).outcome = .ok report) (found : report.diagnostics ≠ []) :
    Owes order settings 1
  | clean {d : Definitions} {request : Request} {report : Report} (loads : order.Loads d)
    (about : request.IsAbout settings d order.element)
    (outcome : (settings.answer request).outcome = .ok report) (found : report.diagnostics = []) :
    Owes order settings 0

namespace ValidateOrder

variable {order : ValidateOrder} {settings : Settings} {d : Definitions} {status : Nat}

theorem owes_of_unloadable (none' : ∀ d, ¬ order.Loads d) :
    order.Owes settings status ↔ status = 2 := by
  constructor
  · intro owes
    cases owes with
    | unloadable => rfl
    | unknown loads | faulty loads | clean loads => exact absurd loads (none' _)
  · rintro rfl
    exact .unloadable none'

theorem owes_of_loads (loads : order.Loads d) :
    order.Owes settings status ↔
      status = verdictStatus (d.verdict? settings.strictSimulation order.element) := by
  constructor
  · intro owes
    cases owes with
    | unloadable none' => exact absurd loads (none' d)
    | unknown loads' asked missing =>
      obtain rfl := loads.unique loads'
      rw [Definitions.verdict?_eq_none_iff.mpr ⟨_, asked, missing⟩]
      rfl
    | faulty loads' about outcome found =>
      obtain rfl := loads.unique loads'
      obtain ⟨verdict, settled, reported⟩ := about.outcome
      obtain rfl := Except.ok.inj (outcome.symm.trans reported)
      rw [settled]
      cases verdict with
      | nil => exact absurd rfl found
      | cons x xs => rfl
    | clean loads' about outcome found =>
      obtain rfl := loads.unique loads'
      obtain ⟨verdict, settled, reported⟩ := about.outcome
      obtain rfl := Except.ok.inj (outcome.symm.trans reported)
      obtain rfl : verdict = [] := found
      rw [settled]
      rfl
  · rintro rfl
    cases verdict : d.verdict? settings.strictSimulation order.element with
    | none =>
      obtain ⟨id, asked, missing⟩ := Definitions.verdict?_eq_none_iff.mp verdict
      exact .unknown loads asked missing
    | some found =>
      obtain ⟨request, about⟩ := exists_isAbout verdict
      obtain ⟨found', settled, reported⟩ := (about settings).outcome
      obtain rfl : found = found' := Option.some.inj (verdict.symm.trans settled)
      cases found with
      | nil => exact .clean loads (about settings) reported rfl
      | cons x xs => exact .faulty loads (about settings) reported (List.cons_ne_nil x xs)

end ValidateOrder

namespace Invocation

variable {invocation : Invocation} {order : ValidateOrder}

/-- Without environment variables the level is one that the host knows. -/
theorem namesLevel_of_default (invocation : Invocation) (order : ValidateOrder)
    (default : invocation.environment = fun _ => none) :
    (invocation.settings order).NamesLevel := by
  have level : (invocation.settings order).logLevel =
      if order.verbose then "DEBUG" else Text.upper "INFO" := by
    unfold settings ValidateOrder.settings
    rw [default]
    rfl
  unfold Settings.NamesLevel
  rw [level]
  cases order.verbose <;> decide

/-- What is in the file of an order settles the status that the program owes. If no environment
variables are set, the program ends with that status and without a crash exactly for the files whose
bytes are UTF-8. -/
theorem Orders.keeps_status_iff (h : invocation.Orders order)
    (default : invocation.environment = fun _ => none) :
    (∃ status, order.Owes (invocation.settings order) status) ∧
      (((runProgram invocation).crash = none ∧
          ∀ status, order.Owes (invocation.settings order) status →
            (runProgram invocation).status = status) ↔
        ∃ text, Text.decodeUtf8 order.bytes = .ok text) := by
  have known := namesLevel_of_default invocation order default
  obtain ⟨status, crash, -⟩ := h.runProgram_eq
  rw [status, crash]
  by_cases document : ∃ d, order.Loads d
  · obtain ⟨d, loads⟩ := document
    obtain ⟨host, run⟩ := ValidateOrder.run_of_loads known loads
    obtain ⟨sound, verdict, -⟩ := order.validate_spec (invocation.settings order) host d
    have utf8 : ∃ text, Text.decodeUtf8 order.bytes = .ok text := by
      obtain ⟨text, decoded, -⟩ := loads
      exact ⟨text, decoded⟩
    refine ⟨⟨_, (ValidateOrder.owes_of_loads loads).mpr rfl⟩, fun _ => utf8, fun _ => ?_⟩
    refine ⟨?_, fun owed owes => ?_⟩
    · rw [run]
      exact sound
    · rw [(ValidateOrder.owes_of_loads loads).mp owes, run]
      exact verdict
  · have none' : ∀ d, ¬ order.Loads d := not_exists.mp document
    refine ⟨⟨2, .unloadable none'⟩, fun kept => ?_, fun utf8 => ?_⟩
    · cases decoded : Text.decodeUtf8 order.bytes with
      | ok text => exact ⟨text, rfl⟩
      | error fault =>
        obtain ⟨-, crashed⟩ := ValidateOrder.run_of_undecodable known decoded
        rw [crashed] at kept
        cases kept.1
    · obtain ⟨text, decoded⟩ := utf8
      obtain ⟨ended, sound⟩ := ValidateOrder.run_of_unloadable known decoded none'
      refine ⟨sound, fun owed owes => ?_⟩
      rw [(ValidateOrder.owes_of_unloadable none').mp owes]
      exact ended

/-- A call that validates a file of some bytes. -/
def ofBytes (bytes : List UInt8) : Invocation where
  arguments := ["validate", "--format", "json", "m.json", "-v"]
  entryAt path := if path = "m.json" then some (.file bytes) else none

def orderOfBytes (bytes : List UInt8) : ValidateOrder where
  path := "m.json"
  bytes
  format := .json
  verbose := true

theorem orders_ofBytes (bytes : List UInt8) : (ofBytes bytes).Orders (orderOfBytes bytes) := by
  have unbroken : (orderOfBytes bytes).path.contains '\x00' = false := by simp [orderOfBytes]
  have file : (ofBytes bytes).entryAt "m.json" = some (.file bytes) := by
    simp [ofBytes]
  exact ⟨["--format", "json", "m.json", "-v"], (orderOfBytes bytes).arguments, rfl, rfl, rfl,
    (orderOfBytes bytes).checkOrder_arguments file unbroken⟩

/-- A file that holds an empty object is a document without processes: the call ends with 0. -/
theorem keeps_status_emptyObject :
    (runProgram (ofBytes [0x7b, 0x7d])).crash = none ∧
      (runProgram (ofBytes [0x7b, 0x7d])).status = 0 := by
  have utf8 : Text.decodeUtf8 [0x7b, 0x7d] = .ok ['\x7b', '\x7d'] := rfl
  have loads : (orderOfBytes [0x7b, 0x7d]).Loads {} := ⟨_, utf8, rfl⟩
  have owes : (orderOfBytes [0x7b, 0x7d]).Owes
      ((ofBytes [0x7b, 0x7d]).settings (orderOfBytes [0x7b, 0x7d])) 0 := by
    rw [ValidateOrder.owes_of_loads loads]
    rfl
  obtain ⟨-, -, kept⟩ := (orders_ofBytes [0x7b, 0x7d]).keeps_status_iff rfl
  obtain ⟨sound, ended⟩ := kept ⟨_, utf8⟩
  exact ⟨sound, ended 0 owes⟩

/-- A file of a byte that opens no character holds no document, so the call owes the status 2; but
it crashes. -/
theorem crashes_badByte :
    (ofBytes [0xff]).Orders (orderOfBytes [0xff]) ∧
      (orderOfBytes [0xff]).Owes ((ofBytes [0xff]).settings (orderOfBytes [0xff])) 2 ∧
      (runProgram (ofBytes [0xff])).status = 1 ∧
      (runProgram (ofBytes [0xff])).crash = some (.badBytes ⟨0, 1, 0xff, .badStart⟩) := by
  have orders := orders_ofBytes [0xff]
  have undecodable : Text.decodeUtf8 (orderOfBytes [0xff]).bytes =
      .error ⟨0, 1, 0xff, .badStart⟩ := rfl
  have known := namesLevel_of_default (ofBytes [0xff]) (orderOfBytes [0xff]) rfl
  obtain ⟨status, crash, -⟩ := orders.runProgram_eq
  obtain ⟨ended, crashed⟩ := ValidateOrder.run_of_undecodable known undecodable
  refine ⟨orders, .unloadable ?_, status.trans ended, crash.trans crashed⟩
  rintro d ⟨text, decoded, -⟩
  rw [undecodable] at decoded
  cases decoded

end Invocation

end BpmnAudit
