import BpmnAudit.Proofs.Decimal.Nearest
import BpmnAudit.Proofs.Run.Audit
import BpmnAudit.Proofs.Telemetry.Managers

/-!
# Conservation of measurements

A host takes measurements from calls of validators, of any of them in any order. What its manager
shows in the end is the calls' measured batches and nothing else: the sums of the completed ones'
totals by root types, and how many were begun (`Host.measurements_conserved`).

A batch takes its time also if it breaks off, so that it shows in the histogram alone
(`Host.measurements_not_of_completed`). It does so only where the request names something of a
wrong sort for its container or document, or where a total would be longer than any list; calls that
do neither are proper, and complete what they begin.
-/

namespace BpmnAudit

/-! ## Calls -/

/-- A batch hands on records, takes its time if times are taken, and then either was stopped by a
misfit or measures its total and hands on one record more. -/
theorem Settings.emissions_answerBatch (settings : Settings) (request : Request) :
    ∃ records : List LogRecord,
      (∃ misfit, ((settings.started request).audit request).misfit = some misfit ∧
        (settings.answerBatch request).outcome = .error (.misfit misfit) ∧
        (settings.answerBatch request).emissions =
          records.map .record ++ settings.measures [.elapsed validationTimer]) ∨
      (∃ report last, ((settings.started request).audit request).misfit = none ∧
        (settings.answerBatch request).outcome = .ok report ∧
        (settings.answerBatch request).emissions =
          records.map .record ++ settings.measures [.elapsed validationTimer] ++
            settings.measures [.total request.root.label report.total] ++ [.record last]) := by
  cases audited : (settings.started request).audit request with
  | mk run misfit =>
    refine ⟨run.log.toList, ?_⟩
    cases misfit with
    | some misfit =>
      rw [answerBatch_of_misfit audited]
      exact .inl ⟨misfit, rfl, rfl, rfl⟩
    | none =>
      rw [answerBatch_of_audit audited]
      exact .inr ⟨_, _, rfl, rfl, rfl⟩

/-- A call of a validator. -/
structure Call where
  validator : Validator := {}
  request : Request

namespace Call

def answer (call : Call) : Answer := (call.validator.validate call.request).1

/-- The call asks for a batch that is measured. -/
def IsMeasured (call : Call) : Prop :=
  call.validator.settings.enableMetrics = true ∧ call.request.root.isNothing = false ∧
    call.request.mode? call.validator.settings = some .batch

instance (call : Call) : Decidable call.IsMeasured := inferInstanceAs (Decidable (_ ∧ _))

/-- The root type and the total of a measured batch that the call completes. One whose total is
nearest to no finite double is not completed: it stops where the total is measured. -/
def completed? (call : Call) : Option (String × Nat) :=
  if call.IsMeasured then
    match call.answer.outcome with
    | .ok report =>
      if (Number.whole report.total).isFinite then some (call.request.root.label, report.total)
      else none
    | .error _ => none
  else none

theorem answer_eq_answerBatch {call : Call} (root : call.request.root.isNothing = false)
    (mode : call.request.mode? call.validator.settings = some .batch) :
    call.answer = call.validator.settings.answerBatch call.request :=
  Settings.answer_eq_answerBatch root mode

/-- A call that asks for no measured batch tells records only. -/
theorem emissions_of_not_isMeasured {call : Call} (h : ¬ call.IsMeasured) :
    ∃ records : List LogRecord, call.answer.emissions = records.map .record := by
  cases root : call.request.root.isNothing with
  | true =>
    unfold answer Validator.validate Settings.answer
    rw [root]
    exact ⟨[], rfl⟩
  | false =>
    cases mode : call.request.mode? call.validator.settings with
    | none =>
      unfold answer Validator.validate Settings.answer
      rw [root, if_neg Bool.false_ne_true, mode]
      exact ⟨[], rfl⟩
    | some mode' =>
      cases mode' with
      | live =>
        unfold answer Validator.validate Settings.answer
        rw [root, if_neg Bool.false_ne_true, mode]
        exact ⟨[_], rfl⟩
      | batch =>
        have off : call.validator.settings.enableMetrics = false :=
          Bool.eq_false_iff.mpr fun on => h ⟨on, root, mode⟩
        have unmeasured : ∀ emissions, call.validator.settings.measures emissions = [] := by
          intro emissions
          unfold Settings.measures
          rw [off, if_neg Bool.false_ne_true]
        rw [answer_eq_answerBatch root mode]
        obtain ⟨records, ⟨misfit, -, -, told⟩ | ⟨report, last, -, -, told⟩⟩ :=
          call.validator.settings.emissions_answerBatch call.request
        · exact ⟨records, by rw [told, unmeasured, List.append_nil]⟩
        · refine ⟨records ++ [last], ?_⟩
          rw [told, unmeasured, unmeasured, List.append_nil, List.append_nil, List.map_append]
          rfl

/-- What the batch of a measured call makes of a manager: its time is taken, and if it is completed
so is its total. -/
theorem foldl_take_emissions {manager : Manager} (metrics : manager.settings.enableMetrics = true)
    {call : Call} (h : call.IsMeasured) :
    (call.completed? = none ∧ call.answer.emissions.foldl Manager.take manager =
        manager.take (.elapsed validationTimer)) ∨
      ∃ label n, call.completed? = some (label, n) ∧ (Number.whole n).isFinite = true ∧
        call.answer.emissions.foldl Manager.take manager =
          (manager.take (.elapsed validationTimer)).take (.total label n) := by
  obtain ⟨on, root, mode⟩ := id h
  have all : ∀ emissions, call.validator.settings.measures emissions = emissions := by
    intro emissions
    unfold Settings.measures
    rw [on, if_pos rfl]
  have still : (manager.take (.elapsed validationTimer)).settings.enableMetrics = true := by
    rw [Manager.take_elapsed metrics]
    exact metrics
  unfold completed?
  rw [if_pos h, answer_eq_answerBatch root mode]
  obtain ⟨records, ⟨misfit, -, outcome, told⟩ | ⟨report, last, -, outcome, told⟩⟩ :=
    call.validator.settings.emissions_answerBatch call.request
  · rw [told, outcome, all, List.foldl_append, manager.foldl_take_records]
    exact .inl ⟨rfl, rfl⟩
  · rw [told, outcome, all, all, List.foldl_append, List.foldl_append, List.foldl_append,
      manager.foldl_take_records]
    dsimp only
    cases near : (Number.whole report.total).isFinite with
    | true => exact .inr ⟨_, _, rfl, near, rfl⟩
    | false => exact .inl ⟨rfl, Manager.take_total_of_far still _ near⟩

theorem shows_receive {manager : Manager} {completed : List (String × Nat)} {begun : Nat}
    (h : manager.Shows completed begun) (call : Call) :
    (call.answer.emissions.foldl Manager.take manager).Shows
      (completed ++ call.completed?.toList) (begun + if call.IsMeasured then 1 else 0) := by
  by_cases measured : call.IsMeasured
  · rw [if_pos measured]
    rcases foldl_take_emissions h.metrics measured with
      ⟨stopped, told⟩ | ⟨label, n, done, near, told⟩
    · rw [told, stopped, Option.toList_none, List.append_nil]
      exact h.take_elapsed
    · rw [told, done]
      exact h.take_elapsed.take_total label near
  · obtain ⟨records, told⟩ := emissions_of_not_isMeasured measured
    unfold completed?
    rw [if_neg measured, if_neg measured, told, manager.foldl_take_records, Option.toList_none,
      List.append_nil]
    exact h

/-- The call begins a measured batch that it does not complete. -/
def BreaksOff (call : Call) : Prop := call.IsMeasured ∧ call.completed? = none

instance (call : Call) : Decidable call.BreaksOff := inferInstanceAs (Decidable (_ ∧ _))

theorem isMeasured_of_completed? {call : Call} {run : String × Nat}
    (h : call.completed? = some run) : call.IsMeasured := by
  unfold completed? at h
  split at h
  · assumption
  · cases h

theorem countP_isMeasured (calls : List Call) :
    calls.countP (·.IsMeasured) =
      (calls.filterMap completed?).length + calls.countP (·.BreaksOff) := by
  induction calls with
  | nil => rfl
  | cons call calls ih =>
    rw [List.countP_cons, List.countP_cons, ih]
    cases done : call.completed? with
    | none =>
      rw [List.filterMap_cons_none done]
      by_cases measured : call.IsMeasured <;> simp [BreaksOff, measured, done]
      omega
    | some run =>
      rw [List.filterMap_cons_some done]
      simp [BreaksOff, isMeasured_of_completed? done, done]
      omega

end Call

/-! ## Proper calls -/

/-- What a request names for a look-up has the sort that is asked for: a container owns flow
elements, and a document is one. -/
structure Request.Typed (request : Request) : Prop where
  container : request.container = .plain .nothing ∨
    ∃ l owner, request.container = .plain (.element l) ∧ l.owner? = some owner
  definitions : request.definitions = .plain .nothing ∨
    ∃ place d, request.definitions = .plain (.element ⟨place, .definitions d⟩)

theorem Request.Typed.misfit_audit {request : Request} (h : request.Typed) (run : Run) :
    (run.audit request).misfit = none := by
  have found : ∀ l, ∃ owner?, request.owner l = .ok owner? := by
    intro l
    unfold Request.owner
    rcases h.container with none' | ⟨c, owner, named, owns⟩
    · rcases h.definitions with nowhere | ⟨place, d, somewhere⟩
      · rw [none', nowhere]
        exact ⟨none, rfl⟩
      · rw [none', somewhere]
        exact ⟨_, rfl⟩
    · have owned : c.asOwner = .ok owner := by
        unfold Located.asOwner
        rw [owns]
      rw [named]
      show ∃ owner?, (if c.element.kind?.any (·.isContainer) then c.asOwner.map some
        else .ok none) = .ok owner?
      rw [owned]
      split <;> exact ⟨_, rfl⟩
  unfold Run.audit
  split
  · rfl
  · next l _ _ =>
    split
    · obtain ⟨owner?, ho⟩ := found l
      rw [ho]
      cases owner? <;> rfl
    · rfl
  · rfl

/-- A call that is typed, and whose report, if it has one, is no longer than lists can be. -/
structure Call.Proper (call : Call) : Prop where
  typed : call.request.Typed
  short : ∀ report, call.answer.outcome = .ok report → report.total < 2 ^ 63

/-- A proper call completes the measured batch that it asks for. -/
theorem Call.Proper.completed {call : Call} (h : call.Proper) (measured : call.IsMeasured) :
    ∃ report, call.answer.outcome = .ok report ∧
      call.completed? = some (call.request.root.label, report.total) := by
  obtain ⟨-, root, mode⟩ := id measured
  obtain ⟨records, ⟨misfit, stopped, -⟩ | ⟨report, last, -, outcome, -⟩⟩ :=
    call.validator.settings.emissions_answerBatch call.request
  · rw [h.typed.misfit_audit] at stopped
    cases stopped
  · rw [← answer_eq_answerBatch root mode] at outcome
    have near : (Number.whole report.total).isFinite = true :=
      bne_iff_ne.mpr (Decimal.nearestBits_ne_infinityBits (h.short report outcome))
    refine ⟨report, outcome, ?_⟩
    unfold completed?
    rw [if_pos measured, outcome]
    dsimp only
    rw [if_pos near]

theorem Call.Proper.not_breaksOff {call : Call} (h : call.Proper) : ¬ call.BreaksOff := by
  rintro ⟨measured, stopped⟩
  obtain ⟨report, -, completed⟩ := h.completed measured
  rw [stopped] at completed
  cases completed

/-! ## Hosts -/

namespace Host

/-- Takes in what a call tells. -/
def receiveCall (host : Host) (call : Call) : Host := host.receiveAll call.answer.emissions

/-- Takes in what calls tell, one after the other. -/
def receiveCalls (host : Host) (calls : List Call) : Host := calls.foldl receiveCall host

theorem shows_receiveCalls {host : Host} {manager : Manager} (started : host.manager = some manager)
    {completed : List (String × Nat)} {begun : Nat} (h : manager.Shows completed begun)
    (calls : List Call) :
    ∃ after, (host.receiveCalls calls).manager = some after ∧
      after.Shows (completed ++ calls.filterMap Call.completed?)
        (begun + calls.countP (·.IsMeasured)) := by
  induction calls generalizing host manager completed begun with
  | nil => exact ⟨manager, started, by simpa using h⟩
  | cons call calls ih =>
    have received : (host.receiveCall call).manager =
        some (call.answer.emissions.foldl Manager.take manager) := by
      rw [receiveCall, manager_receiveAll, started]
      rfl
    obtain ⟨after, last, shows⟩ := ih received (call.shows_receive h)
    refine ⟨after, last, ?_⟩
    have runs : completed ++ (call :: calls).filterMap Call.completed? =
        completed ++ call.completed?.toList ++ calls.filterMap Call.completed? := by
      cases hc : call.completed? <;> simp [hc]
    rw [runs, List.countP_cons, Nat.add_comm (calls.countP _), ← Nat.add_assoc]
    simpa using shows

theorem manager_receiveCall {call : Call} (h : ¬ call.IsMeasured) (host : Host) :
    (host.receiveCall call).manager = host.manager := by
  obtain ⟨records, told⟩ := Call.emissions_of_not_isMeasured h
  rw [receiveCall, manager_receiveAll, told]
  simp only [Manager.foldl_take_records, Option.map_id']

theorem manager_start {host started : Host} {settings : HostSettings}
    (h : host.start settings = (some false, started)) :
    ∃ threshold, started.manager = some { settings, threshold } := by
  cases there : host.manager with
  | some manager =>
    rw [start_of_manager there] at h
    cases h
  | none =>
    by_cases known : settings.NamesLevel
    · obtain ⟨threshold, next, -, start, fresh⟩ := start_of_known there known
      rw [start] at h
      cases h
      exact ⟨threshold, fresh⟩
    · rw [start_of_unknown there known] at h
      cases h

/-- A batch that breaks off is measured once, and not counted. -/
theorem manager_receiveCall_of_breaksOff {call : Call} (h : call.BreaksOff) {host : Host}
    {manager : Manager} (there : host.manager = some manager)
    (metrics : manager.settings.enableMetrics = true) :
    (host.receiveCall call).manager =
      some { manager with histogram := countPoint [] manager.histogram } := by
  rw [receiveCall, manager_receiveAll, there, Option.map_some]
  rcases Call.foldl_take_emissions metrics h.1 with ⟨-, told⟩ | ⟨label, n, completed, -⟩
  · rw [told, Manager.take_elapsed metrics]
  · cases h.2.symm.trans completed

/-- After a manager was started that takes measurements, and whatever calls came then, its counter
has one point for each root type of a measured batch that a call completed, with the sum of the
totals of all such batches. Its histogram counts these batches and those that broke off, which no
proper call makes; one that breaks off shows in the histogram alone. Nothing is measured by a call
of a validator that takes no measurements, in live mode, without a root or in an unknown mode. -/
theorem measurements_conserved {host started : Host} {settings : HostSettings}
    (begun : host.start settings = (some false, started)) (metrics : settings.enableMetrics = true)
    (calls : List Call) :
    ∃ manager, (started.receiveCalls calls).manager = some manager ∧
      manager.counter = tally (calls.filterMap Call.completed?) ∧
      manager.histogram =
        durations ((calls.filterMap Call.completed?).length + calls.countP (·.BreaksOff)) ∧
      (∀ call : Call, call.Proper → ¬ call.BreaksOff) ∧
      (∀ (call : Call) (other : Host) (manager : Manager), call.BreaksOff →
        other.manager = some manager → manager.settings.enableMetrics = true →
        (other.receiveCall call).manager =
          some { manager with histogram := countPoint [] manager.histogram }) ∧
      ∀ (call : Call) (other : Host),
        call.validator.settings.enableMetrics = false ∨
          call.request.mode? call.validator.settings = some .live ∨
          call.answer.outcome = .error .noRoot ∨
          (∃ mode, call.answer.outcome = .error (.unknownMode mode)) →
        (other.receiveCall call).manager = other.manager := by
  obtain ⟨threshold, first⟩ := manager_start begun
  have unused : Manager.Shows { settings, threshold } [] 0 := ⟨metrics, rfl, rfl⟩
  obtain ⟨manager, last, shows⟩ := shows_receiveCalls first unused calls
  rw [List.nil_append, Nat.zero_add] at shows
  refine ⟨manager, last, shows.counter, ?_, fun call proper => proper.not_breaksOff,
    fun call other manager h there metrics => manager_receiveCall_of_breaksOff h there metrics,
    fun call other h => manager_receiveCall (fun measured => ?_) other⟩
  · rw [shows.histogram, Call.countP_isMeasured]
  · obtain ⟨on, root, mode⟩ := id measured
    rw [Call.answer_eq_answerBatch root mode] at h
    rcases h with off | live | refused
    · rw [off] at on
      cases on
    · rw [live] at mode
      cases mode
    · obtain ⟨-, ⟨misfit, -, outcome, -⟩ | ⟨report, -, -, outcome, -⟩⟩ :=
        call.validator.settings.emissions_answerBatch call.request
      · rw [outcome] at refused
        rcases refused with ⟨⟨⟩⟩ | ⟨mode, ⟨⟩⟩
      · rw [outcome] at refused
        rcases refused with ⟨⟨⟩⟩ | ⟨mode, ⟨⟩⟩

/-- A document with a bare process is validated twice, and a task, a task for which a number is to
be searched, a live call, a call for nothing and a call of a validator that measures nothing come in
between. -/
theorem measurements_conserved_mixed :
    let document : Request := {
      root := .plain (.element ⟨[0], .definitions { rootElements := [.process {}] }⟩)
      mode := .text "batch" }
    let task : Request := { root := .plain (.element ⟨[1], .flow (.leaf (.task {}))⟩) }
    let calls : List Call :=
      [{ request := document }, { request := task },
        { request := { task with definitions := .plain (.value (.int 5)) } },
        { request := { document with mode := .text "live" } },
        { request := { root := .plain .nothing } },
        { validator := { settings := { enableMetrics := false } }, request := document },
        { request := document }]
    ∃ manager, ((({} : Host).start {}).2.receiveCalls calls).manager = some manager ∧
      manager.counter =
        [⟨rootType "Definitions", some (.whole 10)⟩, ⟨rootType "Task", some (.whole 0)⟩] ∧
      manager.histogram = [⟨[], 4⟩] := by
  intro document task calls
  have completed : Call.completed? { request := document } = some ("Definitions", 5) := by
    have asks : document.AsksFor {} 0 { rootElements := [.process {}] } := ⟨rfl, rfl⟩
    have outcome := Settings.outcome_document asks.root asks.mode
    unfold Call.completed?
    rw [if_pos (by decide), show Call.answer { request := document } = Settings.answer {} document
      from rfl, outcome]
    rfl
  have runs : calls.filterMap Call.completed? =
      [("Definitions", 5), ("Task", 0), ("Definitions", 5)] := by
    show List.filterMap _ [_, _, _, _, _, _, _] = _
    simp only [List.filterMap_cons, completed]
    rfl
  have broken : calls.countP (·.BreaksOff) = 1 := by
    show List.countP _ [_, _, _, _, _, _, _] = 1
    simp only [List.countP_cons, Call.BreaksOff, completed]
    rfl
  have begun : ({} : Host).start {} = (some false, (({} : Host).start {}).2) := rfl
  obtain ⟨manager, last, counter, histogram, -⟩ := measurements_conserved begun rfl calls
  refine ⟨manager, last, ?_, ?_⟩
  · rw [counter, runs]
    rfl
  · rw [histogram, runs, broken]
    rfl

/-- The completed batches alone do not make up what is measured. A task for which a number is to be
searched breaks off, yet the histogram counts it. And a manager that was started without
measurements stays as it is when another one with measurements is to be started: what is completed
then shows nowhere. -/
theorem measurements_not_of_completed :
    let task : Request := { root := .plain (.element ⟨[1], .flow (.leaf (.task {}))⟩) }
    let broken : Call := { request := { task with definitions := .plain (.value (.int 5)) } }
    let whole : Call := { request := task }
    let host := (({} : Host).start {}).2
    let silent := (({} : Host).start { enableMetrics := false }).2
    (({} : Host).start {} = (some false, host) ∧
      broken.answer.outcome = .error (.misfit (.lacks "int" "find_container_of")) ∧
      ∃ manager, (host.receiveCalls [broken]).manager = some manager ∧ manager.counter = [] ∧
        manager.histogram = [⟨[], 1⟩] ∧
        manager.histogram ≠ durations ([broken].filterMap Call.completed?).length) ∧
    (silent.start {} = (some true, silent) ∧ whole.completed? = some ("Task", 0) ∧
      ∃ manager, (silent.receiveCalls [whole]).manager = some manager ∧ manager.counter = [] ∧
        manager.histogram = [] ∧
        manager.counter ≠ tally ([whole].filterMap Call.completed?) ∧
        manager.histogram ≠ durations ([whole].filterMap Call.completed?).length) := by
  intro task broken whole host silent
  have stops : broken.BreaksOff := ⟨⟨rfl, rfl, rfl⟩, rfl⟩
  have completed : whole.completed? = some ("Task", 0) := by rfl
  have begun : ({} : Host).start {} = (some false, host) := rfl
  obtain ⟨threshold, first⟩ := manager_start begun
  have last := manager_receiveCall_of_breaksOff stops first rfl
  have runs : [whole].filterMap Call.completed? = [("Task", 0)] := by
    rw [List.filterMap_cons_some completed, List.filterMap_nil]
  have nothing : [broken].filterMap Call.completed? = [] := by
    rw [List.filterMap_cons_none stops.2, List.filterMap_nil]
  refine ⟨⟨begun, rfl, _, last, rfl, rfl, ?_⟩, rfl, completed, _, rfl, rfl, rfl, ?_, ?_⟩
  · rw [nothing]
    exact List.cons_ne_nil _ _
  · rw [runs]
    exact (List.cons_ne_nil _ _).symm
  · rw [runs]
    exact (List.cons_ne_nil _ _).symm

end Host

end BpmnAudit
