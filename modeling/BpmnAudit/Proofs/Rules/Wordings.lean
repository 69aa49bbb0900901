import BpmnAudit.Finding.Report
import Mathlib.Data.List.Nodup

/-!
# Wordings

Every problem has a wording of its own (`Problem.eq_of_message_eq`), but for those that a host
states in words of its choice. So where no problems are stated, to leave out wordings is to leave
out problems (`filter_message_eq`).
-/

namespace BpmnAudit

/-- Every detail of event definitions. -/
def EventDetail.all : List EventDetail :=
  [timeDate, timeDuration, timeCycle, signalRef, errorRef, condition, escalationRef, messageRef,
    activityRef]

def GatewayKind.all : List GatewayKind := [exclusive, eventBased, parallel, inclusive, complex]

namespace Problem

/-- Whether a problem is one that a host states in words of its choice. -/
def isStated : Problem → Bool
  | stated _ => true
  | _ => false

/-- Every problem that has a wording of its own. -/
def worded : List Problem :=
  [noProcessId, invalidProcessId, noPackageName, noProcessName, noStartNode, noEndNode,
    startWithoutOutgoing, endWithoutIncoming, nodeWithoutOutgoing, nodeWithoutIncoming,
    noRuleFlowGroup, noScript, noScriptFormat, noOperation, noMessage, noTaskName,
    noStaffAvailability, noDistributionType, noDuration, noTimeUnits, noRange, noStandardDeviation,
    noSource, noTarget, noDirection, noProbability, probabilitySum, noCalledElement, noDataName,
    spaceInDataName] ++ EventDetail.all.map catchWithout ++ EventDetail.all.map throwWithout ++
    GatewayKind.all.map wrongDirection

theorem mem_worded {p : Problem} (h : p.isStated = false) : p ∈ worded := by
  cases p with
  | stated text => cases h
  | catchWithout detail => cases detail <;> decide
  | throwWithout detail => cases detail <;> decide
  | wrongDirection kind => cases kind <;> decide
  | _ => decide

theorem nodup_messages : (worded.map message).Nodup := by decide +kernel

/-- No two problems have the same wording. -/
theorem eq_of_message_eq {p q : Problem} (hp : p.isStated = false) (hq : q.isStated = false)
    (h : p.message = q.message) : p = q :=
  List.inj_on_of_nodup_map nodup_messages (mem_worded hp) (mem_worded hq) h

theorem message_mem_map_iff {p : Problem} (hp : p.isStated = false) {ps : List Problem}
    (hps : ∀ q ∈ ps, q.isStated = false) : p.message ∈ ps.map message ↔ p ∈ ps := by
  refine ⟨fun h => ?_, List.mem_map_of_mem⟩
  obtain ⟨q, hq, same⟩ := List.mem_map.mp h
  rwa [← eq_of_message_eq (hps q hq) hp same]

end Problem

/-- Among problems that have wordings of their own, to leave out wordings is to leave out
problems. -/
theorem filter_message_eq {found : List Diagnostic} (h : ∀ x ∈ found, x.problem.isStated = false)
    {ps : List Problem} (hps : ∀ q ∈ ps, q.isStated = false) :
    found.filter (·.message ∉ ps.map Problem.message) = found.filter (·.problem ∉ ps) :=
  List.filter_congr fun x hx => decide_eq_decide.mpr
    (not_congr (Problem.message_mem_map_iff (h x hx) hps))

end BpmnAudit
