import BpmnAudit.Finding.Report
import BpmnAudit.Proofs.Keys
import Mathlib.Algebra.GroupWithZero.Nat

/-!
# The accounts of a report

A report counts its diagnostics while it goes through them, and shows them by level or by element
when it is asked. Both agree (`Report.ofDiagnostics_accounts`): after any diagnostics a level stands
among the counts if a diagnostic has it, with the number of these diagnostics
(`mem_issuesByLevel`), and the diagnostics by level, as well as those by element, part the whole.
-/

namespace BpmnAudit

/-! ## Counting -/

theorem keys_countLevel (level : Level) (counts : List (Level × Nat)) :
    (countLevel level counts).map Prod.fst =
      if level ∈ counts.map Prod.fst then counts.map Prod.fst
      else counts.map Prod.fst ++ [level] := by
  induction counts with
  | nil => rfl
  | cons entry counts ih =>
    obtain ⟨l, n⟩ := entry
    rw [countLevel, List.map_cons]
    by_cases h : l = level
    · rw [if_pos h, if_pos (List.mem_cons.mpr (.inl h.symm))]
      rfl
    · rw [if_neg h, List.map_cons, ih]
      by_cases later : level ∈ counts.map Prod.fst <;> simp [later, Ne.symm h]

theorem lookup_countLevel (level : Level) (counts : List (Level × Nat)) (l : Level) :
    ((countLevel level counts).lookup l).getD 0 =
      (counts.lookup l).getD 0 + if l = level then 1 else 0 := by
  induction counts with
  | nil =>
    rw [countLevel, lookup_cons_eq_ite, List.lookup_nil]
    split <;> rfl
  | cons entry counts ih =>
    obtain ⟨other, n⟩ := entry
    rw [countLevel, lookup_cons_eq_ite l (other, n)]
    by_cases h : other = level
    · rw [if_pos h, lookup_cons_eq_ite, h]
      by_cases hl : l = level
      · rw [if_pos hl, if_pos hl, if_pos hl]
        rfl
      · rw [if_neg hl, if_neg hl, if_neg hl, Nat.add_zero]
    · rw [if_neg h, lookup_cons_eq_ite]
      by_cases hl : l = other
      · have hne : l ≠ level := fun e => h (hl.symm.trans e)
        rw [if_pos hl, if_pos hl, if_neg hne, Nat.add_zero]
      · rw [if_neg hl, if_neg hl, ih]

theorem sum_countLevel (level : Level) (counts : List (Level × Nat)) :
    ((countLevel level counts).map Prod.snd).sum = (counts.map Prod.snd).sum + 1 := by
  induction counts with
  | nil => rfl
  | cons entry counts ih =>
    obtain ⟨l, n⟩ := entry
    rw [countLevel]
    split
    · simp only [List.map_cons, List.sum_cons]
      omega
    · simp only [List.map_cons, List.sum_cons, ih]
      omega

namespace Report

/-! ## The counts of a report -/

theorem issuesByLevel_append (ds : List Diagnostic) (d : Diagnostic) :
    (ofDiagnostics (ds ++ [d])).issuesByLevel =
      countLevel d.level (ofDiagnostics ds).issuesByLevel :=
  List.foldl_concat ..

/-- The levels among the counts are those of the diagnostics, in the order in which they first come
up. -/
theorem keys_issuesByLevel (ds : List Diagnostic) :
    (ofDiagnostics ds).issuesByLevel.map Prod.fst = (ds.map (·.level)).eraseDups := by
  induction ds using List.reverseRecOn with
  | nil => rfl
  | append_singleton ds d ih =>
    rw [issuesByLevel_append, keys_countLevel, ih, List.map_append, List.map_singleton,
      eraseDups_append_singleton]

theorem nodup_issuesByLevel (ds : List Diagnostic) :
    ((ofDiagnostics ds).issuesByLevel.map Prod.fst).Nodup := by
  rw [keys_issuesByLevel]
  exact nodup_eraseDups _

theorem lookup_issuesByLevel (ds : List Diagnostic) (level : Level) :
    ((ofDiagnostics ds).issuesByLevel.lookup level).getD 0 = ds.countP (·.level = level) := by
  induction ds using List.reverseRecOn with
  | nil => rfl
  | append_singleton ds d ih =>
    rw [issuesByLevel_append, lookup_countLevel, ih, List.countP_append, List.countP_singleton]
    by_cases h : level = d.level
    · rw [if_pos h, if_pos (decide_eq_true h.symm)]
    · rw [if_neg h, if_neg (by simpa using Ne.symm h)]

/-- The counts have what some diagnostic has as its level, with the number of such diagnostics. -/
theorem mem_issuesByLevel (ds : List Diagnostic) (level : Level) (n : Nat) :
    (level, n) ∈ (ofDiagnostics ds).issuesByLevel ↔
      (∃ d ∈ ds, d.level = level) ∧ n = ds.countP (·.level = level) := by
  have there : level ∈ (ofDiagnostics ds).issuesByLevel.map Prod.fst ↔
      ∃ d ∈ ds, d.level = level := by
    rw [keys_issuesByLevel, List.mem_eraseDups, List.mem_map]
  have count : ∀ {m}, (level, m) ∈ (ofDiagnostics ds).issuesByLevel →
      m = ds.countP (·.level = level) := by
    intro m hm
    rw [← lookup_issuesByLevel, lookup_eq_some_of_mem (nodup_issuesByLevel ds) hm]
    rfl
  constructor
  · intro hm
    exact ⟨there.mp (List.mem_map_of_mem hm), count hm⟩
  · rintro ⟨some, rfl⟩
    obtain ⟨⟨_, m⟩, hm, rfl⟩ := List.mem_map.mp (there.mpr some)
    rwa [← count hm]

theorem sum_issuesByLevel (ds : List Diagnostic) :
    ((ofDiagnostics ds).issuesByLevel.map Prod.snd).sum = ds.length := by
  induction ds using List.reverseRecOn with
  | nil => rfl
  | append_singleton ds d ih =>
    rw [issuesByLevel_append, sum_countLevel, ih, List.length_append, List.length_singleton]

/-! ## The views of a report -/

theorem partedBy_levels (ds : List Diagnostic) :
    PartedBy ds [(ofDiagnostics ds).errors, (ofDiagnostics ds).warnings] := by
  have levels : [Level.error, .warning].Nodup := by decide
  refine partedBy_filter Diagnostic.level levels ?_
  intro d _
  cases d.level <;> decide

/-- The diagnostics by the ids of their elements, no id among them, part the diagnostics. -/
theorem partedBy_elements (ds : List Diagnostic) :
    PartedBy ds ((ds.map (·.elementId)).eraseDups.map (ofDiagnostics ds).forElement) := by
  refine partedBy_filter Diagnostic.elementId (nodup_eraseDups _) ?_
  intro d hd
  exact List.mem_eraseDups.mpr (List.mem_map_of_mem hd)

/-- A report on diagnostics keeps them in order and is ok if there are none. It has one count for
each level of a diagnostic and for no other level, which is the number of such diagnostics; the
counts sum up to the total, and those of errors and warnings are the lengths of their lists. The
errors and the warnings part the diagnostics, and so do the diagnostics of the elements with an id,
over the distinct ids. -/
theorem ofDiagnostics_accounts (ds : List Diagnostic) :
    let report := ofDiagnostics ds
    report.diagnostics = ds ∧
      (report.ok = true ↔ ds = []) ∧
      (report.issuesByLevel.map Prod.fst).Nodup ∧
      (∀ level n, (level, n) ∈ report.issuesByLevel ↔
        (∃ d ∈ ds, d.level = level) ∧ n = ds.countP (·.level = level)) ∧
      (report.issuesByLevel.map Prod.snd).sum = report.total ∧
      (report.issuesByLevel.lookup .error).getD 0 = report.errors.length ∧
      (report.issuesByLevel.lookup .warning).getD 0 = report.warnings.length ∧
      (∀ d, d ∈ report.errors ↔ d ∈ ds ∧ d.level = .error) ∧
      (∀ d, d ∈ report.warnings ↔ d ∈ ds ∧ d.level = .warning) ∧
      PartedBy ds [report.errors, report.warnings] ∧
      (∀ id d, d ∈ report.forElement id ↔ d ∈ ds ∧ d.elementId = id) ∧
      PartedBy ds ((ds.map (·.elementId)).eraseDups.map report.forElement) := by
  intro report
  have count : ∀ level,
      (report.issuesByLevel.lookup level).getD 0 = (report.ofLevel level).length := by
    intro level
    rw [lookup_issuesByLevel]
    exact List.countP_eq_length_filter
  have ofLevel : ∀ level d, d ∈ report.ofLevel level ↔ d ∈ ds ∧ d.level = level := by
    intro level d
    rw [Report.ofLevel, List.mem_filter, decide_eq_true_iff]
    rfl
  refine ⟨rfl, List.isEmpty_iff, nodup_issuesByLevel ds, mem_issuesByLevel ds, sum_issuesByLevel ds,
    count .error, count .warning, ofLevel .error, ofLevel .warning, partedBy_levels ds, ?_,
    partedBy_elements ds⟩
  intro id d
  rw [forElement, List.mem_filter, decide_eq_true_iff]
  rfl

end Report

end BpmnAudit
