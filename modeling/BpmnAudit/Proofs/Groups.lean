import Mathlib.Data.List.Induction
import Mathlib.Data.List.Nodup

/-!
# Groups

The keys of items, each once, in the order in which they first come up
(`eraseDups_append_singleton`, `nodup_eraseDups`), and the groups of the items that share a key. The
groups of distinct keys part the items that have one of these keys (`partedBy_filter`).
-/

namespace BpmnAudit

/-! ## Distinct keys -/

section Distinct

variable {κ : Type} [BEq κ] [LawfulBEq κ]

/-- A key comes after the others if it was not among them. -/
theorem eraseDups_append_singleton (keys : List κ) (key : κ) :
    (keys ++ [key]).eraseDups =
      if key ∈ keys.eraseDups then keys.eraseDups else keys.eraseDups ++ [key] := by
  rw [List.eraseDups_append]
  by_cases h : key ∈ keys
  · rw [if_pos (List.mem_eraseDups.mpr h)]
    simp [List.removeAll, h]
  · rw [if_neg (mt List.mem_eraseDups.mp h)]
    simp [List.removeAll, h, List.eraseDups_cons]

theorem nodup_eraseDups (keys : List κ) : keys.eraseDups.Nodup := by
  induction keys using List.reverseRecOn with
  | nil => exact List.nodup_nil
  | append_singleton keys key ih =>
    rw [eraseDups_append_singleton]
    split
    · exact ih
    · next h =>
      rw [← List.concat_eq_append]
      exact List.Nodup.concat h ih

end Distinct

/-! ## Groups of items -/

/-- Lists part a list: each of them has some of its items in their order, no two have an item in
common, and all together have every item as often as the list. -/
structure PartedBy {α : Type} (l : List α) (parts : List (List α)) : Prop where
  sublist : ∀ part ∈ parts, part.Sublist l
  disjoint : parts.Pairwise List.Disjoint
  perm : parts.flatten.Perm l

section Groups

variable {α κ : Type} [DecidableEq κ] (key : α → κ)

/-- The groups of distinct keys have, all together, the items of these keys. -/
theorem flatten_filter_perm {keys : List κ} (distinct : keys.Nodup) (l : List α) :
    (keys.map fun k => l.filter (key · = k)).flatten.Perm (l.filter (key · ∈ keys)) := by
  induction keys with
  | nil => simp
  | cons k keys ih =>
    obtain ⟨fresh, distinct⟩ := List.nodup_cons.mp distinct
    -- among the items of all keys, those of the first key and those of the others
    have first : (l.filter (key · ∈ k :: keys)).filter (key · = k) = l.filter (key · = k) := by
      rw [List.filter_filter]
      refine List.filter_congr fun item _ => ?_
      by_cases h : key item = k <;> simp [h]
    have others : (l.filter (key · ∈ k :: keys)).filter (fun item => !(key item = k)) =
        l.filter (key · ∈ keys) := by
      rw [List.filter_filter]
      refine List.filter_congr fun item _ => ?_
      by_cases h : key item = k <;> simp [h, fresh]
    rw [List.map_cons, List.flatten_cons]
    have split := List.filter_append_perm (key · = k) (l.filter (key · ∈ k :: keys))
    rw [first, others] at split
    exact ((ih distinct).append_left _).trans split

/-- The groups of distinct keys part a list whose items all have one of the keys. -/
theorem partedBy_filter {keys : List κ} (distinct : keys.Nodup) {l : List α}
    (covered : ∀ item ∈ l, key item ∈ keys) :
    PartedBy l (keys.map fun k => l.filter (key · = k)) := by
  refine ⟨fun part hp => ?_, ?_, ?_⟩
  · obtain ⟨k, -, rfl⟩ := List.mem_map.mp hp
    exact List.filter_sublist
  · refine List.pairwise_map.mpr (distinct.imp fun hne item first second => hne ?_)
    have here := of_decide_eq_true (List.mem_filter.mp first).2
    have there := of_decide_eq_true (List.mem_filter.mp second).2
    exact here.symm.trans there
  · have all : l.filter (key · ∈ keys) = l :=
      List.filter_eq_self.mpr fun item hi => decide_eq_true (covered item hi)
    have perm := flatten_filter_perm key distinct l
    rwa [all] at perm

end Groups

end BpmnAudit
