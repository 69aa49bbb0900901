import BpmnAudit.Model.Attributes
import BpmnAudit.Proofs.Groups

/-!
# Keys and values

What is looked up in an association list, after a key was written (`lookup_putKey`), after one was
written unless it was there (`lookup_putNewKey`), and after entries were left out by their values
(`lookup_filter`) or by their key (`lookup_filter_ne`). Where each key is single, every entry is
found by its key (`lookup_eq_some_of_mem`), and writing the keys again one after the other gives the
same list (`putKeys_eq_append`). Keys that are written unless they are there stand in the order in
which they first come up (`keys_putNewKeys`).
-/

namespace BpmnAudit

section Lookup

variable {κ α : Type} [BEq κ] [LawfulBEq κ]

theorem lookup_cons_eq_ite [DecidableEq κ] (key : κ) (entry : κ × α) (entries : List (κ × α)) :
    (entry :: entries).lookup key =
      if key = entry.1 then some entry.2 else entries.lookup key := by
  rw [List.lookup_cons]
  by_cases h : key = entry.1
  · rw [if_pos h, beq_iff_eq.mpr h]
  · rw [if_neg h, beq_eq_false_iff_ne.mpr h]

theorem lookup_eq_none_of_not_mem {key : κ} {entries : List (κ × α)}
    (h : key ∉ entries.map Prod.fst) : entries.lookup key = none := by
  rw [List.lookup_eq_none_iff]
  intro entry he
  have hne : key ≠ entry.1 := by
    intro hk
    apply h
    rw [hk]
    exact List.mem_map_of_mem he
  simpa using hne

/-- Where each key is single, every entry is found by its key. -/
theorem lookup_eq_some_of_mem [DecidableEq κ] {key : κ} {value : α} {entries : List (κ × α)}
    (h : (entries.map Prod.fst).Nodup) (hm : (key, value) ∈ entries) :
    entries.lookup key = some value := by
  induction entries with
  | nil => cases hm
  | cons entry entries ih =>
    rw [List.map_cons, List.nodup_cons] at h
    rw [lookup_cons_eq_ite]
    rcases List.mem_cons.mp hm with rfl | hm
    · exact if_pos rfl
    · have hne : key ≠ entry.1 := by
        intro hk
        apply h.1
        rw [← hk]
        exact List.mem_map_of_mem hm
      rw [if_neg hne]
      exact ih h.2 hm

/-- Where each key is single, leaving out entries by their values leaves out looked-up values. -/
theorem lookup_filter [DecidableEq κ] (keep : α → Bool) {entries : List (κ × α)}
    (h : (entries.map Prod.fst).Nodup) (key : κ) :
    (entries.filter (keep ·.2)).lookup key = (entries.lookup key).filter keep := by
  induction entries with
  | nil => rfl
  | cons entry entries ih =>
    rw [List.map_cons, List.nodup_cons] at h
    have rest := ih h.2
    rw [List.filter_cons, lookup_cons_eq_ite key entry entries]
    by_cases hk : keep entry.2 = true
    · rw [if_pos hk, lookup_cons_eq_ite]
      split
      · exact (Option.filter_some_pos hk).symm
      · exact rest
    · rw [if_neg hk, rest]
      split
      · next hkey =>
        rw [hkey, lookup_eq_none_of_not_mem h.1]
        exact (Option.filter_some_neg (Bool.eq_false_iff.mpr hk)).symm
      · rfl

/-- Leaving out a key leaves out no other. -/
theorem lookup_filter_ne [DecidableEq κ] {left key : κ} (h : key ≠ left)
    (entries : List (κ × α)) :
    (entries.filter (·.1 ≠ left)).lookup key = entries.lookup key := by
  induction entries with
  | nil => rfl
  | cons entry entries ih =>
    rw [List.filter_cons, lookup_cons_eq_ite key entry entries]
    by_cases hk : entry.1 = left
    · rw [if_neg (by simpa using hk), if_neg fun he => h (he.trans hk), ih]
    · rw [if_pos (by simpa using hk), lookup_cons_eq_ite, ih]

end Lookup

variable {α : Type}

/-! ## Writing keys -/

theorem lookup_putKey (key : String) (value : α) (entries : List (String × α)) (other : String) :
    (putKey key value entries).lookup other =
      if other = key then some value else entries.lookup other := by
  induction entries with
  | nil => rw [putKey, lookup_cons_eq_ite]
  | cons entry rest ih =>
    rw [putKey]
    by_cases hk : entry.1 = key
    · rw [if_pos hk, lookup_cons_eq_ite, lookup_cons_eq_ite, hk]
      split <;> rfl
    · rw [if_neg hk, lookup_cons_eq_ite, lookup_cons_eq_ite, ih]
      by_cases h : other = entry.1
      · have hne : other ≠ key := fun e => hk (h.symm.trans e)
        rw [if_pos h, if_neg hne, if_pos h]
      · rw [if_neg h, if_neg h]

theorem putKey_of_not_mem {key : String} {value : α} {entries : List (String × α)}
    (h : key ∉ entries.map Prod.fst) : putKey key value entries = entries ++ [(key, value)] := by
  induction entries with
  | nil => rfl
  | cons entry entries ih =>
    rw [List.map_cons, List.mem_cons, not_or] at h
    rw [putKey, if_neg (Ne.symm h.1), ih h.2, List.cons_append]

/-- Keys that are all new are written after those that were there. -/
theorem putKeys_eq_append {start entries : List (String × α)}
    (h : ((start ++ entries).map Prod.fst).Nodup) : putKeys start entries = start ++ entries := by
  induction entries generalizing start with
  | nil => exact (List.append_nil start).symm
  | cons entry entries ih =>
    have new : entry.1 ∉ start.map Prod.fst := by
      intro hs
      rw [List.map_append, List.nodup_append] at h
      exact h.2.2 _ hs _ (List.mem_map_of_mem (List.mem_cons_self ..)) rfl
    show putKeys (putKey entry.1 entry.2 start) entries = _
    rw [putKey_of_not_mem new, ih (by rwa [List.append_assoc]), List.append_assoc]
    rfl

/-! ## Writing new keys -/

theorem lookup_putNewKey (key : String) (value : α) (entries : List (String × α))
    (other : String) :
    (putNewKey key value entries).lookup other =
      (entries.lookup other).or (if other = key then some value else none) := by
  unfold putNewKey
  split
  · next hk =>
    by_cases h : other = key
    · obtain ⟨old, hold⟩ := Option.isSome_iff_exists.mp hk
      rw [h, hold, Option.some_or]
    · rw [if_neg h, Option.or_none]
  · rw [List.lookup_append, lookup_cons_eq_ite, List.lookup_nil]

theorem keys_putNewKey (key : String) (value : α) (entries : List (String × α)) :
    (putNewKey key value entries).map Prod.fst =
      if key ∈ entries.map Prod.fst then entries.map Prod.fst
      else entries.map Prod.fst ++ [key] := by
  unfold putNewKey
  by_cases there : key ∈ entries.map Prod.fst
  · have found : (entries.lookup key).isSome = true := by
      rw [List.lookup_isSome_iff]
      obtain ⟨entry, he, rfl⟩ := List.mem_map.mp there
      exact ⟨entry, he, beq_self_eq_true _⟩
    rw [if_pos found, if_pos there]
  · rw [lookup_eq_none_of_not_mem there, if_neg there, Option.isSome_none,
      if_neg Bool.false_ne_true, List.map_append]
    rfl

theorem putNewKeys_cons (start : List (String × α)) (entry : String × α)
    (entries : List (String × α)) :
    putNewKeys start (entry :: entries) = putNewKeys (putNewKey entry.1 entry.2 start) entries :=
  rfl

theorem lookup_putNewKeys (start entries : List (String × α)) (key : String) :
    (putNewKeys start entries).lookup key = (start.lookup key).or (entries.lookup key) := by
  induction entries generalizing start with
  | nil => exact Option.or_none.symm
  | cons entry entries ih =>
    rw [putNewKeys_cons, ih, lookup_putNewKey, Option.or_assoc, lookup_cons_eq_ite]
    congr 1
    split <;> rfl

/-- Keys that are not there come in the order in which they first come up. -/
theorem keys_putNewKeys {start : List (String × α)} {seen : List String}
    (h : start.map Prod.fst = seen.eraseDups) (entries : List (String × α)) :
    (putNewKeys start entries).map Prod.fst = (seen ++ entries.map Prod.fst).eraseDups := by
  induction entries generalizing start seen with
  | nil => rw [List.map_nil, List.append_nil, ← h]; rfl
  | cons entry entries ih =>
    have next : (putNewKey entry.1 entry.2 start).map Prod.fst = (seen ++ [entry.1]).eraseDups := by
      rw [keys_putNewKey, h, eraseDups_append_singleton]
    rw [putNewKeys_cons, ih next, List.map_cons, List.append_assoc, List.singleton_append]

end BpmnAudit
