import BpmnAudit.Json.Basic

/-!
# Attributes

Custom attributes under their names, each name once, in written order. An element has one set of
them of its own and any number of extension blocks, which are sets of them too; of these the first
value of a name counts (`get_extension_value`, `merge_extension_values`).
-/

namespace BpmnAudit

theorem keys_putKey {α : Type} (key : String) (value : α) (entries : List (String × α)) :
    (putKey key value entries).map Prod.fst =
      if key ∈ entries.map Prod.fst then entries.map Prod.fst
      else entries.map Prod.fst ++ [key] := by
  induction entries with
  | nil => simp [putKey]
  | cons entry rest ih =>
    obtain ⟨k, v⟩ := entry
    by_cases hk : k = key
    · simp [putKey, hk]
    · have hk' : key ≠ k := fun h => hk h.symm
      simp only [putKey, hk, if_false, List.map_cons, ih, List.mem_cons, hk', false_or]
      split <;> simp

theorem nodup_putKey {α : Type} {key : String} {value : α} {entries : List (String × α)}
    (h : (entries.map Prod.fst).Nodup) : ((putKey key value entries).map Prod.fst).Nodup := by
  rw [keys_putKey]
  split
  · exact h
  · next hk =>
    rw [List.nodup_append]
    refine ⟨h, by simp, fun a ha b hb hab => hk ?_⟩
    rw [List.mem_singleton] at hb
    rwa [← hb, ← hab]

theorem nodup_putKeys {α : Type} {start : List (String × α)} (entries : List (String × α))
    (h : (start.map Prod.fst).Nodup) : ((putKeys start entries).map Prod.fst).Nodup := by
  induction entries generalizing start with
  | nil => exact h
  | cons entry rest ih => exact ih (nodup_putKey h)

/-- Attributes in written order, each name once. -/
structure Attributes where
  entries : List (String × String) := []
  nodup : (entries.map Prod.fst).Nodup := by exact List.nodup_nil
  deriving DecidableEq

namespace Attributes

/-- The attributes after writing names one after the other. -/
def ofList (entries : List (String × String)) : Attributes :=
  ⟨putKeys [] entries, nodup_putKeys entries (by simp)⟩

def get? (attributes : Attributes) (name : String) : Option String :=
  attributes.entries.lookup name

end Attributes

/-! ## Extension blocks -/

/-- The first value of a name over blocks. -/
def blockValue? (blocks : List Attributes) (name : String) : Option String :=
  blocks.findSome? (·.get? name)

/-- Writes a key unless it is there. -/
def putNewKey {α : Type} (key : String) (value : α) (entries : List (String × α)) :
    List (String × α) :=
  if (entries.lookup key).isSome then entries else entries ++ [(key, value)]

/-- Writes keys that are not there one after the other. -/
def putNewKeys {α : Type} (start entries : List (String × α)) : List (String × α) :=
  entries.foldl (fun done entry => putNewKey entry.1 entry.2 done) start

/-- The blocks as one association list; of a name in several blocks the first value counts. -/
def mergeBlocks (blocks : List Attributes) : List (String × String) :=
  blocks.foldl (fun merged block => putNewKeys merged block.entries) []

end BpmnAudit
