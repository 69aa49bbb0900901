import BpmnAudit.Json.Parser

/-!
# Nesting of values

How deeply the containers of a value are nested, where those without members do not count. The
reader refuses a text as soon as too many containers with members are open, so what it reads is
nested no deeper than its limit (`depth_le_of_parseWithin`).

The invariant is that every value on the reader's stack fits into the containers around it
(`Reader.Fits`).
-/

namespace BpmnAudit.Json

/-! ## Depth -/

mutual

/-- How many containers with members stand inside one another in a value. -/
def depth : Json → Nat
  | .array [] => 0
  | .array (item :: items) => max item.depth (itemsDepth items) + 1
  | .object [] => 0
  | .object ((_, value) :: members) => max value.depth (membersDepth members) + 1
  | _ => 0

def itemsDepth : List Json → Nat
  | [] => 0
  | item :: items => max item.depth (itemsDepth items)

/-- The greatest depth of the values of members. -/
def membersDepth : List (String × Json) → Nat
  | [] => 0
  | (_, value) :: members => max value.depth (membersDepth members)

end

theorem itemsDepth_le {n : Nat} {items : List Json} :
    itemsDepth items ≤ n ↔ ∀ item ∈ items, item.depth ≤ n := by
  induction items with
  | nil => simp [itemsDepth]
  | cons item items ih => simp only [itemsDepth, Nat.max_le, ih, List.forall_mem_cons]

theorem membersDepth_le {n : Nat} {members : List (String × Json)} :
    membersDepth members ≤ n ↔ ∀ m ∈ members, m.2.depth ≤ n := by
  induction members with
  | nil => simp [membersDepth]
  | cons m members ih =>
    obtain ⟨key, value⟩ := m
    simp only [membersDepth, Nat.max_le, ih, List.forall_mem_cons]

theorem depth_array_le {n : Nat} {items : List Json} :
    (Json.array items).depth ≤ n + 1 ↔ ∀ item ∈ items, item.depth ≤ n := by
  cases items with
  | nil => simp [depth]
  | cons item items =>
    rw [← itemsDepth_le, depth, Nat.add_le_add_iff_right]
    rfl

theorem depth_object_le {n : Nat} {members : List (String × Json)} :
    (Json.object members).depth ≤ n + 1 ↔ ∀ m ∈ members, m.2.depth ≤ n := by
  cases members with
  | nil => simp [depth]
  | cons m members =>
    obtain ⟨key, value⟩ := m
    rw [← membersDepth_le, depth, Nat.add_le_add_iff_right]
    rfl

/-- Only containers without members have no depth. -/
theorem depth_array_pos {items : List Json} (h : items ≠ []) : 0 < (Json.array items).depth := by
  cases items with
  | nil => exact absurd rfl h
  | cons item items => simp [depth]

theorem depth_object_pos {members : List (String × Json)} (h : members ≠ []) :
    0 < (Json.object members).depth := by
  cases members with
  | nil => exact absurd rfl h
  | cons m members => obtain ⟨key, value⟩ := m; simp [depth]

/-! ## What the reader reads -/

/-- The values that an open container has so far. -/
def Frame.values : Frame → List Json
  | .array done => done
  | .object done | .member done _ => done.map (·.2)

/-- The values of open containers fit into the containers around them. -/
def Fits (limit : Nat) : List Frame → Prop
  | [] => True
  | frame :: rest => (∀ v ∈ frame.values, rest.length + 1 + v.depth ≤ limit) ∧ Fits limit rest

/-- What was read fits. Only a container that was just opened may stand too deep: it has no members
as yet. -/
def Reader.Fits (limit : Nat) (reader : Reader) : Prop :=
  Json.Fits limit reader.stack ∧
    match reader.await with
    | .firstItem | .firstKey => reader.stack.length ≤ limit + 1
    | .nothing value => value.depth ≤ limit
    | _ => reader.stack.length ≤ limit

namespace Reader

variable {limits : Limits} {stack : List Frame} {reader next : Reader}

theorem fits_of_put {v : Json} (hs : Json.Fits limits.depth stack)
    (hv : stack.length + v.depth ≤ limits.depth) (h : put v stack = some next) :
    next.Fits limits.depth := by
  cases stack with
  | nil =>
    obtain rfl := Option.some.inj h
    exact ⟨trivial, by simpa using hv⟩
  | cons frame rest =>
    obtain ⟨hframe, hrest⟩ := hs
    rw [List.length_cons] at hv
    have pushed : ∀ w ∈ v :: frame.values, rest.length + 1 + w.depth ≤ limits.depth :=
      List.forall_mem_cons.mpr ⟨hv, hframe⟩
    cases frame with
    | array done =>
      obtain rfl := Option.some.inj h
      exact ⟨⟨pushed, hrest⟩, by simp; omega⟩
    | member done key =>
      obtain rfl := Option.some.inj h
      exact ⟨⟨pushed, hrest⟩, by simp; omega⟩
    | object done => cases h

theorem depth_of_readWord {cs : List Char} {value : Json} (h : readWord limits cs = some value) :
    value.depth = 0 := by
  unfold readWord at h
  split at h
  · exact Option.some.inj h ▸ rfl
  split at h
  · exact Option.some.inj h ▸ rfl
  split at h
  · exact Option.some.inj h ▸ rfl
  split at h
  · exact Option.some.inj h ▸ rfl
  split at h
  · exact Option.some.inj h ▸ rfl
  split at h
  · exact Option.some.inj h ▸ rfl
  · obtain ⟨written, -, rfl⟩ := Option.map_eq_some_iff.mp h
    split <;> rfl

theorem fits_of_begin {token : Token} (hs : Json.Fits limits.depth stack)
    (hl : stack.length ≤ limits.depth) (h : begin limits stack token = some next) :
    next.Fits limits.depth := by
  cases token with
  | openArray | openObject =>
    obtain rfl := Option.some.inj h
    exact ⟨⟨by simp [Frame.values], hs⟩, by simp; omega⟩
  | string cs => exact fits_of_put (v := .text (String.ofList cs)) hs hl h
  | word cs =>
    rw [begin] at h
    split at h
    · cases h
    · next hw => exact fits_of_put hs (by rw [depth_of_readWord hw]; exact hl) h
  | closeArray | closeObject | comma | colon => cases h

theorem fits_of_key {token : Token} (hs : Json.Fits limits.depth stack)
    (hl : stack.length ≤ limits.depth) (h : key stack token = some next) :
    next.Fits limits.depth := by
  unfold key at h
  split at h
  · split at h
    · obtain rfl := Option.some.inj h
      exact ⟨hs, hl⟩
    · cases h
  · cases h

theorem fits_of_close {frame : Frame} {value : Json} (hs : Json.Fits limits.depth (frame :: stack))
    (hl : stack.length ≤ limits.depth)
    (hv : ∀ n, (∀ v ∈ frame.values, v.depth ≤ n) → value.depth ≤ n + 1)
    (hnone : frame.values = [] → value.depth = 0) (h : put value stack = some next) :
    next.Fits limits.depth := by
  refine fits_of_put hs.2 ?_ h
  cases hvalues : frame.values with
  | nil => rw [hnone hvalues]; exact hl
  | cons v values =>
    have first := hs.1 v (by rw [hvalues]; exact List.mem_cons_self)
    have := hv (limits.depth - (stack.length + 1)) fun v hmem => by
      have := hs.1 v hmem
      omega
    omega

theorem fits_of_closeArray {done : List Json}
    (hs : Json.Fits limits.depth (.array done :: stack)) (hl : stack.length ≤ limits.depth)
    (h : put (.array done.reverse) stack = some next) : next.Fits limits.depth := by
  refine fits_of_close hs hl (fun n hn => ?_) (fun hnil => ?_) h
  · exact depth_array_le.mpr fun v hmem => hn v (List.mem_reverse.mp hmem)
  · rw [show done = [] from hnil]
    rfl

theorem fits_of_closeObject {done : Members}
    (hs : Json.Fits limits.depth (.object done :: stack)) (hl : stack.length ≤ limits.depth)
    (h : put (.object done.reverse) stack = some next) : next.Fits limits.depth := by
  refine fits_of_close hs hl (fun n hn => ?_) (fun hnil => ?_) h
  · exact depth_object_le.mpr fun m hmem =>
      hn _ (List.mem_map_of_mem (List.mem_reverse.mp hmem))
  · rw [show done = [] from List.map_eq_nil_iff.mp hnil]
    rfl

theorem Fits.step {token : Token} (hf : reader.Fits limits.depth)
    (h : reader.step limits token = some next) : next.Fits limits.depth := by
  obtain ⟨stack, await⟩ := reader
  obtain ⟨hs, ha⟩ := hf
  unfold Reader.step at h
  dsimp only at hs ha h
  split at h
  · exact fits_of_begin hs ha h
  · exact fits_of_closeArray hs (by simpa using ha) h
  · split at h
    · next hl => exact fits_of_begin hs hl h
    · cases h
  · exact fits_of_closeObject hs (by simpa using ha) h
  · split at h
    · next hl => exact fits_of_key hs hl h
    · cases h
  · exact fits_of_key hs ha h
  · obtain rfl := Option.some.inj h
    exact ⟨hs, ha⟩
  · exact fits_of_closeArray hs (Nat.le_of_succ_le ha) h
  · exact fits_of_closeObject hs (Nat.le_of_succ_le ha) h
  · obtain rfl := Option.some.inj h
    exact ⟨hs, ha⟩
  · obtain rfl := Option.some.inj h
    exact ⟨hs, ha⟩
  · cases h

theorem Fits.run {tokens : List Token} (hf : reader.Fits limits.depth)
    (h : reader.run limits tokens = some next) : next.Fits limits.depth := by
  induction tokens generalizing reader with
  | nil => exact Option.some.inj h ▸ hf
  | cons token tokens ih =>
    rw [Reader.run] at h
    split at h
    · cases h
    · next hstep => exact ih (hf.step hstep) h

end Reader

/-- What is read is nested no deeper than the limit. -/
theorem depth_le_of_parseWithin {limits : Limits} {cs : List Char} {value : Json}
    (h : parseWithin limits cs = some value) : value.depth ≤ limits.depth := by
  have begun : ({} : Reader).Fits limits.depth := ⟨trivial, Nat.zero_le _⟩
  unfold parseWithin at h
  split at h
  · cases h
  · split at h
    · next hrun =>
      obtain rfl := Option.some.inj h
      exact (begun.run hrun).2
    · cases h

end BpmnAudit.Json
