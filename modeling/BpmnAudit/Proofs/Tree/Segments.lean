import BpmnAudit.Proofs.Tree.Visits

/-!
# What stands inside a container

A place is inside another one if it leads on from there. All that a container meets is inside of
it, and of the visits of a container around it no others are: they make up the one stretch of
visits inside (`Owner.visits_eq_append_inside`).
-/

namespace BpmnAudit

/-- A place leads on from another one: it is that of something inside. -/
def Place.Inside (place outer : Place) : Prop := ∃ i, (i :: outer) <:+ place

theorem Place.inside_cons_iff {i : Nat} {place outer : Place} :
    Place.Inside (i :: place) outer ↔ outer <:+ place := by
  constructor
  · rintro ⟨k, hk⟩
    rcases List.suffix_cons_iff.mp hk with hk | hk
    · obtain ⟨-, rfl⟩ := List.cons.inj hk
      exact List.suffix_refl _
    · exact (List.suffix_cons k outer).trans hk
  · rintro ⟨js, rfl⟩
    rcases List.eq_nil_or_concat (i :: js) with h | ⟨ks, k, hk⟩
    · cases h
    · refine ⟨k, ks, ?_⟩
      rw [← List.cons_append, hk]
      simp

/-- Nothing is inside of two containers next to each other. -/
theorem Place.index_eq {place outer : Place} {i j : Nat}
    (hi : (i :: outer) <:+ place) (hj : (j :: outer) <:+ place) : i = j := by
  have hs := List.suffix_of_suffix_length_le hi hj (Nat.le_refl _)
  exact (List.cons.inj (hs.eq_of_length rfl)).1

namespace Owner

/-- All that a container meets is inside of it, and so is every owner but itself. -/
theorem Meets.suffix {owner : Owner} {v : Visit} (h : owner.Meets v) :
    owner.place <:+ v.owner.place ∧ ∃ i, v.placed.place = i :: v.owner.place := by
  induction h with
  | @own owner i e h => exact ⟨List.suffix_refl _, i, rfl⟩
  | @inner owner i e v h _ ih => exact ⟨(List.suffix_cons i owner.place).trans ih.1, ih.2⟩

theorem Meets.inside {owner : Owner} {v : Visit} (h : owner.Meets v) :
    Place.Inside v.placed.place owner.place := by
  obtain ⟨hs, i, hi⟩ := h.suffix
  rw [hi]
  exact Place.inside_cons_iff.mpr hs

end Owner

theorem FlowElement.suffix_of_mem_visits {owner : Owner} {i : Nat} {e : FlowElement} {v : Visit}
    (h : v ∈ e.visits owner i) : (i :: owner.place) <:+ v.placed.place := by
  rw [FlowElement.visits_eq, List.mem_cons] at h
  rcases h with rfl | h
  · exact List.suffix_refl _
  · obtain ⟨k, hk⟩ := (Owner.mem_visits_iff.mp h).inside
    exact (List.suffix_cons k _).trans hk

theorem exists_index_of_mem_visitsFrom {owner : Owner} {i : Nat} {es : List FlowElement}
    {v : Visit} (h : v ∈ visitsFrom owner i es) :
    ∃ k, i ≤ k ∧ k < i + es.length ∧ (k :: owner.place) <:+ v.placed.place := by
  induction es generalizing i with
  | nil => simp [visitsFrom] at h
  | cons e es ih =>
    rw [visitsFrom, List.mem_append] at h
    rcases h with h | h
    · exact ⟨i, Nat.le_refl i, by simp, FlowElement.suffix_of_mem_visits h⟩
    · obtain ⟨k, hle, hlt, hk⟩ := ih h
      exact ⟨k, by omega, by simp; omega, hk⟩

theorem Owner.visits_eq_append_of_getElem? {owner : Owner} {i : Nat} {e : FlowElement}
    (h : owner.elements[i]? = some e) :
    ∃ before after, owner.visits = before ++ e.visits owner i ++ after ∧
      ∀ v ∈ before ++ after, ¬ (i :: owner.place) <:+ v.placed.place := by
  have hs := visitsFrom_eq_append owner 0 h
  rw [Nat.zero_add] at hs
  refine ⟨_, _, hs, fun v hv hi => ?_⟩
  rcases List.mem_append.mp hv with hv | hv
  · obtain ⟨k, -, hlt, hk⟩ := exists_index_of_mem_visitsFrom hv
    have := Place.index_eq hi hk
    have := List.length_take_le i owner.elements
    omega
  · obtain ⟨k, hle, -, hk⟩ := exists_index_of_mem_visitsFrom hv
    have := Place.index_eq hi hk
    omega

/-- The visits inside an owner are one stretch of those of the container around it, and no others
are inside of it. -/
theorem Owner.visits_eq_append_inside {owner : Owner} {v : Visit} (h : owner.Meets v) :
    ∃ before after, owner.visits = before ++ v.owner.visits ++ after ∧
      ∀ w ∈ before ++ after, ¬ Place.Inside w.placed.place v.owner.place := by
  induction h with
  | own h => exact ⟨[], [], by simp, by simp⟩
  | @inner owner i e v h inside ih =>
    obtain ⟨before, after, hs, outside⟩ := Owner.visits_eq_append_of_getElem? h
    obtain ⟨before', after', hs', outside'⟩ := ih
    have below := inside.suffix.1
    have around : ∀ w ∈ before ++ after, ¬ Place.Inside w.placed.place v.owner.place := by
      rintro w hw ⟨k, hk⟩
      exact outside w hw ((below.trans (List.suffix_cons k _)).trans hk)
    -- the place of the owner leads on from the element that the owner is or is inside of
    have itself : ¬ Place.Inside (i :: owner.place) v.owner.place := by
      rintro ⟨k, hk⟩
      have hlen := hk.length_le
      have hbelow := below.length_le
      simp only [Owner.ofPlaced, Owner.placed, List.length_cons] at hlen hbelow
      omega
    refine ⟨before ++ ⟨owner, owner.placed i e⟩ :: before', after' ++ after, ?_, fun w hw => ?_⟩
    · rw [hs, FlowElement.visits_eq, hs']
      simp
    · simp only [List.mem_append, List.mem_cons] at hw
      rcases hw with (hw | rfl | hw) | hw | hw
      · exact around w (List.mem_append_left _ hw)
      · exact itself
      · exact outside' w (List.mem_append_left _ hw)
      · exact outside' w (List.mem_append_right _ hw)
      · exact around w (List.mem_append_right _ hw)

end BpmnAudit
