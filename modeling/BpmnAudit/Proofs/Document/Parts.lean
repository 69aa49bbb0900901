import BpmnAudit.Document.Codec
import BpmnAudit.Proofs.Keys

/-!
# Layouts by their parts

A layout takes a whole apart into the values of its fields (`Codec.split`) and puts such values
together to a whole (`Codec.combine`). Reading finds the parts one by one and puts them together
(`Codec.read_eq_ok_iff`), writing takes the whole apart and writes the parts (`Codec.write_eq`). So
what holds of every field holds of every layout of such fields.
-/

namespace BpmnAudit

/-! ## Outcomes -/

namespace Outcome

variable {α β : Type}

theorem ap_eq_ok {f : Outcome (α → β)} {o : Outcome α} {b : β} :
    f.ap o = .ok b ↔ ∃ g a, f = .ok g ∧ o = .ok a ∧ g a = b := by
  cases f <;> cases o <;> simp [ap]

theorem under_eq_ok {step : Step} {o : Outcome α} {a : α} : o.under step = .ok a ↔ o = .ok a := by
  cases o <;> simp [under]

theorem map_eq_ok {f : α → β} {o : Outcome α} {b : β} :
    o.map f = .ok b ↔ ∃ a, o = .ok a ∧ f a = b := by
  cases o <;> simp [Except.map]

theorem collect_eq_ok {i : Nat} {os : List (Outcome α)} {as : List α} :
    collect i os = .ok as ↔ os = as.map .ok := by
  induction os generalizing i as with
  | nil => cases as <;> simp [collect]
  | cons o os ih =>
    rw [collect, ap_eq_ok]
    constructor
    · rintro ⟨g, rest, hg, hrest, rfl⟩
      obtain ⟨a, ha, rfl⟩ := map_eq_ok.mp hg
      rw [under_eq_ok.mp ha, ih.mp hrest]
      rfl
    · intro h
      cases as with
      | nil => cases h
      | cons a as =>
        obtain ⟨rfl, hos⟩ := List.cons.inj h
        exact ⟨_, as, rfl, ih.mpr hos, rfl⟩

end Outcome

/-! ## Look-up -/

theorem Json.get?_eq_some_of_mem {members : Json.Members} (h : (members.map Prod.fst).Nodup)
    {key : String} {value : Json} (hm : (key, value) ∈ members) :
    Json.get? members key = some value := by
  apply lookup_eq_some_of_mem
  · rw [List.map_reverse]
    exact List.pairwise_reverse.mpr (h.imp Ne.symm)
  · exact List.mem_reverse.mpr hm

theorem Json.mem_of_get?_eq_some {members : Json.Members} {key : String} {value : Json}
    (h : Json.get? members key = some value) : (key, value) ∈ members := by
  obtain ⟨before, after, hs, -⟩ := List.lookup_eq_some_iff.mp h
  rw [← List.mem_reverse, hs]
  simp

theorem Json.get?_eq_none_iff {members : Json.Members} {key : String} :
    Json.get? members key = none ↔ key ∉ members.map Prod.fst := by
  constructor
  · intro h hk
    obtain ⟨m, hm, rfl⟩ := List.mem_map.mp hk
    have differs := List.lookup_eq_none_iff.mp h m (List.mem_reverse.mpr hm)
    exact bne_iff_ne.mp differs rfl
  · intro h
    apply lookup_eq_none_of_not_mem
    rwa [List.map_reverse, List.mem_reverse]

/-! ## Parts -/

namespace Codec

variable {χ ω : Type}

/-- The values of the fields of a layout. -/
def Parts : {α : Type} → Codec χ ω α → Type
  | _, .pure _ => Unit
  | α, .field _ _ => α
  | _, .children _ => χ
  | _, .ap head last => head.Parts × last.Parts

def combine : {α : Type} → (c : Codec χ ω α) → c.Parts → α
  | _, .pure a, _ => a
  | _, .field _ _, part => part
  | _, .children _, part => part
  | _, .ap head last, parts => head.combine parts.1 (last.combine parts.2)

def split (whole : ω) : {α : Type} → (c : Codec χ ω α) → c.Parts
  | _, .pure _ => ()
  | _, .field _ get => get whole
  | _, .children get => get whole
  | _, .ap head last => (head.split whole, last.split whole)

/-- What is owned among parts. -/
def own : {α : Type} → (c : Codec χ ω α) → c.Parts → List χ
  | _, .pure _, _ => []
  | _, .field _ _, _ => []
  | _, .children _, part => [part]
  | _, .ap head last, parts => head.own parts.1 ++ last.own parts.2

/-- Parts as the members of an object, given how what is owned is written. -/
def writeParts (children : Json) : {α : Type} → (c : Codec χ ω α) → c.Parts → Json.Members
  | _, .pure _, _ => []
  | _, .field f _, part => [(f.name, f.write part)]
  | _, .children _, _ => [(childrenName, children)]
  | _, .ap head last, parts =>
    head.writeParts children parts.1 ++ last.writeParts children parts.2

/-- The parts are those of an object, given what it owns. -/
def Reads (members : Json.Members) (children : Outcome χ) :
    {α : Type} → (c : Codec χ ω α) → c.Parts → Prop
  | _, .pure _, _ => True
  | _, .field f _, part => f.get members = .ok part
  | _, .children _, part => children = .ok part
  | _, .ap head last, parts =>
    head.Reads members children parts.1 ∧ last.Reads members children parts.2

/-- Something that holds of every field of a layout. -/
def All (P : {α : Type} → Field α → Prop) : {α : Type} → Codec χ ω α → Prop
  | _, .pure _ => True
  | _, .field f _ => P f
  | _, .children _ => True
  | _, .ap head last => head.All P ∧ last.All P

/-- Something that holds of one of the fields of a layout. -/
def Any (P : {α : Type} → Field α → Prop) : {α : Type} → Codec χ ω α → Prop
  | _, .pure _ => False
  | _, .field f _ => P f
  | _, .children _ => False
  | _, .ap head last => head.Any P ∨ last.Any P

/-- One of the fields of a layout writes the same value for every whole. -/
def Writes (key : String) (value : Json) : {α : Type} → Codec χ ω α → Prop
  | _, .pure _ => False
  | _, .field f _ => f.name = key ∧ ∀ a, f.write a = value
  | _, .children _ => False
  | _, .ap head last => head.Writes key value ∨ last.Writes key value

section Simp

variable {α β : Type} {P : {α : Type} → Field α → Prop} {key : String} {value : Json}

@[simp] theorem all_map (f : α → β) (c : Codec χ ω α) : (f <$> c).All P ↔ c.All P :=
  iff_of_eq (true_and _)

@[simp] theorem all_seq (head : Codec χ ω (α → β)) (last : Codec χ ω α) :
    (head <*> last).All P ↔ head.All P ∧ last.All P :=
  Iff.rfl

@[simp] theorem all_field (f : Field α) (get : ω → α) : (field (χ := χ) f get).All P ↔ P f :=
  Iff.rfl

@[simp] theorem all_children (get : ω → χ) : (children get).All P :=
  trivial

@[simp] theorem any_map (f : α → β) (c : Codec χ ω α) : (f <$> c).Any P ↔ c.Any P :=
  iff_of_eq (false_or _)

@[simp] theorem any_seq (head : Codec χ ω (α → β)) (last : Codec χ ω α) :
    (head <*> last).Any P ↔ head.Any P ∨ last.Any P :=
  Iff.rfl

@[simp] theorem any_field (f : Field α) (get : ω → α) : (field (χ := χ) f get).Any P ↔ P f :=
  Iff.rfl

@[simp] theorem writes_map (f : α → β) (c : Codec χ ω α) :
    (f <$> c).Writes key value ↔ c.Writes key value :=
  iff_of_eq (false_or _)

@[simp] theorem writes_seq (head : Codec χ ω (α → β)) (last : Codec χ ω α) :
    (head <*> last).Writes key value ↔ head.Writes key value ∨ last.Writes key value :=
  Iff.rfl

end Simp

variable {α : Type}

theorem combine_split (c : Codec χ ω α) (whole : ω) :
    c.combine (c.split whole) = c.rebuild whole := by
  induction c with
  | ap head last ihHead ihLast => simp only [combine, split, rebuild, ihHead, ihLast]
  | _ => rfl

theorem write_eq (c : Codec χ ω α) (whole : ω) (children : Json) :
    c.write whole children = c.writeParts children (c.split whole) := by
  induction c with
  | ap head last ihHead ihLast => simp only [write, writeParts, split, ihHead, ihLast]
  | _ => rfl

theorem map_fst_writeParts (c : Codec χ ω α) (children : Json) (parts : c.Parts) :
    (c.writeParts children parts).map Prod.fst = c.names := by
  induction c with
  | ap head last ihHead ihLast =>
    simp only [writeParts, names, List.map_append, ihHead, ihLast]
  | _ => rfl

/-- Reading finds the parts and puts them together. -/
theorem read_eq_ok_iff {c : Codec χ ω α} {members : Json.Members} {children : Outcome χ} {a : α} :
    c.read members children = .ok a ↔
      ∃ parts, c.Reads members children parts ∧ c.combine parts = a := by
  induction c with
  | pure a => simp [read, Reads, combine, Parts]
  | field f get => simp [read, Reads, combine, Parts]
  | children get => simp [read, Reads, combine, Parts]
  | ap head last ihHead ihLast =>
    rw [read, Outcome.ap_eq_ok]
    constructor
    · rintro ⟨g, b, hg, hb, rfl⟩
      obtain ⟨first, hfirst, rfl⟩ := ihHead.mp hg
      obtain ⟨second, hsecond, rfl⟩ := ihLast.mp hb
      exact ⟨(first, second), ⟨hfirst, hsecond⟩, rfl⟩
    · rintro ⟨⟨first, second⟩, ⟨hfirst, hsecond⟩, rfl⟩
      exact ⟨_, _, ihHead.mpr ⟨first, hfirst, rfl⟩, ihLast.mpr ⟨second, hsecond, rfl⟩, rfl⟩

theorem Writes.mem_write {c : Codec χ ω α} {key : String} {value : Json} (h : c.Writes key value)
    (whole : ω) (children : Json) : (key, value) ∈ c.write whole children := by
  induction c with
  | pure a => exact h.elim
  | field f get =>
    rw [write, ← h.1, ← h.2 (get whole)]
    exact List.mem_singleton_self _
  | children get => exact h.elim
  | ap head last ihHead ihLast =>
    rcases h with h | h
    · exact List.mem_append_left _ (ihHead h)
    · exact List.mem_append_right _ (ihLast h)

theorem mem_writeParts_of_own {c : Codec χ ω α} {children : Json} {parts : c.Parts} {own : χ}
    (h : own ∈ c.own parts) : (childrenName, children) ∈ c.writeParts children parts := by
  induction c with
  | pure a => cases h
  | field f get => cases h
  | children get => exact List.mem_singleton_self _
  | ap head last ihHead ihLast =>
    rcases List.mem_append.mp h with h | h
    · exact List.mem_append_left _ (ihHead h)
    · exact List.mem_append_right _ (ihLast h)

/-- A layout owns as often as it names what it owns, at most. -/
theorem length_own_le (c : Codec χ ω α) (parts : c.Parts) :
    (c.own parts).length ≤ c.names.count childrenName := by
  induction c with
  | pure a => exact Nat.zero_le _
  | field f get => exact Nat.zero_le _
  | children get => exact Nat.le_refl 1
  | ap head last ihHead ihLast =>
    rw [own, names, List.length_append, List.count_append]
    exact Nat.add_le_add (ihHead parts.1) (ihLast parts.2)

theorem own_eq_nil {c : Codec χ ω α} (h : childrenName ∉ c.names) (parts : c.Parts) :
    c.own parts = [] := by
  have hle := length_own_le c parts
  rw [List.count_eq_zero.mpr h] at hle
  exact List.eq_nil_of_length_eq_zero (Nat.le_zero.mp hle)

theorem Reads.owned {c : Codec χ ω α} {members : Json.Members} {owned : Outcome χ}
    {parts : c.Parts} (h : c.Reads members owned parts) : ∀ own ∈ c.own parts, owned = .ok own := by
  induction c with
  | pure a => exact nofun
  | field f get => exact nofun
  | children get =>
    intro own ho
    rw [List.mem_singleton.mp ho]
    exact h
  | ap head last ihHead ihLast =>
    exact List.forall_mem_append.mpr ⟨ihHead h.1, ihLast h.2⟩

theorem All.and {P Q : {α : Type} → Field α → Prop} {c : Codec χ ω α} (hp : c.All P)
    (hq : c.All Q) : c.All fun f => P f ∧ Q f := by
  induction c with
  | pure a => trivial
  | field f get => exact ⟨hp, hq⟩
  | children get => trivial
  | ap head last ihHead ihLast => exact ⟨ihHead hp.1 hq.1, ihLast hp.2 hq.2⟩

theorem All.imp {P Q : {α : Type} → Field α → Prop} {c : Codec χ ω α}
    (h : ∀ {α : Type} {f : Field α}, P f → Q f) (hc : c.All P) : c.All Q := by
  induction c with
  | pure a => trivial
  | field f get => exact h hc
  | children get => trivial
  | ap head last ihHead ihLast => exact ⟨ihHead hc.1, ihLast hc.2⟩

end Codec

end BpmnAudit
