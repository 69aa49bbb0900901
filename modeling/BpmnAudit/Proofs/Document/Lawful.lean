import BpmnAudit.Proofs.Document.Parts
import BpmnAudit.Proofs.Json.Depth
import BpmnAudit.Proofs.Json.Scan

/-!
# Lawful layouts

A field is lawful if what is written is read back, has no numbers, and is nested no deeper than
what was read. The last of these fails at even depths for some fields, so it is asked for at odd
ones only (`Field.Lawful`); flat fields have it at every depth (`Field.Flat`).

A layout of lawful fields inherits all three (`Codec.Lawful.read_write`,
`Codec.Lawful.numberless_write`, `Codec.Lawful.depth_write_le`), and so does a form of such a layout
(`Form.Lawful`).
-/

namespace BpmnAudit

/-! ## Laws of fields -/

namespace Field

variable {α : Type}

/-- A field is never written deeper than it was read, up to a depth. -/
structure Keeps (n : Nat) (f : Field α) : Prop where
  read : ∀ v a, f.read v = .ok a → v.depth ≤ n → (f.write a).depth ≤ n
  absent : ∀ a, f.absent = some a → (f.write a).depth ≤ n

/-- What is written as the value of a field is read back and has no numbers. It is nested as deeply
as what was read, except that an odd depth may be reached. -/
structure Lawful (f : Field α) : Prop where
  read_write : ∀ a, f.read (f.write a) = .ok a
  numberless : ∀ a, (f.write a).Numberless
  keeps : ∀ m, f.Keeps (2 * m + 1)

/-- A lawful field that is nested as deeply as what was read, whatever the depth. -/
structure Flat (f : Field α) : Prop where
  read_write : ∀ a, f.read (f.write a) = .ok a
  numberless : ∀ a, (f.write a).Numberless
  keeps : ∀ n, f.Keeps n

theorem Flat.lawful {f : Field α} (h : f.Flat) : f.Lawful :=
  ⟨h.read_write, h.numberless, fun m => h.keeps (2 * m + 1)⟩

variable {f : Field α} {members : Json.Members} {a : α}

theorem get_of_write (hr : f.read (f.write a) = .ok a)
    (hm : Json.get? members f.name = some (f.write a)) : f.get members = .ok a := by
  unfold get
  rw [hm]
  exact Outcome.under_eq_ok.mpr hr

theorem Keeps.depth_of_get {n : Nat} (h : f.Keeps n) (hg : f.get members = .ok a)
    (hm : ∀ m ∈ members, m.2.depth ≤ n) : (f.write a).depth ≤ n := by
  unfold get at hg
  split at hg
  · next v hv =>
    have mem := Json.mem_of_get?_eq_some hv
    exact h.read v a (Outcome.under_eq_ok.mp hg) (hm _ mem)
  · split at hg
    · next b hb =>
      obtain rfl := Except.ok.inj hg
      exact h.absent _ hb
    · cases hg

end Field

/-! ## Laws of layouts -/

namespace Codec

variable {χ ω α : Type}

/-- Written parts are read back from every object that has them as its last members. -/
theorem reads_writeParts {c : Codec χ ω α} (hc : c.All Field.Lawful) {members : Json.Members}
    {children : Json} {owned : Outcome χ} {parts : c.Parts}
    (hm : ∀ m ∈ c.writeParts children parts, Json.get? members m.1 = some m.2)
    (ho : ∀ own ∈ c.own parts, owned = .ok own) : c.Reads members owned parts := by
  induction c with
  | pure a => trivial
  | field f get =>
    exact Field.get_of_write (hc.read_write parts) (hm _ (List.mem_singleton_self _))
  | children get => exact ho parts (List.mem_singleton_self _)
  | ap head last ihHead ihLast =>
    refine ⟨ihHead hc.1 (fun m h => hm m ?_) (fun own h => ho own ?_),
      ihLast hc.2 (fun m h => hm m ?_) (fun own h => ho own ?_)⟩
    · exact List.mem_append_left _ h
    · exact List.mem_append_left _ h
    · exact List.mem_append_right _ h
    · exact List.mem_append_right _ h

theorem numberless_writeParts {c : Codec χ ω α} (hc : c.All Field.Lawful) {children : Json}
    (hn : children.Numberless) (parts : c.Parts) :
    ∀ m ∈ c.writeParts children parts, m.2.Numberless := by
  induction c with
  | pure a => exact nofun
  | field f get =>
    intro m hm
    rw [List.mem_singleton.mp hm]
    exact hc.numberless parts
  | children get =>
    intro m hm
    rw [List.mem_singleton.mp hm]
    exact hn
  | ap head last ihHead ihLast =>
    exact List.forall_mem_append.mpr ⟨ihHead hc.1 parts.1, ihLast hc.2 parts.2⟩

theorem depth_writeParts_le {c : Codec χ ω α} {n : Nat} (hc : c.All (Field.Keeps n))
    {members : Json.Members} {owned : Outcome χ} {parts : c.Parts}
    (hr : c.Reads members owned parts) (hm : ∀ m ∈ members, m.2.depth ≤ n) {children : Json}
    (hd : children.depth ≤ n) : ∀ m ∈ c.writeParts children parts, m.2.depth ≤ n := by
  induction c with
  | pure a => exact nofun
  | field f get =>
    intro m h
    rw [List.mem_singleton.mp h]
    exact Field.Keeps.depth_of_get hc hr hm
  | children get =>
    intro m h
    rw [List.mem_singleton.mp h]
    exact hd
  | ap head last ihHead ihLast =>
    exact List.forall_mem_append.mpr ⟨ihHead hc.1 hr.1, ihLast hc.2 hr.2⟩

/-! ## Layouts of wholes -/

/-- A layout of lawful fields, each under a name of its own, whose wholes are made up of their parts
and nothing else. -/
structure Lawful (c : Codec χ ω ω) : Prop where
  fields : c.All Field.Lawful
  nodup : c.names.Nodup
  rebuild_eq : ∀ whole, c.rebuild whole = whole
  split_combine : ∀ parts, c.split (c.combine parts) = parts

namespace Lawful

variable {c : Codec χ ω ω} {whole : ω} {children : Json} {owned : Outcome χ}
  {members : Json.Members}

theorem get?_write (hc : c.Lawful) {key : String} {value : Json}
    (h : (key, value) ∈ c.write whole children) :
    Json.get? (c.write whole children) key = some value := by
  refine Json.get?_eq_some_of_mem ?_ h
  rw [write_eq, map_fst_writeParts]
  exact hc.nodup

theorem own_eq_singleton (hc : c.Lawful) {parts : c.Parts} {own : χ} (h : own ∈ c.own parts) :
    c.own parts = [own] := by
  have hle : (c.own parts).length ≤ 1 :=
    Nat.le_trans (length_own_le c parts) (List.nodup_iff_count.mp hc.nodup childrenName)
  rcases hs : c.own parts with _ | ⟨first, _ | ⟨second, rest⟩⟩
  · rw [hs] at h
    cases h
  · rw [hs] at h
    rw [List.mem_singleton.mp h]
  · rw [hs, List.length_cons, List.length_cons] at hle
    omega

/-- What is written is read back, if what is owned is. -/
theorem read_write (hc : c.Lawful) (ho : ∀ own ∈ c.own (c.split whole), owned = .ok own) :
    c.read (c.write whole children) owned = .ok whole := by
  have found : ∀ m ∈ c.writeParts children (c.split whole),
      Json.get? (c.write whole children) m.1 = some m.2 := by
    rw [← write_eq]
    exact fun m hm => hc.get?_write hm
  refine read_eq_ok_iff.mpr ⟨c.split whole, reads_writeParts hc.fields found ho, ?_⟩
  rw [combine_split, hc.rebuild_eq]

theorem numberless_write (hc : c.Lawful) (hn : children.Numberless) :
    (Json.object (c.write whole children)).Numberless := by
  rw [write_eq, Json.numberless_object]
  exact numberless_writeParts hc.fields hn (c.split whole)

theorem owned_of_read (hc : c.Lawful) (h : c.read members owned = .ok whole) :
    ∀ own ∈ c.own (c.split whole), owned = .ok own := by
  obtain ⟨parts, hr, rfl⟩ := read_eq_ok_iff.mp h
  rw [hc.split_combine]
  exact hr.owned

/-- A whole is written no deeper than it was read, if its fields and what it owns are. -/
theorem depth_write_le (hc : c.Lawful) {n : Nat} (hf : c.All (Field.Keeps n))
    (h : c.read members owned = .ok whole) (hm : (Json.object members).depth ≤ n + 1)
    (hd : children.depth ≤ n) : (Json.object (c.write whole children)).depth ≤ n + 1 := by
  obtain ⟨parts, hr, rfl⟩ := read_eq_ok_iff.mp h
  rw [write_eq, hc.split_combine, Json.depth_object_le]
  exact depth_writeParts_le hf hr (Json.depth_object_le.mp hm) hd

end Lawful

/-- What a whole owns as a value; null if it owns nothing. -/
def writeOwned (write : χ → Json) (c : Codec χ ω ω) (whole : ω) : Json :=
  ((c.own (c.split whole)).head?.map write).getD .null

theorem Lawful.get?_writeOwned {c : Codec χ ω ω} (hc : c.Lawful) {whole : ω} {own : χ}
    (h : own ∈ c.own (c.split whole)) (write : χ → Json) :
    Json.get? (c.write whole (c.writeOwned write whole)) childrenName = some (write own) := by
  have written : c.writeOwned write whole = write own := by
    rw [writeOwned, hc.own_eq_singleton h]
    rfl
  refine hc.get?_write ?_
  rw [written, write_eq]
  exact mem_writeParts_of_own h

end Codec

/-! ## Forms -/

namespace Form

variable {χ α : Type} {form : Form χ α} {writeChildren : χ → Json} {write : α → Json}
  {content : form.Content} {members : Json.Members} {owned : Outcome χ} {a : α}

theorem read_eq_ok :
    form.read members owned = .ok a ↔
      ∃ content, form.layout.read members owned = .ok content ∧ form.make content = a :=
  Outcome.map_eq_ok

/-- A form whose layout is lawful and gives how its elements are written. -/
structure Lawful (form : Form χ α) (writeChildren : χ → Json) (write : α → Json) : Prop where
  layout : form.layout.Lawful
  write_make : ∀ content, write (form.make content) =
    .object (form.layout.write content (form.layout.writeOwned writeChildren content))

namespace Lawful

/-- What is written is read back, if what is owned is. -/
theorem read_write (h : form.Lawful writeChildren write) {children : Json}
    (ho : ∀ own ∈ form.layout.own (form.layout.split content), owned = .ok own) :
    form.read (form.layout.write content children) owned = .ok (form.make content) :=
  read_eq_ok.mpr ⟨content, h.layout.read_write ho, rfl⟩

theorem numberless (h : form.Lawful writeChildren write)
    (hn : ∀ own ∈ form.layout.own (form.layout.split content), (writeChildren own).Numberless) :
    (write (form.make content)).Numberless := by
  rw [h.write_make]
  refine h.layout.numberless_write ?_
  rw [Codec.writeOwned]
  cases hs : form.layout.own (form.layout.split content) with
  | nil => trivial
  | cons own rest => exact hn own (hs ▸ List.mem_cons_self ..)

/-- An element is written no deeper than it was read, up to even depths, if what it owns is. -/
theorem depth_le (h : form.Lawful writeChildren write) {m : Nat}
    (hr : form.read members owned = .ok a) (hm : (Json.object members).depth ≤ 2 * m + 2)
    (hd : ∀ own, owned = .ok own → (writeChildren own).depth ≤ 2 * m + 1) :
    (write a).depth ≤ 2 * m + 2 := by
  obtain ⟨content, hc, rfl⟩ := read_eq_ok.mp hr
  rw [h.write_make]
  refine h.layout.depth_write_le (h.layout.fields.imp fun hf => hf.keeps m) hc hm ?_
  rw [Codec.writeOwned]
  cases hs : form.layout.own (form.layout.split content) with
  | nil => exact Nat.zero_le _
  | cons own rest => exact hd own (h.layout.owned_of_read hc own (hs ▸ List.mem_cons_self ..))

end Lawful

end Form

/-! ## Tags -/

section Tagged

variable {κ α : Type} {field : String} {tags : List String} {ofTag? : String → Option κ}
  {read : κ → Outcome α} {members : Json.Members} {a : α}

theorem readTagged_eq_ok :
    readTagged field tags ofTag? read members = .ok a ↔
      ∃ tag kind, Json.get? members field = some (.text tag) ∧ ofTag? tag = some kind ∧
        read kind = .ok a := by
  constructor
  · intro h
    unfold readTagged at h
    split at h
    · cases h
    · next tag htag =>
      split at h
      · next kind hkind => exact ⟨tag, kind, htag, hkind, Outcome.under_eq_ok.mp h⟩
      · cases h
    · cases h
  · rintro ⟨tag, kind, htag, hkind, h⟩
    simp only [readTagged, htag, hkind]
    exact Outcome.under_eq_ok.mpr h

/-- An object that is read by its tag is read as one kind. As there is a tag, it is not empty. -/
theorem exists_kind_of_readTagged {m : Nat}
    (h : readTagged field tags ofTag? read members = .ok a)
    (hv : (Json.object members).depth ≤ 2 * m) :
    ∃ kind k, m = k + 1 ∧ read kind = .ok a := by
  obtain ⟨tag, kind, htag, -, hread⟩ := readTagged_eq_ok.mp h
  have hpos : 0 < (Json.object members).depth := by
    refine Json.depth_object_pos ?_
    rintro rfl
    cases htag
  exact ⟨kind, m - 1, by omega, hread⟩

end Tagged

end BpmnAudit
