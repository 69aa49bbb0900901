import BpmnAudit.Proofs.Document.Lawful

/-!
# Fields by sort

What is written as a field is read back, for each sort of field. A text, a truth value or a word is
nested in nothing. A list is written as deeply as it was read if its items are
(`Field.keeps_list`). An optional object may be one level deeper: `{}` is read as an object whose
fields are all absent, and these are written (`Field.lawful_optionalObject`).
-/

namespace BpmnAudit

/-! ## Attributes -/

theorem Attributes.ofList_entries (a : Attributes) : Attributes.ofList a.entries = a := by
  have again : putKeys [] a.entries = a.entries := putKeys_eq_append a.nodup
  obtain ⟨entries, nodup⟩ := a
  unfold ofList
  congr

theorem readEntries_writeAttributes (entries : List (String × String)) :
    readAttributes.readEntries (entries.map fun (name, value) => (name, .text value)) =
      .ok entries := by
  induction entries with
  | nil => rfl
  | cons entry entries ih => rw [List.map_cons, readAttributes.readEntries, ih]; rfl

theorem readAttributes_writeAttributes (a : Attributes) :
    readAttributes (writeAttributes a) = .ok a := by
  rw [writeAttributes, readAttributes, readEntries_writeAttributes]
  exact congrArg Except.ok a.ofList_entries

theorem numberless_writeAttributes (a : Attributes) : (writeAttributes a).Numberless := by
  rw [writeAttributes, Json.numberless_object]
  intro m hm
  obtain ⟨entry, -, rfl⟩ := List.mem_map.mp hm
  trivial

theorem depth_writeAttributes_le (a : Attributes) (n : Nat) :
    (writeAttributes a).depth ≤ n + 1 := by
  rw [writeAttributes, Json.depth_object_le]
  intro m hm
  obtain ⟨entry, -, rfl⟩ := List.mem_map.mp hm
  exact Nat.zero_le n

/-- Attributes are written no deeper than they were read: without any of them, as `{}`. -/
theorem depth_writeAttributes_of_read {v : Json} {a : Attributes} {n : Nat}
    (h : readAttributes v = .ok a) (hd : v.depth ≤ n) : (writeAttributes a).depth ≤ n := by
  cases n with
  | succ n => exact depth_writeAttributes_le a n
  | zero =>
    cases v with
    | object members =>
      cases members with
      | nil =>
        obtain rfl : Attributes.ofList [] = a := Except.ok.inj h
        exact Nat.le_refl 0
      | cons m members =>
        have := Json.depth_object_pos (List.cons_ne_nil m members)
        omega
    | _ => cases h

namespace Field

variable {α : Type}

/-! ## Texts, truth values and words -/

theorem Flat.of_scalar {f : Field α} (hr : ∀ a, f.read (f.write a) = .ok a)
    (hn : ∀ a, (f.write a).Numberless) (hd : ∀ a, (f.write a).depth = 0) : f.Flat where
  read_write := hr
  numberless := hn
  keeps n := by
    constructor
    · intro v a _ _
      rw [hd a]
      exact Nat.zero_le n
    · intro a _
      rw [hd a]
      exact Nat.zero_le n

theorem flat_optionalText (name : String) : (optionalText name).Flat := by
  apply Flat.of_scalar
  · rintro (_ | s) <;> rfl
  · rintro (_ | s) <;> trivial
  · rintro (_ | s) <;> rfl

theorem flat_text (name default : String) : (text name default).Flat :=
  .of_scalar (fun _ => rfl) (fun _ => trivial) fun _ => rfl

theorem flat_flag (name : String) (default : Bool) : (flag name default).Flat :=
  .of_scalar (fun _ => rfl) (fun _ => trivial) fun _ => rfl

theorem flat_constant (name word : String) : (constant name word).Flat := by
  apply Flat.of_scalar
  · intro _
    show (if word = word then Except.ok () else _) = _
    rw [if_pos rfl]
  · exact fun _ => trivial
  · exact fun _ => rfl

variable {name : String} {words : List String} {ofWord? : String → Option α} {toWord : α → String}

theorem flat_word (h : ∀ a, ofWord? (toWord a) = some a) (default : Option α) :
    (word name words ofWord? toWord default).Flat := by
  apply Flat.of_scalar
  · intro a
    show readWord words ofWord? (.text (toWord a)) = .ok a
    rw [readWord, h]
  · exact fun _ => trivial
  · exact fun _ => rfl

theorem flat_optionalWord (h : ∀ a, ofWord? (toWord a) = some a) :
    (optionalWord name words ofWord? toWord).Flat := by
  apply Flat.of_scalar
  · rintro (_ | a)
    · rfl
    · show (readWord words ofWord? (.text (toWord a))).map some = .ok (some a)
      rw [readWord, h]
      rfl
  · rintro (_ | a) <;> trivial
  · rintro (_ | a) <;> rfl

/-! ## Lists -/

/-- A list of items that are each read and written alike. -/
def list (name : String) (read : Json → Outcome α) (write : α → Json) : Field (List α) :=
  ⟨name, readList read, fun as => .array (as.map write), some []⟩

variable {read : Json → Outcome α} {write : α → Json}

theorem readList_eq_ok {v : Json} {as : List α} :
    readList read v = .ok as ↔ ∃ items, v = .array items ∧ items.map read = as.map .ok := by
  constructor
  · intro h
    cases v with
    | array items => exact ⟨items, rfl, Outcome.collect_eq_ok.mp h⟩
    | _ => cases h
  · rintro ⟨items, rfl, h⟩
    exact Outcome.collect_eq_ok.mpr h

theorem read_write_list {as : List α} (h : ∀ a ∈ as, read (write a) = .ok a) :
    (list name read write).read ((list name read write).write as) = .ok as := by
  refine readList_eq_ok.mpr ⟨as.map write, rfl, ?_⟩
  rw [List.map_map]
  exact List.map_congr_left h

theorem numberless_list {as : List α} (h : ∀ a ∈ as, (write a).Numberless) :
    ((list name read write).write as).Numberless := by
  apply Json.numberless_array.mpr
  intro item hi
  obtain ⟨a, ha, rfl⟩ := List.mem_map.mp hi
  exact h a ha

/-- A list is written no deeper than it was read if its items are. -/
theorem keeps_list {n : Nat} (h : ∀ v a, read v = .ok a → v.depth ≤ n → (write a).depth ≤ n) :
    (list name read write).Keeps (n + 1) := by
  constructor
  · intro v as hv hd
    obtain ⟨items, rfl, hmap⟩ := readList_eq_ok.mp hv
    apply Json.depth_array_le.mpr
    intro item hi
    obtain ⟨a, ha, rfl⟩ := List.mem_map.mp hi
    have mem : (.ok a : Outcome α) ∈ items.map read := by
      rw [hmap]
      exact List.mem_map_of_mem ha
    obtain ⟨v, hv, hread⟩ := List.mem_map.mp mem
    exact h v a hread (Json.depth_array_le.mp hd v hv)
  · intro as has
    obtain rfl : [] = as := Option.some.inj has
    exact Nat.zero_le _

theorem keeps_list_zero : (list name read write).Keeps 0 := by
  constructor
  · intro v as hv hd
    obtain ⟨items, rfl, hmap⟩ := readList_eq_ok.mp hv
    cases items with
    | nil =>
      rw [List.map_nil, eq_comm, List.map_eq_nil_iff] at hmap
      rw [hmap]
      exact Nat.le_refl 0
    | cons item items =>
      have := Json.depth_array_pos (List.cons_ne_nil item items)
      omega
  · intro as has
    obtain rfl : [] = as := Option.some.inj has
    exact Nat.le_refl 0

theorem flat_list (hr : ∀ a, read (write a) = .ok a) (hn : ∀ a, (write a).Numberless)
    (hd : ∀ n v a, read v = .ok a → v.depth ≤ n → (write a).depth ≤ n) :
    (list name read write).Flat where
  read_write _ := read_write_list fun a _ => hr a
  numberless _ := numberless_list fun a _ => hn a
  keeps
    | 0 => keeps_list_zero
    | n + 1 => keeps_list (hd n)

theorem lawful_list (hr : ∀ a, read (write a) = .ok a) (hn : ∀ a, (write a).Numberless)
    (hd : ∀ m v a, read v = .ok a → v.depth ≤ 2 * m → (write a).depth ≤ 2 * m) :
    (list name read write).Lawful where
  read_write _ := read_write_list fun a _ => hr a
  numberless _ := numberless_list fun a _ => hn a
  keeps m := keeps_list (hd m)

theorem flat_texts (name : String) : (texts name).Flat :=
  flat_list (fun _ => rfl) (fun _ => trivial) fun n _ _ _ _ => Nat.zero_le n

theorem flat_attributes (name : String) : (attributes name).Flat where
  read_write := readAttributes_writeAttributes
  numberless := numberless_writeAttributes
  keeps n := by
    constructor
    · exact fun v a => depth_writeAttributes_of_read
    · intro a ha
      obtain rfl : {} = a := Option.some.inj ha
      exact Nat.zero_le n

theorem flat_blocks (name : String) : (blocks name).Flat :=
  flat_list readAttributes_writeAttributes numberless_writeAttributes
    fun _ _ _ hv hd => depth_writeAttributes_of_read hv hd

/-! ## Objects -/

/-- An optional object of flat fields is written no deeper than it was read, but for one that was
read from `{}`: it is written one level deep. -/
theorem lawful_optionalObject {layout : Codec Unit α α} (hc : layout.Lawful)
    (hf : layout.All Flat) (name : String) : (optionalObject name layout).Lawful where
  read_write
    | none => rfl
    | some a => by
      show (layout.read (layout.write a .null) (.ok ())).map some = .ok (some a)
      rw [hc.read_write fun _ _ => rfl]
      rfl
  numberless
    | none => trivial
    | some a => hc.numberless_write trivial
  keeps m := by
    constructor
    · intro v o hv hd
      cases o with
      | none => exact Nat.zero_le _
      | some a =>
        cases v with
        | object members =>
          have hr : (layout.read members (.ok ())).map some = .ok (some a) := hv
          obtain ⟨b, hb, hba⟩ := Outcome.map_eq_ok.mp hr
          obtain rfl := Option.some.inj hba
          have flat : layout.All (Keeps (2 * m)) := hf.imp fun h => h.keeps (2 * m)
          exact hc.depth_write_le flat hb hd (Nat.zero_le _)
        | _ => cases hv
    · intro o ho
      obtain rfl : none = o := Option.some.inj ho
      exact Nat.zero_le _

end Field

end BpmnAudit
