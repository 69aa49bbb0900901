import BpmnAudit.Proofs.Text.Blank

/-!
# Names and their grammar

An NCName of the namespaces of XML is a character that may open a name and characters that may
follow in one, both given by intervals of code points (`NcName`). The test of ids goes by word
characters instead, and comes apart from the grammar both ways.

1. Of the texts that pass the test, those with a stray character are no names of the grammar, and
   there are no others (`ncName_iff_of_isNcName`): raised digits, fractions, enclosed numbers.
2. Of the names of the grammar, those that are made of word characters, full stops and hyphens and
   do not open with a digit pass the test, and no others (`isNcName_iff_of_ncName`).

So it is known of which texts the test says what the grammar says; texts without characters from
U+00AA on are among them (`isNcName_iff_ncName_iff`). Unlike the grammar, which has the ogham space
mark, the test lets no white space through (`hasSpace_of_isNcName`).
-/

namespace BpmnAudit.Text

/-! ## The grammar -/

/-- The characters that may open a name. -/
def openingRanges : List (Nat × Nat) :=
  [(0x41, 0x5a), (0x5f, 0x5f), (0x61, 0x7a), (0xc0, 0xd6), (0xd8, 0xf6), (0xf8, 0x2ff),
   (0x370, 0x37d), (0x37f, 0x1fff), (0x200c, 0x200d), (0x2070, 0x218f), (0x2c00, 0x2fef),
   (0x3001, 0xd7ff), (0xf900, 0xfdcf), (0xfdf0, 0xfffd), (0x10000, 0xeffff)]

/-- The characters that may follow in a name but not open it: hyphen, full stop, the ten digits, the
middle dot, combining diacritical marks and two ties. -/
def followingRanges : List (Nat × Nat) :=
  [(0x2d, 0x2e), (0x30, 0x39), (0xb7, 0xb7), (0x300, 0x36f), (0x203f, 0x2040)]

/-- A character lies in one of the intervals. -/
def Within (ranges : List (Nat × Nat)) (c : Char) : Prop :=
  ∃ range ∈ ranges, range.1 ≤ c.toNat ∧ c.toNat ≤ range.2

instance (ranges : List (Nat × Nat)) (c : Char) : Decidable (Within ranges c) :=
  List.decidableBEx (fun range : Nat × Nat => range.1 ≤ c.toNat ∧ c.toNat ≤ range.2) ranges

/-- A character may open a name. -/
def Opens (c : Char) : Prop := Within openingRanges c

instance (c : Char) : Decidable (Opens c) := inferInstanceAs (Decidable (Within _ _))

/-- A character may follow in a name. -/
def Follows (c : Char) : Prop := Within (openingRanges ++ followingRanges) c

instance (c : Char) : Decidable (Follows c) := inferInstanceAs (Decidable (Within _ _))

/-- The characters are those of a name: one that may open it, and others that may follow. -/
def NcNameChars : List Char → Prop
  | [] => False
  | c :: rest => Opens c ∧ ∀ d ∈ rest, Follows d

-- The characters are gone through one by one: there are too many to try them all.
instance : (cs : List Char) → Decidable (NcNameChars cs)
  | [] => .isFalse id
  | _ :: rest => @instDecidableAnd _ _ _ (List.decidableBAll Follows rest)

/-- A text is a name of the grammar. -/
def NcName (s : String) : Prop := NcNameChars s.toList

instance (s : String) : Decidable (NcName s) := inferInstanceAs (Decidable (NcNameChars _))

/-! ## The test -/

/-- Word characters for which the grammar has no place: ordinal indicators, the micro sign, raised
digits, fractions, and numbers in circles or brackets or with a full stop. -/
def strayRanges : List (Nat × Nat) :=
  [(0xaa, 0xaa), (0xb2, 0xb3), (0xb5, 0xb5), (0xb9, 0xba), (0xbc, 0xbe), (0x2460, 0x249b),
   (0x24ea, 0x24ff), (0x2776, 0x2793)]

/-- A word character for which the grammar has no place. -/
def Stray (c : Char) : Prop := Within strayRanges c

instance (c : Char) : Decidable (Stray c) := inferInstanceAs (Decidable (Within _ _))

def HasStray (s : String) : Prop := ∃ c ∈ s.toList, Stray c

instance (s : String) : Decidable (HasStray s) := List.decidableBEx Stray s.toList

/-- A text is made of word characters, full stops and hyphens, and does not open with a decimal
digit of any script. -/
def Worded (s : String) : Prop :=
  s.toList.head?.any isDigit = false ∧ ∀ c ∈ s.toList, isNamePart c = true

instance (s : String) : Decidable (Worded s) :=
  @instDecidableAnd _ _ _ (List.decidableBAll (isNamePart · = true) s.toList)

theorem isNcName_some_iff {s : String} :
    isNcName (some s) = true ↔
      ∃ c rest, s.toList = c :: rest ∧ isNameStart c = true ∧ ∀ d ∈ rest, isNamePart d = true := by
  show isNcNameChars s.toList = true ↔ _
  cases s.toList with
  | nil => simp [isNcNameChars]
  | cons c rest => simp [isNcNameChars, and_assoc]

theorem ncName_iff {s : String} :
    NcName s ↔ ∃ c rest, s.toList = c :: rest ∧ Opens c ∧ ∀ d ∈ rest, Follows d := by
  unfold NcName
  cases s.toList with
  | nil => simp [NcNameChars]
  | cons c rest => simp [NcNameChars, and_assoc]

theorem isNamePart_of_isNameStart {c : Char} (h : isNameStart c = true) : isNamePart c = true := by
  rw [isNameStart, Bool.and_eq_true] at h
  simp [isNamePart, h.1]

/-! ## Characters -/

theorem Within.of_cover {ranges cover : List (Nat × Nat)} {c : Char} (h : Within ranges c)
    (covered : ∀ range ∈ ranges, ∃ wide ∈ cover, wide.1 ≤ range.1 ∧ range.2 ≤ wide.2) :
    Within cover c := by
  obtain ⟨range, hrange, low, high⟩ := h
  obtain ⟨wide, hwide, low', high'⟩ := covered range hrange
  exact ⟨wide, hwide, low'.trans low, high.trans high'⟩

theorem Within.not_of_apart {ranges others : List (Nat × Nat)} {c : Char} (h : Within ranges c)
    (apart : ∀ range ∈ ranges, ∀ other ∈ others, range.2 < other.1 ∨ other.2 < range.1) :
    ¬ Within others c := by
  rintro ⟨other, hother, low', high'⟩
  obtain ⟨range, hrange, low, high⟩ := h
  have := apart range hrange other hother
  omega

theorem within_append {ranges more : List (Nat × Nat)} {c : Char} :
    Within (ranges ++ more) c ↔ Within ranges c ∨ Within more c := by
  simp only [Within, List.mem_append, or_and_right, exists_or]

theorem within_of_inRanges {ranges : List (Nat × Nat)} {c : Char}
    (h : inRanges ranges c.toNat = true) : Within ranges c := by
  obtain ⟨range, hrange, inside⟩ := List.mem_flatMap.mp (mem_of_inRanges h)
  rw [List.mem_range'_1] at inside
  exact ⟨range, hrange, inside.1, by omega⟩

/-- A word character may open a name, or is one of the ten digits, or is a stray one. -/
theorem opens_or_of_isWord {c : Char} (h : isWord c = true) :
    Opens c ∨ Within [(0x30, 0x39)] c ∨ Stray c := by
  have covered : ∀ range ∈ wordRanges,
      ∃ wide ∈ openingRanges ++ ([(0x30, 0x39)] ++ strayRanges),
        wide.1 ≤ range.1 ∧ range.2 ≤ wide.2 := by decide +kernel
  have places := (within_of_inRanges h).of_cover covered
  rwa [within_append, within_append] at places

theorem isDigit_of_within {c : Char} (h : Within [(0x30, 0x39)] c) : isDigit c = true := by
  obtain ⟨range, hrange, low, high⟩ := h
  obtain rfl : range = (0x30, 0x39) := List.mem_singleton.mp hrange
  rw [isDigit, digitValue?, Option.isSome_map, List.find?_isSome]
  refine ⟨0x30, by decide, ?_⟩
  simp only [Bool.and_eq_true, decide_eq_true_eq]
  omega

theorem follows_of_opens {c : Char} (h : Opens c) : Follows c := within_append.mpr (.inl h)

theorem not_follows_of_stray {c : Char} (h : Stray c) : ¬ Follows c :=
  Within.not_of_apart h (by decide)

theorem follows_of_isNamePart {c : Char} (h : isNamePart c = true) (hc : ¬ Stray c) :
    Follows c := by
  simp only [isNamePart, Bool.or_eq_true, beq_iff_eq] at h
  rcases h with (word | rfl) | rfl
  · rcases opens_or_of_isWord word with opens | digit | stray
    · exact follows_of_opens opens
    · exact within_append.mpr (.inr (digit.of_cover (by decide)))
    · exact absurd stray hc
  · decide
  · decide

theorem opens_of_isNameStart {c : Char} (h : isNameStart c = true) (hc : ¬ Stray c) :
    Opens c := by
  rw [isNameStart, Bool.and_eq_true, Bool.not_eq_true'] at h
  rcases opens_or_of_isWord h.1 with opens | digit | stray
  · exact opens
  · rw [isDigit_of_within digit] at h
    cases h.2
  · exact absurd stray hc

/-! ## Texts -/

theorem not_hasStray_of_ncName {s : String} (h : NcName s) : ¬ HasStray s := by
  obtain ⟨c, rest, hs, opens, follows⟩ := ncName_iff.mp h
  rintro ⟨d, hd, stray⟩
  rw [hs] at hd
  rcases List.mem_cons.mp hd with rfl | hd
  · exact not_follows_of_stray stray (follows_of_opens opens)
  · exact not_follows_of_stray stray (follows d hd)

/-- Of the texts that pass the test, the names of the grammar are those without stray
characters. -/
theorem ncName_iff_of_isNcName {s : String} (h : isNcName (some s) = true) :
    NcName s ↔ ¬ HasStray s := by
  refine ⟨not_hasStray_of_ncName, fun pure => ?_⟩
  obtain ⟨c, rest, hs, start, parts⟩ := isNcName_some_iff.mp h
  have none : ∀ d ∈ c :: rest, ¬ Stray d := fun d hd stray => pure ⟨d, hs ▸ hd, stray⟩
  obtain ⟨first, others⟩ := List.forall_mem_cons.mp none
  exact ncName_iff.mpr ⟨c, rest, hs, opens_of_isNameStart start first,
    fun d hd => follows_of_isNamePart (parts d hd) (others d hd)⟩

theorem worded_of_isNcName {s : String} (h : isNcName (some s) = true) : Worded s := by
  obtain ⟨c, rest, hs, start, parts⟩ := isNcName_some_iff.mp h
  rw [Worded, hs]
  refine ⟨?_, List.forall_mem_cons.mpr ⟨isNamePart_of_isNameStart start, parts⟩⟩
  rw [isNameStart, Bool.and_eq_true, Bool.not_eq_true'] at start
  exact start.2

/-- Of the names of the grammar, those pass the test that are made of word characters, full stops
and hyphens and do not open with a digit. -/
theorem isNcName_iff_of_ncName {s : String} (h : NcName s) :
    isNcName (some s) = true ↔ Worded s := by
  refine ⟨worded_of_isNcName, fun worded => ?_⟩
  obtain ⟨c, rest, hs, opens, -⟩ := ncName_iff.mp h
  rw [Worded, hs] at worded
  have digit : isDigit c = false := worded.1
  obtain ⟨first, others⟩ := List.forall_mem_cons.mp worded.2
  refine isNcName_some_iff.mpr ⟨c, rest, hs, ?_, others⟩
  simp only [isNamePart, Bool.or_eq_true, beq_iff_eq] at first
  rcases first with (word | rfl) | rfl
  · rw [isNameStart, word, digit]
    rfl
  · exact absurd opens (by decide)
  · exact absurd opens (by decide)

/-- Up to U+00A9 the grammar asks for word characters, too. -/
theorem worded_of_ncName {s : String} (h : NcName s) (low : ∀ c ∈ s.toList, c.toNat < 0xaa) :
    Worded s := by
  have table : ∀ n < 0xaa, (Follows (Char.ofNat n) → isNamePart (Char.ofNat n) = true) ∧
      (Opens (Char.ofNat n) → isDigit (Char.ofNat n) = false) := by decide +kernel
  have chars : ∀ c ∈ s.toList, (Follows c → isNamePart c = true) ∧
      (Opens c → isDigit c = false) := by
    intro c hc
    have := table c.toNat (low c hc)
    rwa [Char.ofNat_toNat] at this
  obtain ⟨c, rest, hs, opens, follows⟩ := ncName_iff.mp h
  rw [hs] at chars
  obtain ⟨first, others⟩ := List.forall_mem_cons.mp chars
  rw [Worded, hs]
  exact ⟨first.2 opens, List.forall_mem_cons.mpr ⟨first.1 (follows_of_opens opens),
    fun d hd => (others d hd).1 (follows d hd)⟩⟩

theorem le_of_stray {c : Char} (h : Stray c) : 0xaa ≤ c.toNat := by
  have table : ∀ range ∈ strayRanges, 0xaa ≤ range.1 := by decide
  obtain ⟨range, hrange, low, -⟩ := h
  exact (table range hrange).trans low

/-- The test says of a text what the grammar says exactly if a text that passes has no stray
characters, and a name of the grammar is made of word characters, full stops and hyphens and does
not open with a digit; it does so for every text without characters from U+00AA on. -/
theorem isNcName_iff_ncName_iff (s : String) :
    ((isNcName (some s) = true ↔ NcName s) ↔
      (isNcName (some s) = true → ¬ HasStray s) ∧ (NcName s → Worded s)) ∧
    ((∀ c ∈ s.toList, c.toNat < 0xaa) → (isNcName (some s) = true ↔ NcName s)) := by
  have agree : (isNcName (some s) = true ↔ NcName s) ↔
      (isNcName (some s) = true → ¬ HasStray s) ∧ (NcName s → Worded s) := by
    constructor
    · intro h
      exact ⟨fun passes => (ncName_iff_of_isNcName passes).mp (h.mp passes),
        fun named => (isNcName_iff_of_ncName named).mp (h.mpr named)⟩
    · rintro ⟨pure, worded⟩
      exact ⟨fun passes => (ncName_iff_of_isNcName passes).mpr (pure passes),
        fun named => (isNcName_iff_of_ncName named).mpr (worded named)⟩
  refine ⟨agree, fun low => agree.mpr ⟨?_, fun named => ?_⟩⟩
  · rintro - ⟨c, hc, stray⟩
    exact absurd (le_of_stray stray) (Nat.not_le.mpr (low c hc))
  · exact worded_of_ncName named low

/-- Test and grammar agree on an accented letter, and not on a unit of area. -/
theorem isNcName_iff_ncName_accented :
    (isNcName (some "école") = true ↔ NcName "école") ∧
      ¬ (isNcName (some "m²") = true ↔ NcName "m²") := by
  refine ⟨(isNcName_iff_ncName_iff "école").1.mpr ⟨fun _ => ?_, fun _ => ?_⟩, fun agree => ?_⟩
  · decide
  · decide +kernel
  · have pure := ((isNcName_iff_ncName_iff "m²").1.mp agree).1 (by decide +kernel)
    exact absurd pure (by decide)

/-- A raised two passes the test and is no name, and a name with a middle dot does not pass. -/
theorem isNcName_raisedTwo :
    (isNcName (some "²") = true ∧ ¬ NcName "²") ∧
      (isNcName (some "a·b") = false ∧ NcName "a·b") := by
  decide +kernel

/-! ## Names and white space -/

theorem isBlank_some_iff {s : String} :
    isBlank (some s) = true ↔ ∀ c ∈ s.toList, isSpace c = true := by
  rw [isBlank, List.isEmpty_iff, trim_eq_nil_iff]

theorem hasSpace_of_isBlank {s : String} (hs : s ≠ "") (h : isBlank (some s) = true) :
    hasSpace (some s) = true := by
  obtain ⟨c, hc⟩ := List.exists_mem_of_ne_nil s.toList (mt String.toList_eq_nil_iff.mp hs)
  exact List.any_eq_true.mpr ⟨c, hc, isBlank_some_iff.mp h c hc⟩

theorem isSpace_of_isNamePart {c : Char} (h : isNamePart c = true) : isSpace c = false := by
  by_contra space
  have word := isWord_eq_false_of_isSpace (by simpa using space)
  simp only [isNamePart, word, Bool.false_or, Bool.or_eq_true, beq_iff_eq] at h
  rcases h with rfl | rfl <;> exact space (by decide)

/-- What passes the test of names has no white space. -/
theorem hasSpace_of_isNcName {s : String} (h : isNcName (some s) = true) :
    hasSpace (some s) = false := by
  have parts := (worded_of_isNcName h).2
  exact List.any_eq_false.mpr fun c hc => by simp [isSpace_of_isNamePart (parts c hc)]

end BpmnAudit.Text
