import BpmnAudit.Text.Case
import BpmnAudit.Text.Predicates
import Mathlib.Data.List.TakeWhile

/-!
# Blank texts, names and words

A text says something if it has a character that is no white space; `isBlank` asks whether it says
nothing. A name without colons opens with a word character, and no word character is white space,
so a name is never blank (`says_of_isNcName`). A text reads as a word if it is one but for the case
of letters and for white space around it; trimming and comparing in lower case finds exactly these
texts (`isWordInAnyCase_trim_iff`).
-/

namespace BpmnAudit.Text

/-- A text that is there and has a character that is no white space. -/
def Says (text : Option String) : Prop := ∃ s, text = some s ∧ ∃ c ∈ s.toList, isSpace c = false

theorem trim_eq_nil_iff (cs : List Char) : trim cs = [] ↔ ∀ c ∈ cs, isSpace c = true := by
  unfold trim
  rw [List.reverse_eq_nil_iff, List.dropWhile_eq_nil_iff]
  simp only [List.mem_reverse]
  constructor
  · intro h
    have hnil : cs.dropWhile isSpace = [] := by
      by_contra hne
      have head := List.head_dropWhile_not isSpace hne
      rw [h _ (List.head_mem hne)] at head
      cases head
    exact List.dropWhile_eq_nil_iff.mp hnil
  · intro h c hc
    exact h c ((List.dropWhile_sublist isSpace).subset hc)

theorem isBlank_eq_false_iff {text : Option String} : isBlank text = false ↔ Says text := by
  cases text with
  | none => simp [isBlank, Says]
  | some s =>
    have key : isBlank (some s) = true ↔ ∀ c ∈ s.toList, isSpace c = true := by
      rw [isBlank, List.isEmpty_iff, trim_eq_nil_iff]
    rw [← Bool.not_eq_true, key]
    simp [Says]

/-! ## Word characters are no white space -/

theorem mem_of_inRanges {ranges : List (Nat × Nat)} {n : Nat} (h : inRanges ranges n = true) :
    n ∈ ranges.flatMap fun (low, high) => List.range' low (high + 1 - low) := by
  induction ranges with
  | nil => cases h
  | cons range ranges ih =>
    obtain ⟨low, high⟩ := range
    rw [List.flatMap_cons, List.mem_append]
    unfold inRanges at h
    split at h
    · cases h
    · rw [Bool.or_eq_true, decide_eq_true_iff] at h
      rcases h with h | h
      · left
        rw [List.mem_range'_1]
        omega
      · exact Or.inr (ih h)

theorem isWord_eq_false_of_isSpace {c : Char} (h : isSpace c = true) : isWord c = false := by
  have table : ∀ n ∈ blankRanges.flatMap fun (low, high) => List.range' low (high + 1 - low),
      inRanges wordRanges n = false := by decide +kernel
  exact table _ (mem_of_inRanges h)

/-- A name without colons says something. -/
theorem says_of_isNcName {text : Option String} (h : isNcName text = true) : Says text := by
  cases text with
  | none => cases h
  | some s =>
    have hs : isNcNameChars s.toList = true := h
    refine ⟨s, rfl, ?_⟩
    cases hcs : s.toList with
    | nil => simp [hcs, isNcNameChars] at hs
    | cons c rest =>
      rw [hcs, isNcNameChars, Bool.and_eq_true, isNameStart, Bool.and_eq_true] at hs
      refine ⟨c, List.mem_cons_self, ?_⟩
      by_contra hspace
      have := isWord_eq_false_of_isSpace (by simpa using hspace)
      rw [this] at hs
      cases hs.1.1

/-! ## Words amid white space -/

/-- A text that is there and is a word, but for the case of its ASCII letters and for white space
around it. -/
def Reads (word : String) (text : Option String) : Prop :=
  ∃ s before letters after, text = some s ∧ s.toList = before ++ letters ++ after ∧
    (∀ c ∈ before ++ after, isSpace c = true) ∧ letters.map Char.toLower = word.toList

theorem exists_eq_append_trim (cs : List Char) :
    ∃ before after, cs = before ++ trim cs ++ after ∧ ∀ c ∈ before ++ after, isSpace c = true := by
  have left := List.takeWhile_append_dropWhile (p := isSpace) (l := cs)
  have right := List.takeWhile_append_dropWhile (p := isSpace)
    (l := (cs.dropWhile isSpace).reverse)
  refine ⟨cs.takeWhile isSpace, ((cs.dropWhile isSpace).reverse.takeWhile isSpace).reverse, ?_, ?_⟩
  · rw [List.append_assoc, trim, ← List.reverse_append, right, List.reverse_reverse, left]
  · intro c hc
    rcases List.mem_append.mp hc with hc | hc
    · exact List.mem_takeWhile_imp hc
    · exact List.mem_takeWhile_imp (List.mem_reverse.mp hc)

theorem dropWhile_append_of_isSpace {before rest : List Char} (h : ∀ c ∈ before, isSpace c = true)
    (hrest : ∀ c ∈ rest.head?, isSpace c = false) :
    (before ++ rest).dropWhile isSpace = rest := by
  rw [List.dropWhile_append_of_pos h]
  cases rest with
  | nil => rfl
  | cons c rest => exact List.dropWhile_cons_of_neg (by simp [hrest c rfl])

theorem trim_append {before cs after : List Char} (h : ∀ c ∈ before ++ after, isSpace c = true)
    (hcs : ∀ c ∈ cs, isSpace c = false) : trim (before ++ cs ++ after) = cs := by
  cases cs with
  | nil => rw [trim_eq_nil_iff, List.append_nil]; exact h
  | cons c cs =>
    obtain ⟨hbefore, hafter⟩ := List.forall_mem_append.mp h
    have first : (before ++ (c :: cs ++ after)).dropWhile isSpace = c :: cs ++ after :=
      dropWhile_append_of_isSpace hbefore fun c' hc => by
        obtain rfl : c = c' := Option.some.inj hc
        exact hcs c List.mem_cons_self
    have last : (after.reverse ++ (c :: cs).reverse).dropWhile isSpace = (c :: cs).reverse :=
      dropWhile_append_of_isSpace (fun c hc => hafter c (List.mem_reverse.mp hc)) fun c hc =>
        hcs c (List.mem_reverse.mp (List.mem_of_mem_head? hc))
    rw [trim, List.append_assoc, first, List.reverse_append, last, List.reverse_reverse]

theorem toLower_of_isSpace {c : Char} (h : isSpace c = true) : c.toLower = c := by
  have table : ∀ n ∈ blankRanges.flatMap fun (low, high) => List.range' low (high + 1 - low),
      ¬ (65 ≤ n ∧ n ≤ 90) := by decide
  have := table _ (mem_of_inRanges h)
  unfold Char.toLower
  split
  · next hupper => exact absurd hupper this
  · rfl

/-- Trimming and comparing finds the texts that read as a word. -/
theorem isWordInAnyCase_trim_iff {word : String} (h : word.toList.any isSpace = false)
    {s : String} : isWordInAnyCase word (trim s.toList) = true ↔ Reads word (some s) := by
  unfold isWordInAnyCase
  rw [beq_iff_eq]
  constructor
  · intro hw
    obtain ⟨before, after, hs, space⟩ := exists_eq_append_trim s.toList
    exact ⟨s, before, _, after, rfl, hs, space, hw⟩
  · rintro ⟨_, before, letters, after, ⟨rfl⟩, hs, space, hw⟩
    have inside : ∀ c ∈ letters, isSpace c = false := by
      intro c hc
      by_contra hspace
      have lower := List.any_eq_false.mp h c.toLower (hw ▸ List.mem_map_of_mem hc)
      rw [toLower_of_isSpace (by simpa using hspace)] at lower
      exact lower (by simpa using hspace)
    rw [hs, trim_append space inside, hw]

end BpmnAudit.Text
