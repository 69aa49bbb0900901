import BpmnAudit.Text.Terminal

/-!
# Lines away from a terminal

No control sequence reaches over a line end, and a carriage return is dropped with the line end that
follows it. So what is left of a text is what is left of its lines
(`Text.withoutTerminal_join`). A text without control sequences and carriage returns is left as it
is (`Text.withoutTerminal_of_plain`).
-/

namespace BpmnAudit.Text

/-! ## Line ends -/

/-- A text that ends with a line end. -/
def IsLine (s : String) : Prop := ∃ body, s.toList = body ++ ['\n']

theorem isLine_append (s : String) : IsLine (s ++ "\n") := ⟨s.toList, String.toList_append⟩

theorem dropWhile_append_stop {p : Char → Bool} {stop : Char} (hp : p stop = false)
    (cs rest : List Char) : (cs ++ stop :: rest).dropWhile p = cs.dropWhile p ++ stop :: rest := by
  induction cs with
  | nil => exact List.dropWhile_cons_of_neg (by simp [hp])
  | cons c cs ih =>
    rw [List.cons_append, List.dropWhile_cons, List.dropWhile_cons]
    split
    · exact ih
    · rfl

theorem afterSequence?_append_newline (cs rest : List Char) :
    afterSequence? (cs ++ '\n' :: rest) = (afterSequence? cs).map (· ++ '\n' :: rest) := by
  cases cs with
  | nil => rfl
  | cons c cs =>
    by_cases bracket : c = '['
    · subst bracket
      rw [List.cons_append, afterSequence?, afterSequence?,
        dropWhile_append_stop (by decide) cs rest, dropWhile_append_stop (by decide) _ rest]
      cases (cs.dropWhile isParameter).dropWhile isIntermediate with
      | nil => rfl
      | cons d ds =>
        simp only [List.cons_append]
        split <;> rfl
    · have none' : ∀ ds, afterSequence? (c :: ds) = none := by
        intro ds
        unfold afterSequence?
        split
        · next h => exact absurd (List.cons.inj h).1 bracket
        · rfl
      rw [List.cons_append, none', none']
      rfl

@[simp] theorem dropSequences_nil : dropSequences [] = [] := by rw [dropSequences]

theorem dropSequences_of_some {cs rest : List Char} (h : afterSequence? cs = some rest) :
    dropSequences (escapeChar :: cs) = dropSequences rest := by
  rw [dropSequences, if_pos rfl]
  split
  · next h' => rw [Option.some.inj (h.symm.trans h')]
  · next h' => rw [h] at h'; cases h'

theorem dropSequences_of_none {cs : List Char} (h : afterSequence? cs = none) :
    dropSequences (escapeChar :: cs) = escapeChar :: dropSequences cs := by
  rw [dropSequences, if_pos rfl]
  split
  · next h' => rw [h] at h'; cases h'
  · rfl

theorem dropSequences_cons {c : Char} (h : c ≠ escapeChar) (cs : List Char) :
    dropSequences (c :: cs) = c :: dropSequences cs := by
  rw [dropSequences, if_neg h]

theorem dropSequences_append_newline (cs rest : List Char) :
    dropSequences (cs ++ '\n' :: rest) = dropSequences cs ++ '\n' :: dropSequences rest := by
  induction cs using dropSequences.induct with
  | case1 =>
    rw [dropSequences_nil, List.nil_append, List.nil_append, dropSequences_cons (by decide)]
  | case2 cs after h ih =>
    have reached : afterSequence? (cs ++ '\n' :: rest) = some (after ++ '\n' :: rest) := by
      rw [afterSequence?_append_newline, h, Option.map_some]
    rw [List.cons_append, dropSequences_of_some reached, dropSequences_of_some h, ih]
  | case3 cs h ih =>
    have unreached : afterSequence? (cs ++ '\n' :: rest) = none := by
      rw [afterSequence?_append_newline, h, Option.map_none]
    rw [List.cons_append, dropSequences_of_none unreached, dropSequences_of_none h, ih,
      List.cons_append]
  | case4 c cs h ih => rw [List.cons_append, dropSequences_cons h, dropSequences_cons h, ih,
      List.cons_append]

/-- Only a line end takes a carriage return before it away. -/
theorem dropReturns_cons {c : Char} {cs : List Char}
    (h : ∀ rest, c = '\r' → cs = '\n' :: rest → False) :
    dropReturns (c :: cs) = c :: dropReturns cs := by
  rw [dropReturns]
  exact h

theorem dropReturns_append_newline (cs rest : List Char) :
    dropReturns (cs ++ '\n' :: rest) = dropReturns (cs ++ ['\n']) ++ dropReturns rest := by
  induction cs using dropReturns.induct with
  | case1 => rfl
  | case2 cs ih => exact congrArg ('\n' :: ·) ih
  | case3 c cs h ih =>
    cases cs with
    | nil =>
      by_cases return' : c = '\r'
      · subst return'
        rfl
      · have unmatched : ∀ ds : List Char, dropReturns (c :: '\n' :: ds) =
            c :: dropReturns ('\n' :: ds) :=
          fun ds => dropReturns_cons fun _ hc _ => return' hc
        rw [List.cons_append, List.cons_append, List.nil_append, List.nil_append, unmatched,
          unmatched]
        exact congrArg (c :: ·) ih
    | cons d ds =>
      have unmatched : ∀ es : List Char, dropReturns (c :: d :: es) = c :: dropReturns (d :: es) :=
        fun es => dropReturns_cons fun _ hc hd => h ds hc (by rw [(List.cons.inj hd).1])
      rw [List.cons_append, List.cons_append, List.cons_append, List.cons_append, unmatched,
        unmatched]
      exact congrArg (c :: ·) ih

/-- What is left of a text after a line is left whatever the line is. -/
theorem withoutTerminal_append {s : String} (h : IsLine s) (t : String) :
    withoutTerminal (s ++ t) = withoutTerminal s ++ withoutTerminal t := by
  obtain ⟨body, hs⟩ := h
  unfold withoutTerminal
  rw [← String.ofList_append, String.toList_append, hs, List.append_assoc, List.singleton_append,
    dropSequences_append_newline, dropSequences_append_newline, dropReturns_append_newline,
    dropSequences_nil]

theorem withoutTerminal_empty : withoutTerminal "" = "" := by
  unfold withoutTerminal
  rw [String.toList_empty, dropSequences_nil]
  rfl

/-- What is left of lines is left of each of them. -/
theorem withoutTerminal_join {lines : List String} (h : ∀ s ∈ lines, IsLine s) :
    withoutTerminal (String.join lines) = String.join (lines.map withoutTerminal) := by
  induction lines with
  | nil => exact withoutTerminal_empty
  | cons s lines ih =>
    obtain ⟨first, rest⟩ := List.forall_mem_cons.mp h
    rw [List.map_cons, String.join_cons, String.join_cons, withoutTerminal_append first, ih rest]

/-! ## Plain texts -/

/-- Characters that begin no control sequence and end with no line. -/
def Plain (cs : List Char) : Prop := ∀ c ∈ cs, c ≠ escapeChar ∧ c ≠ '\r'

instance (cs : List Char) : Decidable (Plain cs) :=
  inferInstanceAs (Decidable (∀ c ∈ cs, c ≠ escapeChar ∧ c ≠ '\r'))

@[simp] theorem plain_nil : Plain [] := nofun

@[simp] theorem plain_cons {c : Char} {cs : List Char} :
    Plain (c :: cs) ↔ (c ≠ escapeChar ∧ c ≠ '\r') ∧ Plain cs := List.forall_mem_cons

@[simp] theorem plain_append {cs ds : List Char} : Plain (cs ++ ds) ↔ Plain cs ∧ Plain ds :=
  List.forall_mem_append

theorem dropSequences_of_plain {cs : List Char} (h : Plain cs) : dropSequences cs = cs := by
  induction cs with
  | nil => exact dropSequences_nil
  | cons c cs ih =>
    obtain ⟨first, rest⟩ := plain_cons.mp h
    rw [dropSequences_cons first.1, ih rest]

theorem dropReturns_of_plain {cs : List Char} (h : Plain cs) : dropReturns cs = cs := by
  induction cs with
  | nil => rfl
  | cons c cs ih =>
    obtain ⟨first, rest⟩ := plain_cons.mp h
    rw [dropReturns_cons fun _ return' _ => first.2 return', ih rest]

/-- A plain text is left as it is. -/
theorem withoutTerminal_of_plain {s : String} (h : Plain s.toList) : withoutTerminal s = s := by
  unfold withoutTerminal
  rw [dropSequences_of_plain h, dropReturns_of_plain h, String.ofList_toList]

end BpmnAudit.Text
