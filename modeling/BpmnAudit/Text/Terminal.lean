/-!
# Texts away from a terminal

What is left of a printed text where no terminal shows it: control sequences are dropped, and a
carriage return before a line end is.
-/

namespace BpmnAudit.Text

/-- The character that begins a control sequence. -/
def escapeChar : Char := '\x1b'

/-- Whether a character may be a parameter of a control sequence. -/
def isParameter (c : Char) : Bool := '0' ≤ c && c ≤ '?'

/-- Whether a character may stand between the parameters of a control sequence and its end. -/
def isIntermediate (c : Char) : Bool := ' ' ≤ c && c ≤ '/'

/-- Whether a character may end a control sequence. -/
def isFinal (c : Char) : Bool := '@' ≤ c && c ≤ '~'

/-- The text after a control sequence, if the text is one from its second character on: a bracket,
parameters, intermediate characters, and a final one. -/
def afterSequence? : List Char → Option (List Char)
  | '[' :: cs =>
    match (cs.dropWhile isParameter).dropWhile isIntermediate with
    | c :: rest => if isFinal c then some rest else none
    | [] => none
  | _ => none

theorem length_lt_of_afterSequence_eq_some {cs rest : List Char}
    (h : afterSequence? cs = some rest) : rest.length < cs.length := by
  unfold afterSequence? at h
  split at h
  · next cs =>
    have hle : ((cs.dropWhile isParameter).dropWhile isIntermediate).length ≤ cs.length :=
      ((List.dropWhile_suffix _).trans (List.dropWhile_suffix _)).length_le
    split at h
    · next c tail htail =>
      split at h
      · cases h
        simp only [htail, List.length_cons] at hle ⊢
        omega
      · simp at h
    · simp at h
  · simp at h

/-- A text without its control sequences. -/
def dropSequences : List Char → List Char
  | [] => []
  | c :: cs =>
    if c = escapeChar then
      match _h : afterSequence? cs with
      | some rest => dropSequences rest
      | none => c :: dropSequences cs
    else c :: dropSequences cs
  termination_by cs => cs.length
  decreasing_by
    · have := length_lt_of_afterSequence_eq_some _h
      simp only [List.length_cons]
      omega
    · simp
    · simp

/-- A text with a line feed alone at each line end. -/
def dropReturns : List Char → List Char
  | [] => []
  | '\r' :: '\n' :: cs => '\n' :: dropReturns cs
  | c :: cs => c :: dropReturns cs

/-- What is left of a text away from a terminal. -/
def withoutTerminal (s : String) : String := String.ofList (dropReturns (dropSequences s.toList))

end BpmnAudit.Text
