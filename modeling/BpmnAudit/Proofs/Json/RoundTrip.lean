import BpmnAudit.Proofs.Json.Depth
import BpmnAudit.Proofs.Json.Scan

/-!
# Written values read back

The reader puts a value together again from the tokens that it is written with, on any stack that
leaves room for it (`Reader.run_valueTokens`). So an object without numbers that is nested no
deeper than the limit is read from its text on one line (`parse_compact`).
-/

namespace BpmnAudit.Json

namespace Reader

variable (limits : Limits)

theorem run_cons (reader : Reader) (token : Token) (tokens : List Token) :
    reader.run limits (token :: tokens) =
      (reader.step limits token).bind fun next => next.run limits tokens := by
  rw [Reader.run]
  cases reader.step limits token <;> rfl

theorem readWord_null : readWord limits "null".toList = some .null := rfl

theorem readWord_bool (b : Bool) :
    readWord limits (if b then "true".toList else "false".toList) = some (.bool b) := by
  cases b <;> rfl

/-- No value begins with the end of an array. -/
theorem exists_valueTokens (v : Json) :
    ∃ token tokens, valueTokens v = token :: tokens ∧ token ≠ .closeArray := by
  cases v with
  | array items => cases items <;> exact ⟨_, _, by rw [valueTokens], by simp⟩
  | object members =>
    rcases members with _ | ⟨⟨key, value⟩, members⟩ <;> exact ⟨_, _, by rw [valueTokens], by simp⟩
  | _ => exact ⟨_, _, by rw [valueTokens], by simp⟩

theorem key_string (done : Members) (stack : List Frame) (s : String) :
    key (.object done :: stack) (.string s.toList) = some ⟨.member done s :: stack, .colon⟩ := by
  show some (Reader.mk (.member done (String.ofList s.toList) :: stack) .colon) = _
  rw [String.ofList_toList]

/-- Where there is room, a first item is read as any other. -/
theorem run_firstItem (v : Json) (done : List Json) {stack : List Frame}
    (h : stack.length + 1 ≤ limits.depth) (rest : List Token) :
    run limits ⟨.array done :: stack, .firstItem⟩ (valueTokens v ++ rest) =
      run limits ⟨.array done :: stack, .value⟩ (valueTokens v ++ rest) := by
  obtain ⟨token, tokens, hv, hne⟩ := exists_valueTokens v
  rw [hv, List.cons_append, run_cons, run_cons]
  congr 1
  unfold step
  cases token with
  | closeArray => exact absurd rfl hne
  | _ => exact if_pos h

mutual

/-- The tokens of a value are read to the value, wherever it stands. -/
theorem run_valueTokens (v : Json) (hv : v.Numberless) (stack : List Frame)
    (hd : stack.length + v.depth ≤ limits.depth) (rest : List Token) :
    run limits ⟨stack, .value⟩ (valueTokens v ++ rest) =
      (put v stack).bind fun next => next.run limits rest := by
  cases v with
  | null =>
    rw [valueTokens, List.singleton_append, run_cons]
    show (match readWord limits "null".toList with
      | none => none
      | some value => put value stack).bind _ = _
    rw [readWord_null]
  | bool b =>
    rw [valueTokens, List.singleton_append, run_cons]
    show (match readWord limits (if b then "true".toList else "false".toList) with
      | none => none
      | some value => put value stack).bind _ = _
    rw [readWord_bool]
  | number n => exact absurd hv (by simp [Numberless])
  | text s =>
    rw [valueTokens, List.singleton_append, run_cons]
    show (put (.text (String.ofList s.toList)) stack).bind _ = _
    rw [String.ofList_toList]
  | array items =>
    rw [Numberless] at hv
    cases items with
    | nil =>
      rw [valueTokens, List.cons_append, run_cons]
      show run limits ⟨.array [] :: stack, .firstItem⟩ (.closeArray :: rest) = _
      rw [run_cons]
      rfl
    | cons item items =>
      rw [NumberlessItems] at hv
      rw [depth] at hd
      rw [valueTokens, List.cons_append, List.append_assoc, run_cons]
      show run limits ⟨.array [] :: stack, .firstItem⟩ _ = _
      rw [run_firstItem limits item [] (by omega),
        run_valueTokens item hv.1 (.array [] :: stack) (by rw [List.length_cons]; omega)]
      exact run_itemTokens items hv.2 [item] stack (by omega) rest
  | object members =>
    rw [Numberless] at hv
    rcases members with _ | ⟨⟨key, value⟩, members⟩
    · rw [valueTokens, List.cons_append, run_cons]
      show run limits ⟨.object [] :: stack, .firstKey⟩ (.closeObject :: rest) = _
      rw [run_cons]
      rfl
    · rw [NumberlessMembers] at hv
      rw [depth] at hd
      rw [valueTokens, List.cons_append, run_cons]
      show run limits ⟨.object [] :: stack, .firstKey⟩ (.string key.toList :: .colon :: _) = _
      rw [run_cons, show step limits ⟨.object [] :: stack, .firstKey⟩ (.string key.toList) =
        some ⟨.member [] key :: stack, .colon⟩ from
          (if_pos (by rw [List.length_cons]; omega)).trans (key_string [] stack key)]
      show run limits ⟨.member [] key :: stack, .value⟩
        (valueTokens value ++ memberTokens members ++ rest) = _
      rw [List.append_assoc,
        run_valueTokens value hv.1 (.member [] key :: stack) (by rw [List.length_cons]; omega)]
      exact run_memberTokens members hv.2 [(key, value)] stack (by omega) rest

theorem run_itemTokens (items : List Json) (hi : NumberlessItems items) (done : List Json)
    (stack : List Frame) (hd : stack.length + 1 + itemsDepth items ≤ limits.depth)
    (rest : List Token) :
    run limits ⟨.array done :: stack, .more⟩ (itemTokens items ++ rest) =
      (put (.array (done.reverse ++ items)) stack).bind fun next => next.run limits rest := by
  cases items with
  | nil =>
    rw [itemTokens, List.singleton_append, run_cons, List.append_nil]
    rfl
  | cons item items =>
    rw [NumberlessItems] at hi
    rw [itemsDepth] at hd
    rw [itemTokens, List.cons_append, List.append_assoc, run_cons]
    show run limits ⟨.array done :: stack, .value⟩ _ = _
    rw [run_valueTokens item hi.1 (.array done :: stack) (by rw [List.length_cons]; omega)]
    show run limits ⟨.array (item :: done) :: stack, .more⟩ _ = _
    rw [run_itemTokens items hi.2 (item :: done) stack (by omega)]
    simp

theorem run_memberTokens (members : Members) (hm : NumberlessMembers members) (done : Members)
    (stack : List Frame) (hd : stack.length + 1 + membersDepth members ≤ limits.depth)
    (rest : List Token) :
    run limits ⟨.object done :: stack, .more⟩ (memberTokens members ++ rest) =
      (put (.object (done.reverse ++ members)) stack).bind fun next => next.run limits rest := by
  rcases members with _ | ⟨⟨key, value⟩, members⟩
  · rw [memberTokens, List.singleton_append, run_cons, List.append_nil]
    rfl
  · rw [NumberlessMembers] at hm
    rw [membersDepth] at hd
    rw [memberTokens, List.cons_append, run_cons]
    show run limits ⟨.object done :: stack, .key⟩ (.string key.toList :: .colon :: _) = _
    rw [run_cons, show step limits ⟨.object done :: stack, .key⟩ (.string key.toList) =
      some ⟨.member done key :: stack, .colon⟩ from key_string done stack key]
    show run limits ⟨.member done key :: stack, .value⟩
      (valueTokens value ++ memberTokens members ++ rest) = _
    rw [List.append_assoc,
      run_valueTokens value hm.1 (.member done key :: stack) (by rw [List.length_cons]; omega)]
    show run limits ⟨.object ((key, value) :: done) :: stack, .more⟩ _ = _
    rw [run_memberTokens members hm.2 ((key, value) :: done) stack (by omega)]
    simp

end

end Reader

/-- An object without numbers is read from its text on one line, if it is nested no deeper than
documents may be. -/
theorem parse_compact {members : Members} (hm : Numberless (.object members))
    (hd : (Json.object members).depth ≤ documentLimits.depth) :
    parse (compact (.object members)).toList = some (.object members) := by
  have read := Reader.run_valueTokens documentLimits (.object members) hm []
    (by rw [List.length_nil]; omega) []
  rw [List.append_nil] at read
  have whole : Reader.run documentLimits {} (valueTokens (.object members)) =
      some ⟨[], .nothing (.object members)⟩ := read
  unfold parse parseWithin compact
  rw [String.toList_ofList, tokens?_write hm]
  simp only [whole]

end BpmnAudit.Json
