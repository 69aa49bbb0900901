import BpmnAudit.Json.Printer
import BpmnAudit.Json.Token

/-!
# Tokens of written values

The scan of a value written on one line finds the tokens that the value is made of
(`tokens?_write`). Strings come back as they were: what an escape is written as is read as the
character again (`Scan.run_writtenChar`).
-/

namespace BpmnAudit.Json

/-! ## Tokens -/

mutual

/-- The tokens that a value is written with. -/
def valueTokens : Json → List Token
  | .null => [.word "null".toList]
  | .bool b => [.word (if b then "true".toList else "false".toList)]
  | .number n => [.word (numberText n).toList]
  | .text s => [.string s.toList]
  | .array [] => [.openArray, .closeArray]
  | .array (item :: items) => .openArray :: (valueTokens item ++ itemTokens items)
  | .object [] => [.openObject, .closeObject]
  | .object ((key, value) :: members) =>
    .openObject :: .string key.toList :: .colon :: (valueTokens value ++ memberTokens members)

/-- The tokens of the items after the first, and of the end of the array. -/
def itemTokens : List Json → List Token
  | [] => [.closeArray]
  | item :: items => .comma :: (valueTokens item ++ itemTokens items)

/-- The tokens of the members after the first, and of the end of the object. -/
def memberTokens : List (String × Json) → List Token
  | [] => [.closeObject]
  | (key, value) :: members =>
    .comma :: .string key.toList :: .colon :: (valueTokens value ++ memberTokens members)

end

/-! ## Strings -/

theorem hexValue?_hexDigit : ∀ d, d < 16 → hexValue? (Text.hexDigit d) = some d := by decide

namespace Scan

theorem run_cons (scan : Scan) (c : Char) (cs : List Char) :
    scan.run (c :: cs) = (scan.step c).bind fun next => next.run cs := by
  rw [Scan.run]
  cases scan.step c <;> rfl

theorem step_digit (done : List Char) (found : List Token) {left : Nat} (h : 1 < left)
    (value k : Nat) :
    step ⟨.inUnit done none left value, found⟩ (Text.hexDigit (k % 16)) =
      some ⟨.inUnit done none (left - 1) (value * 16 + k % 16), found⟩ := by
  have digit := hexValue?_hexDigit (k % 16) (Nat.mod_lt k (by decide))
  simp only [step, digit, if_neg (Nat.not_le.mpr h), Option.map_some]

theorem step_lastDigit (done : List Char) (found : List Token) (value k : Nat) :
    step ⟨.inUnit done none 1 value, found⟩ (Text.hexDigit (k % 16)) =
      (closeUnit done none (value * 16 + k % 16)).map (⟨·, found⟩) := by
  simp only [step, hexValue?_hexDigit (k % 16) (Nat.mod_lt k (by decide)), Nat.le_refl, if_true]

theorem run_escapedUnit (done : List Char) (found : List Token) (rest : List Char) {n : Nat}
    (h : n < 0x10000) :
    run ⟨.inString done, found⟩ (escapedUnit n ++ rest) =
      (closeUnit done none n).bind fun mode => run ⟨mode, found⟩ rest := by
  have value :
      (((0 * 16 + n / 16 / 16 / 16 % 16) * 16 + n / 16 / 16 % 16) * 16 + n / 16 % 16) * 16 +
        n % 16 = n := by omega
  show run ⟨.inString done, found⟩ ('\\' :: 'u' :: Text.hexDigit (n / 16 / 16 / 16 % 16) ::
    Text.hexDigit (n / 16 / 16 % 16) :: Text.hexDigit (n / 16 % 16) :: Text.hexDigit (n % 16) ::
      rest) = _
  rw [run_cons, show step ⟨.inString done, found⟩ '\\' = some ⟨.inEscape done, found⟩ from rfl,
    Option.bind_some, run_cons,
    show step ⟨.inEscape done, found⟩ 'u' = some ⟨.inUnit done none 4 0, found⟩ from rfl,
    Option.bind_some, run_cons, step_digit done found (by decide), Option.bind_some, run_cons,
    step_digit done found (by decide), Option.bind_some, run_cons,
    step_digit done found (by decide), Option.bind_some, run_cons, step_lastDigit, value]
  cases closeUnit done none n <;> rfl

/-- A written character is read to the character. -/
theorem run_writtenChar (done : List Char) (found : List Token) (rest : List Char) (c : Char) :
    run ⟨.inString done, found⟩ (writtenChar plainStyle c ++ rest) =
      run ⟨.inString (c :: done), found⟩ rest := by
  unfold writtenChar
  split
  · next h => rw [h]; rfl
  split
  · next h => rw [h]; rfl
  split
  · next h => rw [h]; rfl
  split
  · next h => rw [h]; rfl
  split
  · next h => rw [h]; rfl
  split
  · next h => rw [h]; rfl
  split
  · next h => rw [h]; rfl
  split
  · next h =>
    have unit : closeUnit done none c.toNat = some (.inString (c :: done)) := by
      unfold closeUnit
      rw [Char.ofNat_toNat]
      simp only [show ¬ (0xd800 ≤ c.toNat ∧ c.toNat < 0xdc00) by omega,
        show ¬ (0xdc00 ≤ c.toNat ∧ c.toNat < 0xe000) by omega, if_false]
    rw [run_escapedUnit done found rest (by omega), unit]
    rfl
  · next hquote hslash _ _ _ _ _ hcontrol =>
    have hlimit : ¬ (plainStyle.limit ≤ c.toNat ∨ (plainStyle.hidesDelete ∧ c.toNat = 0x7f)) := by
      have valid : c.toNat.isValidChar := c.valid
      unfold Nat.isValidChar at valid
      simp only [plainStyle, Bool.false_eq_true, false_and, or_false]
      omega
    rw [if_neg hlimit, List.singleton_append, run_cons]
    simp [step, hquote, hslash, hcontrol]

theorem run_writeText (found : List Token) (s : String) (rest : List Char) :
    run ⟨.between, found⟩ (writeText plainStyle s rest) =
      run ⟨.between, .string s.toList :: found⟩ rest := by
  have key : ∀ (cs done : List Char), run ⟨.inString done, found⟩
      (cs.foldr (fun c written => writtenChar plainStyle c ++ written) ('"' :: rest)) =
        run ⟨.between, .string (done.reverse ++ cs) :: found⟩ rest := by
    intro cs
    induction cs with
    | nil => intro done; rw [List.foldr_nil, run_cons]; simp [step]
    | cons c cs ih => intro done; rw [List.foldr_cons, run_writtenChar, ih]; simp
  unfold writeText
  rw [run_cons]
  exact key s.toList []

/-! ## Words -/

/-- What is left of a text goes on with a mark. -/
def Marked (rest : List Char) : Prop := ∃ c cs, rest = c :: cs ∧ (markToken? c).isSome

/-- A character that can only be part of a word. -/
def isWordChar (c : Char) : Bool := !isJsonBlank c && c != '"' && (markToken? c).isNone

theorem isWordChar_iff {c : Char} :
    isWordChar c = true ↔ isJsonBlank c = false ∧ c ≠ '"' ∧ markToken? c = none := by
  simp [isWordChar, and_assoc]

/-- A word ends where a mark follows. -/
theorem run_word {w : List Char} (found : List Token) {rest : List Char} (hr : Marked rest)
    (hne : w ≠ []) (hw : w.all isWordChar = true) :
    run ⟨.between, found⟩ (w ++ rest) = run ⟨.between, .word w :: found⟩ rest := by
  obtain ⟨mark, cs, rfl, hmark⟩ := hr
  rw [List.all_eq_true] at hw
  have key : ∀ (w done : List Char), (∀ c ∈ w, isWordChar c = true) →
      run ⟨.inWord done, found⟩ (w ++ mark :: cs) =
        run ⟨.between, .word (done.reverse ++ w) :: found⟩ (mark :: cs) := by
    intro w
    induction w with
    | nil => intro done _; rw [List.nil_append, run_cons, run_cons]; simp [step, hmark]
    | cons c w ih =>
      intro done hw
      obtain ⟨hblank, hquote, hnomark⟩ := isWordChar_iff.mp (hw c List.mem_cons_self)
      rw [List.cons_append, run_cons]
      have next : step ⟨.inWord done, found⟩ c = some ⟨.inWord (c :: done), found⟩ := by
        simp [step, hblank, hquote, hnomark]
      rw [next, Option.bind_some, ih (c :: done) fun d hd => hw d (List.mem_cons_of_mem _ hd)]
      simp
  cases w with
  | nil => exact absurd rfl hne
  | cons c w =>
    obtain ⟨hblank, hquote, hnomark⟩ := isWordChar_iff.mp (hw c List.mem_cons_self)
    have next : step ⟨.between, found⟩ c = some ⟨.inWord [c], found⟩ := by
      simp [step, scanOutside, hblank, hquote, hnomark]
    rw [List.cons_append, run_cons, next, Option.bind_some,
      key w [c] fun d hd => hw d (List.mem_cons_of_mem _ hd)]
    rfl

theorem run_mark (found : List Token) {c : Char} {mark : Token} (h : markToken? c = some mark)
    (hblank : isJsonBlank c = false) (hquote : c ≠ '"') (rest : List Char) :
    run ⟨.between, found⟩ (c :: rest) = run ⟨.between, mark :: found⟩ rest := by
  rw [run_cons]
  simp [step, scanOutside, h, hblank, hquote]

end Scan

/-! ## Values -/

mutual

def Numberless : Json → Prop
  | .number _ => False
  | .array items => NumberlessItems items
  | .object members => NumberlessMembers members
  | _ => True

def NumberlessItems : List Json → Prop
  | [] => True
  | item :: items => Numberless item ∧ NumberlessItems items

def NumberlessMembers : List (String × Json) → Prop
  | [] => True
  | (_, value) :: members => Numberless value ∧ NumberlessMembers members

end

theorem numberless_array {items : List Json} :
    Numberless (.array items) ↔ ∀ item ∈ items, item.Numberless := by
  rw [Numberless]
  induction items with
  | nil => simp [NumberlessItems]
  | cons item items ih => simp [NumberlessItems, ih]

theorem numberless_object {members : List (String × Json)} :
    Numberless (.object members) ↔ ∀ m ∈ members, m.2.Numberless := by
  rw [Numberless]
  induction members with
  | nil => simp [NumberlessMembers]
  | cons m members ih => obtain ⟨key, value⟩ := m; simp [NumberlessMembers, ih]

namespace Scan

theorem marked_writeItems (items : List Json) (rest : List Char) :
    Marked (writeItems plainStyle items rest) := by
  cases items with
  | nil => exact ⟨']', rest, by rw [writeItems], rfl⟩
  | cons item items => exact ⟨',', _, by rw [writeItems], rfl⟩

theorem marked_writeMembers (members : List (String × Json)) (rest : List Char) :
    Marked (writeMembers plainStyle members rest) := by
  cases members with
  | nil => exact ⟨'\x7d', rest, by rw [writeMembers], rfl⟩
  | cons m members => obtain ⟨key, value⟩ := m; exact ⟨',', _, by rw [writeMembers], rfl⟩

mutual

/-- A written value is read to its tokens; one that is no object has to end at a mark. -/
theorem run_write (v : Json) (hv : v.Numberless) (found : List Token) (rest : List Char)
    (hr : Marked rest ∨ ∃ members, v = .object members) :
    run ⟨.between, found⟩ (write plainStyle v rest) =
      run ⟨.between, (valueTokens v).reverse ++ found⟩ rest := by
  cases v with
  | null =>
    obtain hr | ⟨_, hr⟩ := hr
    · exact run_word (w := "null".toList) found hr (by decide) rfl
    · cases hr
  | bool b =>
    obtain hr | ⟨_, hr⟩ := hr
    · cases b with
      | true => exact run_word (w := "true".toList) found hr (by decide) rfl
      | false => exact run_word (w := "false".toList) found hr (by decide) rfl
    · cases hr
  | number n => exact absurd hv (by simp [Numberless])
  | text s => exact run_writeText found s rest
  | array items =>
    rw [Numberless] at hv
    cases items with
    | nil =>
      rw [write, run_mark found rfl rfl (by decide), run_mark _ rfl rfl (by decide)]
      simp [valueTokens]
    | cons item items =>
      rw [NumberlessItems] at hv
      rw [write, run_mark found rfl rfl (by decide),
        run_write item hv.1 _ _ (Or.inl (marked_writeItems items rest)),
        run_writeItems items hv.2]
      simp [valueTokens]
  | object members =>
    rw [Numberless] at hv
    cases members with
    | nil =>
      rw [write, run_mark found rfl rfl (by decide), run_mark _ rfl rfl (by decide)]
      simp [valueTokens]
    | cons m members =>
      obtain ⟨key, value⟩ := m
      rw [NumberlessMembers] at hv
      rw [write, run_mark found rfl rfl (by decide), run_writeText,
        run_mark _ rfl rfl (by decide),
        run_write value hv.1 _ _ (Or.inl (marked_writeMembers members rest)),
        run_writeMembers members hv.2]
      simp [valueTokens]

theorem run_writeItems (items : List Json) (hi : NumberlessItems items) (found : List Token)
    (rest : List Char) :
    run ⟨.between, found⟩ (writeItems plainStyle items rest) =
      run ⟨.between, (itemTokens items).reverse ++ found⟩ rest := by
  cases items with
  | nil =>
    rw [writeItems, run_mark found rfl rfl (by decide)]
    simp [itemTokens]
  | cons item items =>
    rw [NumberlessItems] at hi
    rw [writeItems, run_mark found rfl rfl (by decide),
      run_write item hi.1 _ _ (Or.inl (marked_writeItems items rest)), run_writeItems items hi.2]
    simp [itemTokens]

theorem run_writeMembers (members : List (String × Json)) (hm : NumberlessMembers members)
    (found : List Token) (rest : List Char) :
    run ⟨.between, found⟩ (writeMembers plainStyle members rest) =
      run ⟨.between, (memberTokens members).reverse ++ found⟩ rest := by
  cases members with
  | nil =>
    rw [writeMembers, run_mark found rfl rfl (by decide)]
    simp [memberTokens]
  | cons m members =>
    obtain ⟨key, value⟩ := m
    rw [NumberlessMembers] at hm
    rw [writeMembers, run_mark found rfl rfl (by decide), run_writeText,
      run_mark _ rfl rfl (by decide),
      run_write value hm.1 _ _ (Or.inl (marked_writeMembers members rest)),
      run_writeMembers members hm.2]
    simp [memberTokens]

end

end Scan

/-- The tokens of a written object are those that the object is made of. -/
theorem tokens?_write {members : List (String × Json)} (h : Numberless (.object members)) :
    tokens? (write plainStyle (.object members) []) = some (valueTokens (.object members)) := by
  unfold tokens?
  rw [Scan.run_write _ h [] [] (Or.inr ⟨members, rfl⟩), Scan.run]
  simp [Scan.finish]

end BpmnAudit.Json
