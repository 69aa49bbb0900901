/-!
# Reading UTF-8

Bytes are read one character at a time. What stops a reading is a fault: where it starts, how many
bytes it covers, and why. A byte that can open no character is a fault of its own; a character that
breaks off before a byte that cannot continue it covers the bytes up to there; one that the end of
the bytes cuts short covers all that is left.
-/

namespace BpmnAudit.Text

/-- Why bytes are not UTF-8. -/
inductive Utf8Cause where
  | badStart
  | badContinuation
  | cutShort
  deriving DecidableEq, Repr

/-- A stretch of bytes that is not UTF-8; `first` is the byte at `start`. -/
structure Utf8Fault where
  start : Nat
  length : Nat
  first : UInt8
  cause : Utf8Cause
  deriving DecidableEq, Repr

def Utf8Cause.message : Utf8Cause → String
  | .badStart => "invalid start byte"
  | .badContinuation => "invalid continuation byte"
  | .cutShort => "unexpected end of data"

/-- What the first byte of a character asks of those that follow: the value it carries, the
bounds of the second byte, and how many bytes follow. -/
structure Utf8Lead where
  value : Nat
  low : Nat
  high : Nat
  tail : Nat
  deriving DecidableEq, Repr

/-- The bytes that may open a character. The bounds of the second byte leave out overlong forms,
surrogates and values past the last code point. -/
def utf8Lead? (b : Nat) : Option Utf8Lead :=
  if b < 0x80 then some ⟨b, 0x80, 0xbf, 0⟩
  else if b < 0xc2 then none
  else if b < 0xe0 then some ⟨b - 0xc0, 0x80, 0xbf, 1⟩
  else if b < 0xf0 then
    some ⟨b - 0xe0, if b = 0xe0 then 0xa0 else 0x80, if b = 0xed then 0x9f else 0xbf, 2⟩
  else if b < 0xf5 then
    some ⟨b - 0xf0, if b = 0xf0 then 0x90 else 0x80, if b = 0xf4 then 0x8f else 0xbf, 3⟩
  else none

/-- A character that bytes have opened and not yet closed. -/
structure Utf8Open where
  start : Nat
  first : UInt8
  seen : Nat
  value : Nat
  low : Nat
  high : Nat
  left : Nat

/-- Reads on from position `position`, inside the character `opened` if there is one. -/
def decodeUtf8From (position : Nat) (opened : Option Utf8Open) (done : List Char) :
    List UInt8 → Except Utf8Fault (List Char)
  | [] =>
    match opened with
    | none => .ok done.reverse
    | some o => .error ⟨o.start, position - o.start, o.first, .cutShort⟩
  | b :: rest =>
    match opened with
    | none =>
      match utf8Lead? b.toNat with
      | none => .error ⟨position, 1, b, .badStart⟩
      | some lead =>
        if lead.tail = 0 then
          decodeUtf8From (position + 1) none (Char.ofNat lead.value :: done) rest
        else
          let o := ⟨position, b, 1, lead.value, lead.low, lead.high, lead.tail⟩
          decodeUtf8From (position + 1) (some o) done rest
    | some o =>
      if o.low ≤ b.toNat ∧ b.toNat ≤ o.high then
        let value := o.value * 64 + (b.toNat - 0x80)
        if o.left ≤ 1 then decodeUtf8From (position + 1) none (Char.ofNat value :: done) rest
        else
          let o :=
            { o with seen := o.seen + 1, value, low := 0x80, high := 0xbf, left := o.left - 1 }
          decodeUtf8From (position + 1) (some o) done rest
      else .error ⟨o.start, o.seen, o.first, .badContinuation⟩

/-- The characters that the bytes encode, or the first fault. -/
def decodeUtf8 (bytes : List UInt8) : Except Utf8Fault (List Char) :=
  decodeUtf8From 0 none [] bytes

end BpmnAudit.Text
