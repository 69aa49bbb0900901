/-!
# Words that look alike

The likeness of two words is twice the number of characters they share in order, over the sum of
their lengths. Shared characters are counted by blocks: the longest common block, the earliest one
if several are as long, then the same to its left and to its right.
-/

namespace BpmnAudit.Text

/-- The length of the common start of two lists. -/
def commonStart : List Char → List Char → Nat
  | a :: as, b :: bs => if a = b then commonStart as bs + 1 else 0
  | _, _ => 0

/-- A common block: where it starts on either side, and its length. -/
structure Block where
  left : Nat
  right : Nat
  length : Nat
  deriving DecidableEq, Repr

/-- The longest common block, the earliest on the left and then on the right. -/
def longestBlock (as bs : List Char) : Block :=
  (List.range as.length).foldl (fun best i =>
    (List.range bs.length).foldl (fun best j =>
      let length := commonStart (as.drop i) (bs.drop j)
      if best.length < length then ⟨i, j, length⟩ else best) best) ⟨0, 0, 0⟩

/-- The characters shared in order, by blocks; `fuel` bounds the number of blocks on a side. -/
def sharedWithin : (fuel : Nat) → List Char → List Char → Nat
  | 0, _, _ => 0
  | fuel + 1, as, bs =>
    let block := longestBlock as bs
    if block.length = 0 then 0
    else
      sharedWithin fuel (as.take block.left) (bs.take block.right) + block.length +
        sharedWithin fuel (as.drop (block.left + block.length))
          (bs.drop (block.right + block.length))

/-- The number of characters two words share in order. -/
def shared (as bs : List Char) : Nat := sharedWithin as.length as bs

/-- A likeness as a fraction, `(2 * shared, sum of lengths)`. -/
def likeness (a b : String) : Nat × Nat :=
  (2 * shared a.toList b.toList, a.length + b.length)

/-- Whether a likeness is at least three fifths. -/
def isClose (ratio : Nat × Nat) : Bool := 3 * ratio.2 ≤ 5 * ratio.1

/-- The words among `options` that look like `word`, the closest first, at most `count`. -/
def closeWords (count : Nat) (word : String) (options : List String) : List String :=
  let scored := (options.map fun option => (likeness option word, option)).filter (isClose ·.1)
  let before (x y : (Nat × Nat) × String) : Bool :=
    let (a, b) := (x.1.1 * y.1.2, y.1.1 * x.1.2)
    b < a || (a == b && y.2 < x.2)
  ((scored.mergeSort fun x y => before x y || !before y x).take count).map (·.2)

end BpmnAudit.Text
