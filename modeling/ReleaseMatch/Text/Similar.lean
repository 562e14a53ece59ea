set_option autoImplicit false

/-!
# Similar texts

Two texts are similar in so far as stretches of one come up in the other, in the same order. The
longest common stretch counts first, then those to its left and to its right.
-/
namespace ReleaseMatch.Text

def commonPrefix : List Char → List Char → Nat
  | a :: as, b :: bs => if a = b then commonPrefix as bs + 1 else 0
  | _, _ => 0

/-- A stretch that two texts have in common: where it starts in them, and its length. -/
structure Common where
  left : Nat
  right : Nat
  length : Nat
  deriving DecidableEq, Repr

/-- The longest common stretch, of several the first in the left text, then in the right one. -/
def longestCommon (as bs : List Char) : Common :=
  (List.range as.length).foldl (fun best i =>
    (List.range bs.length).foldl (fun (best : Common) j =>
      let n := commonPrefix (as.drop i) (bs.drop j)
      if best.length < n then ⟨i, j, n⟩ else best) best) ⟨0, 0, 0⟩

/-- How many characters of two texts go together; `fuel` is the length of the left one. -/
def matched : Nat → List Char → List Char → Nat
  | 0, _, _ => 0
  | fuel + 1, as, bs =>
    let c := longestCommon as bs
    if c.length = 0 then 0
    else
      c.length + matched fuel (as.take c.left) (bs.take c.right)
        + matched fuel (as.drop (c.left + c.length)) (bs.drop (c.right + c.length))

/-- The share of the characters that go together, as a ratio. -/
def similarity (a b : String) : Nat × Nat :=
  (2 * matched a.length a.toList b.toList, a.length + b.length)

/-- At least three in five characters go together. -/
def isSimilar (r : Nat × Nat) : Bool := r.2 * 3 ≤ r.1 * 5

/-- Whether the first of two, with their similarities, is named before the other. -/
def moreSimilar (a b : (Nat × Nat) × String) : Bool :=
  let left := a.1.1 * b.1.2
  let right := b.1.1 * a.1.2
  decide (right < left) || (left == right && !decide (a.2 < b.2))

/-- Up to three texts out of several that are similar to a given one, the most similar first. -/
def similarTo (s : String) (texts : List String) : List String :=
  let rated := (texts.map fun t => (similarity t s, t)).filter fun r => isSimilar r.1
  ((rated.mergeSort moreSimilar).take 3).map (·.2)

end ReleaseMatch.Text
