set_option autoImplicit false

/-!
# Machine words

The signed integers of 32 and of 64 bits, which limit some of the numbers in documents, templates and
times.
-/
namespace ReleaseMatch.Number

def inWord32 (n : Int) : Bool := decide (-0x80000000 ≤ n) && decide (n < 0x80000000)

def inWord64 (n : Int) : Bool :=
  decide (-0x8000000000000000 ≤ n) && decide (n < 0x8000000000000000)

end ReleaseMatch.Number
