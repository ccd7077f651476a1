/-! # Signed words

    The integers of scripts and of configurations are signed words of 64 bits.
-/

namespace Hyperfiction.Word

/-- How many words of 64 bits are not negative: two to the power of 63. -/
def half : Nat := 9223372036854775808

/-- Whether an integer is a signed word. -/
def isSigned (n : Int) : Bool :=
  -half ≤ n && n < half

end Hyperfiction.Word
