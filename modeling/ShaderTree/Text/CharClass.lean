/-!
# Classes of characters

The characters of words, and a property of characters as a table: pairs of the first and
the last number of each range.
-/

namespace ShaderTree

namespace Text

/-- A character of a word, in ASCII. -/
def isWordChar (c : Char) : Bool := c.isAlphanum || c == '_'

def inRanges (ranges : List (Nat × Nat)) (c : Char) : Bool :=
  ranges.any fun (first, last) => first ≤ c.toNat && c.toNat ≤ last

end Text

end ShaderTree
