/-!
# Runs of characters

A class of characters is listed as the first and the last code points of its runs.
-/

namespace Reckoner.Text

/-- One of the runs holds the code point of the character. -/
def inRuns (runs : List (Nat × Nat)) (c : Char) : Bool :=
  runs.any fun (first, last) => first ≤ c.toNat && c.toNat ≤ last

end Reckoner.Text
