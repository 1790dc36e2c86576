/-! # Classes of characters

A class of characters is a list of blocks, and a block is given by the codes of its first and its
last character.
-/

namespace Courier.Text

/-- A class of characters, as blocks in ascending order. -/
abbrev Blocks := List (Nat × Nat)

def Blocks.has (blocks : Blocks) (c : Char) : Bool :=
  blocks.any fun (first, last) => first ≤ c.toNat && c.toNat ≤ last

end Courier.Text
