/-! # Octet strings

Everything that is hashed, sealed or sent is a list of octets. This module holds the
reading of such a list as a big-endian number, the two ways back (a fixed width, or the
fewest octets that hold the number), and strings whose length is part of their type.
-/

namespace Courier

/-- A string of octets. -/
abbrev Bytes := List UInt8

namespace Bytes

/-- The number that a string of octets spells, most significant octet first. -/
def value (bytes : Bytes) : Nat :=
  bytes.foldl (fun n octet => n * 256 + octet.toNat) 0

/-- The last `width` octets of a number, most significant first. -/
def ofNat : (width : Nat) → Nat → Bytes
  | 0, _ => []
  | width + 1, n => ofNat width (n / 256) ++ [UInt8.ofNat n]

/-- How many octets a number needs; zero needs none. -/
def width (n : Nat) : Nat := if n = 0 then 0 else n.log2 / 8 + 1

/-- A number in the fewest octets, so that the first one is never zero. -/
def minimal (n : Nat) : Bytes := ofNat (width n) n

@[simp] theorem length_ofNat (width n : Nat) : (ofNat width n).length = width := by
  induction width generalizing n with
  | zero => rfl
  | succ width ih => simp [ofNat, ih]

/-- The octets of a text in UTF-8. -/
def ofText (text : String) : Bytes := text.toUTF8.toList

end Bytes

/-- Exactly `n` octets. -/
@[ext] structure Octets (n : Nat) where
  /-- The octets in order. -/
  toList : Bytes
  /-- There are as many as the type says. -/
  length_toList : toList.length = n
  deriving DecidableEq

namespace Octets

variable {n : Nat}

/-- The octets of a list, if it has the right length. -/
def ofList? (bytes : Bytes) : Option (Octets n) :=
  if h : bytes.length = n then some ⟨bytes, h⟩ else none

/-- The last `n` octets of a number. -/
def ofNat (value : Nat) : Octets n := ⟨Bytes.ofNat n value, by simp⟩

/-- The number that the octets spell. -/
def value (octets : Octets n) : Nat := octets.toList.value

/-- `n` zero octets. -/
def zero : Octets n := ⟨List.replicate n 0, by simp⟩

/-- The first `k` octets. -/
def take (octets : Octets n) (k : Nat) (h : k ≤ n) : Octets k :=
  ⟨octets.toList.take k, by simp [octets.length_toList, h]⟩

/-- The last `k` octets. -/
def takeLast (octets : Octets n) (k : Nat) (h : k ≤ n) : Octets k :=
  ⟨octets.toList.drop (n - k), by simp [octets.length_toList]; omega⟩

instance : Inhabited (Octets n) := ⟨zero⟩

/-- Octet strings are ordered like words in a dictionary. -/
instance : LT (Octets n) := ⟨fun a b => a.toList < b.toList⟩

instance (a b : Octets n) : Decidable (a < b) :=
  inferInstanceAs (Decidable (a.toList < b.toList))

instance (octets : Octets n) (list : List (Octets n)) : Decidable (octets ∈ list) := inferInstance

theorem ofList?_eq_some {bytes : Bytes} {octets : Octets n} :
    ofList? bytes = some octets ↔ bytes = octets.toList := by
  unfold ofList?
  split
  · exact ⟨fun h => (congrArg toList (Option.some.inj h)), fun h => congrArg some (Octets.ext h)⟩
  · rename_i h
    exact ⟨nofun, fun h' => absurd (h' ▸ octets.length_toList) h⟩

@[simp] theorem ofList?_toList (octets : Octets n) : ofList? octets.toList = some octets :=
  ofList?_eq_some.2 rfl

end Octets

/-- A digest of 32 octets. -/
abbrev Hash := Octets 32

abbrev Address := Octets 20

/-- An unsigned number of 256 bits. -/
abbrev Word := BitVec 256

end Courier
