/-! # Arithmetic modulo a prime

Residues are natural numbers below the modulus; every operation gives such a number back.
-/

namespace Courier.Modular

/-- The difference of two residues. -/
def sub (modulus a b : Nat) : Nat := (a + modulus - b) % modulus

/-- A power of a residue, for exponents of at most `bits` bits, by repeated squaring. -/
def pow (modulus base : Nat) : (bits : Nat) → (exponent : Nat) → Nat
  | 0, _ => 1 % modulus
  | bits + 1, exponent =>
    let half := pow modulus base bits (exponent / 2)
    let square := half * half % modulus
    if exponent % 2 = 1 then square * base % modulus else square

/-- The inverse of a residue modulo a prime of at most 256 bits; zero stays zero. -/
def inverse (modulus a : Nat) : Nat := pow modulus a 256 (modulus - 2)

end Courier.Modular
