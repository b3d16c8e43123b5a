/-
Module: LedgerAgent.Key.Curve
Purpose: The elliptic curve y² = x³ + 7 over the field of secp256k1.
Main exports: Key.Point, Key.Point.mul, Key.generator, Key.fieldPrime, Key.groupOrder,
  Key.liftX?
-/

namespace LedgerAgent.Key

/-- The order of the field. -/
def fieldPrime : Nat :=
  0xfffffffffffffffffffffffffffffffffffffffffffffffffffffffefffffc2f

/-- The order of the group. -/
def groupOrder : Nat :=
  0xfffffffffffffffffffffffffffffffebaaedce6af48a03bbfd25e8cd0364141

/-- `base ^ exponent` modulo `m`, over the lowest `bits` bits of the exponent. -/
def powMod (m : Nat) : Nat → Nat → Nat → Nat
  | 0, _, _ => 1 % m
  | bits + 1, base, exponent =>
    let rest := powMod m bits (base * base % m) (exponent / 2)
    if exponent % 2 = 1 then base * rest % m else rest

/-- The inverse modulo a prime of at most 256 bits; zero has none and gives zero. -/
def inverseMod (m a : Nat) : Nat :=
  powMod m 256 (a % m) (m - 2)

/-- `a - b` modulo `m`, for `b` below `m`. -/
def subMod (m a b : Nat) : Nat :=
  (a + (m - b % m)) % m

/-- A point in coordinates `(x / z², y / z³)`; the neutral point has `z = 0`. -/
structure Point where
  x : Nat
  y : Nat
  z : Nat
deriving Repr, Inhabited, DecidableEq

namespace Point

def zero : Point := ⟨1, 1, 0⟩

def double (a : Point) : Point :=
  if a.z = 0 ∨ a.y = 0 then zero
  else
    let p := fieldPrime
    let yy := a.y * a.y % p
    let s := 4 * a.x * yy % p
    let m := 3 * a.x * a.x % p
    let x := subMod p (m * m) (2 * s % p)
    let y := subMod p (m * subMod p s x) (8 * yy * yy % p)
    ⟨x, y, 2 * a.y * a.z % p⟩

def add (a b : Point) : Point :=
  if a.z = 0 then b
  else if b.z = 0 then a
  else
    let p := fieldPrime
    let az2 := a.z * a.z % p
    let bz2 := b.z * b.z % p
    let u1 := a.x * bz2 % p
    let u2 := b.x * az2 % p
    let s1 := a.y * (b.z * bz2 % p) % p
    let s2 := b.y * (a.z * az2 % p) % p
    if u1 = u2 then (if s1 = s2 then a.double else zero)
    else
      let h := subMod p u2 u1
      let r := subMod p s2 s1
      let hh := h * h % p
      let hhh := h * hh % p
      let v := u1 * hh % p
      let x := subMod p (subMod p (r * r) hhh) (2 * v % p)
      let y := subMod p (r * subMod p v x) (s1 * hhh % p)
      ⟨x, y, h * (a.z * b.z % p) % p⟩

/-- The multiple of a point by the lowest `bits` bits of a scalar. -/
def mulBits : Nat → Point → Nat → Point
  | 0, _, _ => zero
  | bits + 1, a, k =>
    let rest := mulBits bits a.double (k / 2)
    if k % 2 = 1 then a.add rest else rest

/-- The multiple of a point by a scalar of at most 256 bits. -/
def mul (a : Point) (k : Nat) : Point :=
  mulBits 256 a k

/-- The plane coordinates, unless the point is the neutral one. -/
def affine? (a : Point) : Option (Nat × Nat) :=
  if a.z = 0 then none
  else
    let p := fieldPrime
    let i := inverseMod p a.z
    let ii := i * i % p
    some (a.x * ii % p, a.y * (ii * i % p) % p)

end Point

/-- The point whose multiples are the group. -/
def generator : Point :=
  ⟨0x79be667ef9dcbbac55a06295ce870b07029bfcdb2dce28d959f2815b16f81798,
    0x483ada7726a3c4655da4fbfc0e1108a8fd17b448a68554199c47d08ffb10d4b8, 1⟩

/-- The `y` of the wanted parity that lies on the curve above `x`, if one does. -/
def liftX? (x : Nat) (odd : Bool) : Option Nat :=
  let p := fieldPrime
  if p ≤ x then none
  else
    let square := (x * x % p * x + 7) % p
    let root := powMod p 256 square ((p + 1) / 4)
    if root * root % p ≠ square then none
    else some (if (root % 2 = 1) = odd then root else (p - root) % p)

end LedgerAgent.Key
