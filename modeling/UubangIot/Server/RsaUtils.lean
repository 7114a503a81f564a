import UubangIot.Lib.MachineInt

/-!
# RSA key generation and message coding

`RSAUtils.c` with its machine arithmetic: every product and sum is checked at the width of its
C type, every division has a divisor check, and the message loops read an array through
optional lookups. A loop the source bounds by its own condition carries a round count; `none`
stands for an undefined operation or for a loop that has used its rounds, so a result is a
statement that neither happened. `rand()` is a stream of nonnegative values and a position in
it.
-/

namespace UubangIot.RsaUtils

open MachineInt

/-- `SERVER.h` `RSAKey`. -/
structure RSAKey where
  /-- Public exponent. -/
  publicKey : Int
  /-- Private exponent. -/
  privateKey : Int
  /-- Modulus. -/
  commonKey : Int
  /-- Characters packed into one block. -/
  encryptBlockBytes : Int
  deriving DecidableEq, Repr

/-- `ACCURACY`. -/
def accuracy : Nat := 10
/-- `SINGLE_MAX`. -/
def singleMax : Int := 10000
/-- `EXPONENT_MAX`. -/
def exponentMax : Int := 10000

/-- `(res * a) % c`, the product a `long long`. -/
def mulMod (res a c : Int) : Option Int := do
  let product ← long (res * a)
  rem product c

/-- Loop of `modpow`: `res` is an `int`, `a` and `b` are `long long`. -/
def modpowLoop : Nat → Int → Int → Int → Int → Option Int
  | 0, _, _, _, _ => none
  | fuel + 1, res, a, b, c =>
    if 0 < b then do
      let res ← if b % 2 = 1 then (mulMod res a c).bind int else some res
      let a ← mulMod a a c
      modpowLoop fuel res a (b / 2) c
    else some res

/-- `modpow` — `a^b mod c` by repeated squaring. A nonnegative `long long` exponent has at most
63 binary digits. -/
def modpow (a b c : Int) : Option Int := modpowLoop 64 1 a b c

/-- `while(a % 2 == 0 && ++twos) a /= 2`. -/
def factorTwos : Nat → Int → Nat → Option (Int × Nat)
  | 0, _, _ => none
  | fuel + 1, a, twos => if a.tmod 2 = 0 then factorTwos fuel (a.tdiv 2) (twos + 1)
    else some (a, twos)

/-- Loop of `jacobi`; the three exits of the source end in the same final test. -/
def jacobiLoop : Nat → Int → Int → Int → Option Int
  | 0, _, _, _ => none
  | fuel + 1, a, n, mult =>
    let stop (a mult : Int) : Option Int :=
      some (if a = 0 then 0 else if a = 1 then mult else 0)
    if ¬(1 < a ∧ a ≠ n) then stop a mult
    else
      (rem a n).bind fun a =>
      if a ≤ 1 ∨ a = n then stop a mult
      else
        (factorTwos 32 a 0).bind fun (a, twos) =>
        let mult := if 0 < twos ∧ twos % 2 = 1 then
            mult * ((if n.tmod 8 = 1 ∨ n.tmod 8 = 7 then 1 else 0) * 2 - 1)
          else mult
        if a ≤ 1 ∨ a = n then stop a mult
        else
          let mult := if n.tmod 4 ≠ 1 ∧ a.tmod 4 ≠ 1 then -mult else mult
          jacobiLoop fuel n a mult

/-- `jacobi` — the Jacobi symbol `(a / n)`. The modulus shrinks in every round. -/
def jacobi (a n : Int) : Option Int := jacobiLoop (n.toNat + 1) a n 1

/-- `solovayPrime` — whether `a` is no Euler witness against `n`. -/
def solovayPrime (a n : Int) : Option Bool := do
  let x ← jacobi a n
  let x := if x = -1 then n - 1 else x
  if x = 0 then return false
  let power ← modpow a ((n - 1).tdiv 2) n
  return power = x

/-- `while(k-- > 0)` of `probablePrime`. -/
def probablePrimeLoop (rand : Nat → Nat) (n : Int) : Nat → Nat → Option (Bool × Nat)
  | 0, draw => some (true, draw)
  | k + 1, draw => do
    let base ← rem (rand draw) (n - 2)
    if ← solovayPrime (base + 2) n then probablePrimeLoop rand n k (draw + 1)
    else return (false, draw + 1)

/-- `probablePrime` — `k` Solovay rounds on `n`. -/
def probablePrime (rand : Nat → Nat) (n : Int) (k draw : Nat) : Option (Bool × Nat) :=
  if n = 2 then some (true, draw)
  else if n.tmod 2 = 0 ∨ n = 1 then some (false, draw)
  else probablePrimeLoop rand n k draw

/-- `while(1)` of `randPrime`, after `n` was made even. -/
def randPrimeLoop (rand : Nat → Nat) (n : Int) : Nat → Int → Nat → Option (Int × Nat)
  | 0, _, _ => none
  | fuel + 1, prime, draw => do
    let (accepted, draw) ← probablePrime rand prime accuracy draw
    if accepted then return (prime, draw)
    let next ← rem (prime + 2) n
    randPrimeLoop rand n fuel next draw

/-- `randPrime` — a probable prime below `n`. The search steps by two modulo an even bound, so
`n` rounds visit every odd residue. -/
def randPrime (rand : Nat → Nat) (n : Int) (draw : Nat) : Option (Int × Nat) := do
  let prime ← rem (rand draw) n
  let bound := n + n.tmod 2
  let prime := prime + (1 - prime.tmod 2)
  randPrimeLoop rand bound n.toNat prime (draw + 1)

/-- Loop of `gcd`; the second argument shrinks in every round. -/
def gcdLoop : Nat → Int → Int → Option Int
  | 0, _, _ => none
  | fuel + 1, a, b => if b ≠ 0 then (rem a b).bind fun r => gcdLoop fuel b r else some a

/-- `gcd`. -/
def gcd (a b : Int) : Option Int := gcdLoop (b.natAbs + 1) a b

/-- `while(1)` of `randExponent`. -/
def randExponentLoop (phi n : Int) : Nat → Int → Option Int
  | 0, _ => none
  | fuel + 1, e => do
    let divisor ← gcd e phi
    if divisor = 1 then return e
    let next ← rem (e + 1) n
    randExponentLoop phi n fuel (if next ≤ 2 then 3 else next)

/-- `randExponent` — an exponent coprime to `phi`, from the drawn start upward with a wrap to 3;
`2 * n` rounds visit every candidate. -/
def randExponent (rand : Nat → Nat) (phi n : Int) (draw : Nat) : Option (Int × Nat) := do
  let start ← rem (rand draw) n
  let e ← randExponentLoop phi n (2 * n.toNat) start
  return (e, draw + 1)

/-- Loop of `inverse`: the extended Euclidean algorithm, every product and difference an
`int`. -/
def inverseLoop : Nat → Int → Int → Int → Int → Int → Int → Option Int
  | 0, _, _, _, _, _, _ => none
  | fuel + 1, a, b, x, y, x0, y0 =>
    if b ≠ 0 then do
      let q := a.tdiv b
      let r := a.tmod b
      let qx ← int (q * x)
      let xNext ← int (x0 - qx)
      let qy ← int (q * y)
      let yNext ← int (y0 - qy)
      inverseLoop fuel b r xNext yNext x y
    else some x0

/-- `inverse` — the inverse of `n` by the extended Euclidean algorithm. The divisor shrinks in
every round after the first. -/
def inverse (n modulus : Int) : Option Int := do
  let x0 ← inverseLoop (modulus.natAbs + 1) n modulus 0 1 1 0
  if x0 < 0 then int (x0 + modulus) else return x0

/-- `encode` — `m^e mod n`. -/
def encode (m e n : Int) : Option Int := modpow m e n

/-- `decode` — `c^d mod n`. -/
def decode (c d n : Int) : Option Int := modpow c d n

/-- `for(j = 0; j < bytes; j++) x += message[i + j] * (1 << (7 * j))`. -/
def packLoop (message : List Int) (i : Nat) : Nat → Nat → Int → Option Int
  | 0, _, x => some x
  | rounds + 1, j, x => do
    let character ← message[i + j]?
    let weight ← int (2 ^ (7 * j))
    let term ← int (character * weight)
    let x ← int (x + term)
    packLoop message i rounds (j + 1) x

/-- Block loop of `encodeMessage`: the written array, one entry a block. -/
def encodeLoop (len bytes : Nat) (message : List Int) (exponent modulus : Int) :
    Nat → Nat → Option (List Int)
  | 0, _ => none
  | fuel + 1, i =>
    if i < len then do
      let x ← packLoop message i bytes 0 0
      let block ← decode x exponent modulus
      let rest ← encodeLoop len bytes message exponent modulus fuel (i + bytes)
      return block :: rest
    else some []

/-- `encodeMessage` — `len / bytes` blocks of `bytes` seven-bit characters each. -/
def encodeMessage (len bytes : Nat) (message : List Int) (exponent modulus : Int) :
    Option (List Int) :=
  encodeLoop len bytes message exponent modulus (len + 1) 0

/-- `for(j = 0; j < bytes; j++) outSource[i*bytes + j] = (x >> (7 * j)) % 128`. -/
def unpackLoop (x : Int) : Nat → Nat → List Int
  | 0, _ => []
  | rounds + 1, j => (x / 2 ^ (7 * j)).tmod 128 :: unpackLoop x rounds (j + 1)

/-- Block loop of `decodeMessage`: the written characters in order. -/
def decodeLoop (bytes : Nat) (cryptogram : List Int) (exponent modulus : Int) :
    Nat → Nat → Option (List Int)
  | 0, _ => some []
  | blocks + 1, i => do
    let block ← cryptogram[i]?
    let x ← decode block exponent modulus
    let rest ← decodeLoop bytes cryptogram exponent modulus blocks (i + 1)
    return unpackLoop x bytes 0 ++ rest

/-- `decodeMessage` — the characters of `len` blocks. -/
def decodeMessage (len bytes : Nat) (cryptogram : List Int) (exponent modulus : Int) :
    Option (List Int) :=
  decodeLoop bytes cryptogram exponent modulus len 0

/-- `while(1)` of `InitRSA`: draw two primes until their product reaches 128. -/
def drawPrimes (rand : Nat → Nat) : Nat → Nat → Option (Int × Int × Nat)
  | 0, _ => none
  | fuel + 1, draw => do
    let (p, draw) ← randPrime rand singleMax draw
    let (q, draw) ← randPrime rand singleMax draw
    let n ← int (p * q)
    if n < 128 then drawPrimes rand fuel draw else return (p, q, draw)

/-- `if(n >> 21) bytes = 3; else if(n >> 14) bytes = 2; else bytes = 1`. -/
def blockBytes (n : Int) : Nat :=
  if n / 2 ^ 21 ≠ 0 then 3 else if n / 2 ^ 14 ≠ 0 then 2 else 1

/-- `InitRSA` after its two primes are drawn. -/
def makeKey (rand : Nat → Nat) (p q : Int) (draw : Nat) : Option (RSAKey × Nat) := do
  let n ← int (p * q)
  let phi ← int ((p - 1) * (q - 1))
  let (e, draw) ← randExponent rand phi exponentMax draw
  let d ← inverse e phi
  return (⟨e, d, n, blockBytes n⟩, draw)

/-- `InitRSA` — the stored key and the position in the random stream after it. The draw loop
has no bound of its own in the source, so its rounds are an argument. -/
def initRSA (rand : Nat → Nat) (rounds draw : Nat) : Option (RSAKey × Nat) := do
  let (p, q, draw) ← drawPrimes rand rounds draw
  makeKey rand p q draw

end UubangIot.RsaUtils
