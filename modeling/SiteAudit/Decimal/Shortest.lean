/-!
# Shortest decimals of binary numbers

A finite binary number is `m · 2^q`.  Among the decimals that read back as it, the shortest is
wanted, and of those the nearest.  Everything is exact arithmetic on natural numbers.

* `Shortest.digits` gives the digits and the exponent of the shortest decimal.
* `Float.decode` splits a double into sign, mantissa and exponent.
* `floatText` writes a double: positional from `10^-4` up to `10^16`, and with an exponent of at
  least two digits beyond.
-/
namespace SiteAudit.Decimal

inductive Parts where
  | nan
  | infinite (negative : Bool)
  /-- The number `mantissa · 2^exponent`; `lowest` when the mantissa is the least of its exponent,
  so that the number below lies nearer than the one above. -/
  | finite (negative : Bool) (mantissa : Nat) (exponent : Int) (lowest : Bool)

/-- Takes a double apart by its bits. -/
def decode (x : Float) : Parts :=
  let bits := x.toBits.toNat
  let negative := Nat.pow 2 63 ≤ bits
  let e : Nat := bits / Nat.pow 2 52 % Nat.pow 2 11
  let f := bits % Nat.pow 2 52
  if e = 2047 then if f = 0 then .infinite negative else .nan
  else if e = 0 then .finite negative f (-1074) false
  else .finite negative (Nat.pow 2 52 + f) ((e : Int) - 1075) (f = 0 && 1 < e)

/-- A decimal `digits · 10^exponent`. -/
structure Ten where
  digits : Nat
  exponent : Int

/-- A fraction of natural numbers for `n · 2^p · 10^e`. -/
def scaled (n : Nat) (p e : Int) : Nat × Nat :=
  let num := n * (if 0 ≤ p then Nat.pow 2 p.toNat else 1) *
    (if 0 ≤ e then Nat.pow 10 e.toNat else 1)
  let den := (if 0 ≤ p then 1 else Nat.pow 2 (-p).toNat) *
    (if 0 ≤ e then 1 else Nat.pow 10 (-e).toNat)
  (num, den)

/-- Whether the decimal `d · 10^e` lies between the halves of the ways to the neighbours of
`m · 2^q`.  Halves themselves count when the mantissa is even. -/
def readsBack (m : Nat) (q : Int) (lowest : Bool) (d : Nat) (e : Int) : Bool :=
  -- all three in quarters of `2^q`
  let (num, den) := scaled (4 * d) (-q) e
  let low := 4 * m - (if lowest then 1 else 2)
  let high := 4 * m + 2
  let even := m % 2 == 0
  (if even then low * den ≤ num else low * den < num) &&
    (if even then num ≤ high * den else num < high * den)

/-- The greatest `k` with `10^k ≤ num / den`, searched downwards from a bound. -/
def leading (num den : Nat) : Nat → Int → Int
  | 0, k => k
  | fuel + 1, k =>
    let (a, b) := scaled 1 0 k
    if a * den ≤ num * b then k else leading num den fuel (k - 1)

/-- Tries decimals of `count` digits and more until one reads back. -/
def shortestFrom (m : Nat) (q : Int) (lowest : Bool) (top : Int) : Nat → Nat → Ten
  | 0, _ => { digits := m, exponent := 0 }
  | fuel + 1, count =>
    let e := top - (count - 1)
    let (num, den) := scaled m q (-e)
    let below := num / den
    let okBelow := readsBack m q lowest below e
    let okAbove := readsBack m q lowest (below + 1) e
    -- the remainder decides which neighbour is nearer; a tie goes to the even one
    let twice := 2 * (num % den)
    let preferAbove := den < twice || (twice == den && below % 2 == 1)
    if okBelow && (!okAbove || !preferAbove) then { digits := below, exponent := e }
    else if okAbove then { digits := below + 1, exponent := e }
    else shortestFrom m q lowest top fuel (count + 1)

/-- The shortest decimal that reads back as `m · 2^q`, for a positive mantissa. -/
def shortest (m : Nat) (q : Int) (lowest : Bool) : Ten :=
  let (num, den) := scaled m q 0
  let top := leading num den 700 310
  shortestFrom m q lowest top 17 1

/-- Digits without the zeros at their end, and how many those were. -/
def dropZeros : Nat → Nat → Nat × Nat
  | 0, n => (n, 0)
  | fuel + 1, n =>
    if n ≠ 0 && n % 10 = 0 then
      let (d, k) := dropZeros fuel (n / 10)
      (d, k + 1)
    else (n, 0)

def zerosText (n : Nat) : List Char := List.replicate n '0'

def tenText (t : Ten) : List Char :=
  let (d, k) := dropZeros 400 t.digits
  let e := t.exponent + k
  let ds := Nat.toDigits 10 d
  -- the place of the point, counted from the front of the digits
  let point : Int := ds.length + e
  if -4 < point && point ≤ 16 then
    if point ≤ 0 then '0' :: '.' :: zerosText (-point).toNat ++ ds
    else if ds.length ≤ point then ds ++ zerosText (point - ds.length).toNat ++ ['.', '0']
    else ds.take point.toNat ++ '.' :: ds.drop point.toNat
  else
    let exponent := point - 1
    let size := Nat.toDigits 10 exponent.natAbs
    let body := match ds with
      | [d] => [d]
      | d :: more => d :: '.' :: more
      | [] => []
    body ++ ['e', if exponent < 0 then '-' else '+'] ++ zerosText (2 - size.length) ++ size

def floatText (x : Float) : String :=
  match decode x with
  | .nan => "nan"
  | .infinite negative => if negative then "-inf" else "inf"
  | .finite negative m q lowest =>
    let body := if m = 0 then ['0', '.', '0'] else tenText (shortest m q lowest)
    String.ofList (if negative then '-' :: body else body)

/-- The double nearest to `digits · 10^exponent`; far outside the range of doubles the exact
value does not matter. -/
def nearest (digits : Nat) (exponent : Int) : Float :=
  let size := (Nat.toDigits 10 digits).length
  if digits = 0 then 0.0
  else if 400 < exponent + size then 1.0 / 0.0
  else if exponent + size < -400 then 0.0
  else if 0 ≤ exponent then Float.ofScientific digits false exponent.toNat
  else Float.ofScientific digits true (-exponent).toNat

end SiteAudit.Decimal
