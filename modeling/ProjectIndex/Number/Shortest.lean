/-!
Shortest decimal digits of a binary64 value.

A finite double `m × 2^q` stands for the interval of reals that round to it: from halfway to its
lower neighbour to halfway to its upper neighbour, both ends included exactly when `m` is even.
The selected decimal is the one with the fewest significant digits inside that interval, and of
two such decimals the one nearer to the value, an exact tie going to the even one. Reading the
selected decimal back gives the same double.

The search is the specification turned into a loop: for `n = 1, 2, …` significant digits it tests
the value's two neighbours on the grid `10^(k - n)`, where `10^k` is the least power of ten above
the value, and the first grid with a hit wins. Everything is exact arithmetic on `Nat` and `Int`.

Owns: `Binary`, `Dec`, `Binary.readsBack`, `Binary.shortest`, and `Binary.roundPlaces` (rounding
to a fixed number of decimal places, ties to even).
-/

namespace ProjectIndex.Number

/-- A finite non-negative binary64 value `m × 2^q`. -/
structure Binary where
  m : Nat
  q : Int
  /-- The gap to the value below is half the gap to the value above. -/
  narrowBelow : Bool

/-- The magnitude bits of a finite value. NaN and the infinities are no such value. -/
def Binary.ofBits (bits : UInt64) : Binary :=
  let e := ((bits >>> 52) &&& 0x7FF).toNat
  let f := (bits &&& 0xFFFFFFFFFFFFF).toNat
  if e == 0 then ⟨f, -1074, false⟩ else ⟨Nat.pow 2 52 + f, (e : Int) - 1075, f == 0 && e > 1⟩

/-- A decimal `digits × 10^exp`. -/
structure Dec where
  digits : Nat
  exp : Int
deriving Repr, DecidableEq

/-- Compare `a × 10^i` with `n × 2^j`, exactly. -/
def cmpScaled (a : Nat) (i : Int) (n : Nat) (j : Int) : Ordering :=
  compare (a * Nat.pow 10 i.toNat * Nat.pow 2 (-j).toNat)
    (n * Nat.pow 2 j.toNat * Nat.pow 10 (-i).toNat)

/-- The decimal lies among the reals that round to the value (to nearest, ties to even). -/
def Binary.readsBack (x : Binary) (d : Dec) : Bool :=
  let lo := if x.narrowBelow then 4 * x.m - 1 else 4 * x.m - 2
  let hi := 4 * x.m + 2
  let incl := x.m % 2 == 0
  let cl := cmpScaled d.digits d.exp lo (x.q - 2)
  let ch := cmpScaled d.digits d.exp hi (x.q - 2)
  (cl == .gt || (incl && cl == .eq)) && (ch == .lt || (incl && ch == .eq))

/-- `10^k ≤ m × 2^q`. -/
def Binary.atLeastPow10 (x : Binary) (k : Int) : Bool :=
  cmpScaled 1 k x.m x.q != .gt

/-- Number of decimal digits of `n` (one for zero). -/
def decimalWidth (n : Nat) : Nat :=
  (Nat.toDigits 10 n).length

/-- The least `k` with `m × 2^q < 10^k`, for a non-zero value: estimated from the widths of the
numerator and denominator, then corrected by exact comparison. -/
def Binary.scale (x : Binary) : Int :=
  let num := x.m * Nat.pow 2 x.q.toNat
  let den := Nat.pow 2 (-x.q).toNat
  let guess : Int := (decimalWidth num : Int) - (decimalWidth den : Int)
  -- `10^(guess - 1) ≤ value < 10^(guess + 1)`: one comparison decides.
  if x.atLeastPow10 guess then guess + 1 else guess

/-- `⌊(m × 2^q) / 10^e⌋`. -/
def Binary.floorOnGrid (x : Binary) (e : Int) : Nat :=
  (x.m * Nat.pow 2 x.q.toNat * Nat.pow 10 (-e).toNat) /
    (Nat.pow 2 (-x.q).toNat * Nat.pow 10 e.toNat)

/-- Of two grid points `a × 10^e` and `(a + 1) × 10^e` around the value, the one nearer to it,
the even one on a tie. -/
def Binary.nearerOf (x : Binary) (a : Nat) (e : Int) : Nat :=
  -- Twice the value against the sum of the two points.
  match cmpScaled (2 * a + 1) e (2 * x.m) x.q with
  | .lt => a + 1
  | .gt => a
  | .eq => if a % 2 == 0 then a else a + 1

/-- The hit on the grid `10^e`: the value's neighbours on it that read back, the nearer of two. -/
def Binary.hitOnGrid (x : Binary) (e : Int) : Option Dec :=
  let a := x.floorOnGrid e
  match x.readsBack ⟨a, e⟩, x.readsBack ⟨a + 1, e⟩ with
  | true, true => some ⟨x.nearerOf a e, e⟩
  | true, false => some ⟨a, e⟩
  | false, true => some ⟨a + 1, e⟩
  | false, false => none

/-- Move trailing zeros of the digits into the exponent. -/
def Dec.normalize (d : Dec) : Dec :=
  go d.digits d.exp d.digits
where
  /-- `fuel` bounds the number of zeros removed by the digits themselves. -/
  go (digits : Nat) (exp : Int) : Nat → Dec
    | 0 => ⟨digits, exp⟩
    | fuel + 1 =>
      if digits != 0 && digits % 10 == 0 then go (digits / 10) (exp + 1) fuel else ⟨digits, exp⟩

/-- The exact decimal value of `m × 2^q`. -/
def Binary.exact (x : Binary) : Dec :=
  if x.q ≥ 0 then ⟨x.m * Nat.pow 2 x.q.toNat, 0⟩
  else ⟨x.m * Nat.pow 5 (-x.q).toNat, x.q⟩

/-- The shortest decimal that reads back as the value, for a non-zero value. -/
def Binary.shortest (x : Binary) : Dec :=
  let k := x.scale
  let found := (List.range 17).findSome? fun n => x.hitOnGrid (k - ((n + 1 : Nat) : Int))
  (found.getD x.exact).normalize

/-- `round(value × 10^places)` as an integer, ties to even: the value rounded to `places` decimal
places, in units of `10^-places`. -/
def Binary.roundPlaces (x : Binary) (places : Nat) : Nat :=
  let num := x.m * Nat.pow 2 x.q.toNat * Nat.pow 10 places
  let den := Nat.pow 2 (-x.q).toNat
  let quotient := num / den
  let twiceRest := 2 * (num % den)
  if twiceRest > den then quotient + 1
  else if twiceRest < den then quotient
  else if quotient % 2 == 0 then quotient else quotient + 1

end ProjectIndex.Number
