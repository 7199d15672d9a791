/-
The shortest decimal that reads back as a given binary fraction.

A finite positive number is `m · 2^q`. The reals that round to it fill an
interval whose ends lie half way to its neighbours, and belong to it iff `m`
is even. For one digit, two digits and so on up to seventeen, `shortest?`
tests the two points of the decimal grid on either side of the value; the
first grid with a point in the interval gives the digits, the nearer of two.
-/
namespace Fingerprint.Decimal

/-- A quotient of naturals, `den` not zero. -/
structure Ratio where
  num : Nat
  den : Nat

/-- The ratio `n · 2^e`. -/
def Ratio.scale2 (n : Nat) (e : Int) : Ratio :=
  if 0 ≤ e then ⟨n * Nat.pow 2 e.toNat, 1⟩ else ⟨n, Nat.pow 2 (-e).toNat⟩

/-- The ratio `n · 10^e`. -/
def Ratio.scale10 (n : Nat) (e : Int) : Ratio :=
  if 0 ≤ e then ⟨n * Nat.pow 10 e.toNat, 1⟩ else ⟨n, Nat.pow 10 (-e).toNat⟩

/-- Whether `a ≤ b`. -/
def Ratio.le (a b : Ratio) : Bool := decide (a.num * b.den ≤ b.num * a.den)

/-- Whether `a < b`. -/
def Ratio.lt (a b : Ratio) : Bool := decide (a.num * b.den < b.num * a.den)

/-- The distance between two ratios. -/
def Ratio.dist (a b : Ratio) : Ratio :=
  let x := a.num * b.den
  let y := b.num * a.den
  ⟨(x - y) + (y - x), a.den * b.den⟩

/-- A positive binary fraction `m · 2^q`, with a mark on those whose lower neighbour is at half
the distance of the upper one. -/
structure Binary where
  m : Nat
  q : Int
  closeBelow : Bool

/-- The value itself. -/
def Binary.value (b : Binary) : Ratio := .scale2 (4 * b.m) (b.q - 2)

/-- Whether a decimal rounds to the fraction. -/
def Binary.holds (b : Binary) (x : Ratio) : Bool :=
  let low := Ratio.scale2 (4 * b.m - (if b.closeBelow then 1 else 2)) (b.q - 2)
  let high := Ratio.scale2 (4 * b.m + 2) (b.q - 2)
  if b.m % 2 = 0 then low.le x && x.le high else low.lt x && x.lt high

/-- The exponent of the leading decimal digit, sought upward from `e` in at most `fuel` steps. -/
def leadingExponent (x : Ratio) : Nat → Int → Int
  | 0, e => e
  | fuel + 1, e => if (Ratio.scale10 1 (e + 1)).le x then leadingExponent x fuel (e + 1) else e

/-- A decimal: `digits · 10^exponent`. -/
structure Digits where
  digits : Nat
  exponent : Int
  deriving DecidableEq, Repr

/-- The point of the grid of step `10^p` that rounds to the fraction, the nearer if there are two
and the even one of two equally near. -/
def onGrid? (b : Binary) (p : Int) : Option Digits :=
  let v := b.value
  let step := Ratio.scale10 1 p
  let below := v.num * step.den / (v.den * step.num)
  let above := below + 1
  let lowHit := b.holds (.scale10 below p)
  let highHit := b.holds (.scale10 above p)
  if lowHit && highHit then
    let dl := v.dist (.scale10 below p)
    let dh := v.dist (.scale10 above p)
    if dl.lt dh then some ⟨below, p⟩
    else if dh.lt dl then some ⟨above, p⟩
    else if below % 2 = 0 then some ⟨below, p⟩ else some ⟨above, p⟩
  else if lowHit then some ⟨below, p⟩
  else if highHit then some ⟨above, p⟩
  else none

/-- The shortest decimal that rounds to the fraction. -/
def shortest? (b : Binary) : Option Digits :=
  let top := leadingExponent b.value 650 (-330)
  (List.range 17).findSome? fun n => onGrid? b (top - Int.ofNat n)

end Fingerprint.Decimal
