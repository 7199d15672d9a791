/-
The text of a floating-point number, and the number that a decimal text
denotes. A number is written with the fewest digits that read back; where the
point stands and how an exponent is written is the choice of `layout`.
-/
import Fingerprint.Decimal.Shortest

namespace Fingerprint.Decimal

/-- How numbers are laid out: the leading exponents written without an exponent part, and the
least width of an exponent. -/
structure Layout where
  positionalFrom : Int
  positionalTo : Int
  exponentWidth : Nat

/-- Numbers from 0.0001 up to but not including 10^16 are written in positions, with at least one
digit after the point; an exponent has a sign and at least two digits. -/
def layout : Layout := ⟨-4, 15, 2⟩

/-- Strips zeros at the end of a number's digits, raising the exponent for each. -/
def Digits.normalize (d : Digits) : Nat → Digits
  | 0 => d
  | fuel + 1 =>
    if d.digits % 10 = 0 ∧ d.digits ≠ 0 then (⟨d.digits / 10, d.exponent + 1⟩ : Digits).normalize fuel
    else d

/-- The decimal text of a natural number as characters. -/
def natText (n : Nat) : List Char := Nat.toDigits 10 n

/-- Pads with zeros on the left up to a width. -/
def padZeros (width : Nat) (s : List Char) : List Char :=
  List.replicate (width - s.length) '0' ++ s

/-- A positive decimal in a layout. -/
def Digits.text (l : Layout) (d : Digits) : List Char :=
  let d := d.normalize 20
  let ds := natText d.digits
  let top : Int := d.exponent + ds.length - 1
  if l.positionalFrom ≤ top ∧ top ≤ l.positionalTo then
    if 0 ≤ d.exponent then ds ++ List.replicate d.exponent.toNat '0' ++ ['.', '0']
    else if 0 ≤ top then
      ds.take (top.toNat + 1) ++ '.' :: ds.drop (top.toNat + 1)
    else '0' :: '.' :: (List.replicate ((-top).toNat - 1) '0' ++ ds)
  else
    let mantissa := match ds with
      | c :: r@(_ :: _) => c :: '.' :: r
      | short => short
    mantissa ++ ['e', if top < 0 then '-' else '+']
      ++ padZeros l.exponentWidth (natText top.natAbs)

/-- The weight of the sign bit, which stands above the eleven bits of the exponent. -/
def signWeight : Nat := 0x8000000000000000

/-- The weight of the lowest bit of the exponent, which stands above the 52 bits of the fraction. -/
def exponentWeight : Nat := 0x10000000000000

/-- The parts of a finite number other than zero, without its sign. -/
def binaryOf (bits : Nat) : Binary :=
  let e : Nat := bits / exponentWeight
  let f : Nat := bits % exponentWeight
  if e = 0 then ⟨f, -1074, false⟩
  else ⟨exponentWeight + f, (e : Int) - 1075, decide (f = 0 ∧ 1 < e)⟩

/-- The text of a floating-point number. -/
def floatText (x : Float) : List Char :=
  let bits := x.toBits.toNat
  let sign := if signWeight ≤ bits then ['-'] else []
  let rest := bits % signWeight
  if x.isNaN then ['n', 'a', 'n']
  else if x.isInf then sign ++ ['i', 'n', 'f']
  else if rest = 0 then sign ++ ['0', '.', '0']
  else match shortest? (binaryOf rest) with
    | some d => sign ++ d.text layout
    | none => sign

/-- The floating-point number nearest to `mantissa · 10^exponent`. -/
def toFloat (mantissa : Nat) (exponent : Int) : Float :=
  let top : Int := exponent + (natText mantissa).length
  if mantissa = 0 then 0.0
  else if 400 < top then 1.0 / 0.0
  else if top < -400 then 0.0
  else if 0 ≤ exponent then Float.ofScientific mantissa false exponent.toNat
  else Float.ofScientific mantissa true (-exponent).toNat

end Fingerprint.Decimal
