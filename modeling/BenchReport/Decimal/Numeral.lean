import BenchReport.Decimal.Shortest

namespace BenchReport

structure NumeralStyle where
  tie : Tie
  positional : Int → Bool
  wholeMark : List Char

namespace NumeralStyle

def plain : NumeralStyle := ⟨.up, fun _ => true, []⟩

def json : NumeralStyle := ⟨.toEven, fun p => decide (-4 ≤ p ∧ p ≤ 16), ['.', '0']⟩

end NumeralStyle

namespace Decimal

def zeros (n : Int) : List Char := List.replicate n.toNat '0'

def positional (wholeMark : List Char) (d : Decimal) : List Char :=
  if 0 ≤ d.exponent then d.figures ++ zeros d.exponent ++ wholeMark
  else if 0 < d.point then
    d.figures.take d.point.toNat ++ '.' :: d.figures.drop d.point.toNat
  else '0' :: '.' :: (zeros (-d.point) ++ d.figures)

def scientific (d : Decimal) : List Char :=
  let e := d.point - 1
  d.figures.take 1 ++ (if d.figures.length = 1 then [] else '.' :: d.figures.drop 1) ++
    'e' :: (if e < 0 then '-' else '+') :: Nat.toDigits 10 e.natAbs

def write (style : NumeralStyle) (d : Decimal) : List Char :=
  if style.positional d.point then positional style.wholeMark d else scientific d

end Decimal

namespace Double

def signed (x : Double) (size : List Char) : List Char := if x.negative then '-' :: size else size

def write (style : NumeralStyle) (x : Double) : List Char :=
  if x.isNaN then "NaN".toList
  else x.signed <| if x.isFinite then (Decimal.shortest style.tie x).write style else "inf".toList

def text (x : Double) : String := String.ofList (x.write .plain)

def fixed (places : Nat) (x : Double) : String :=
  if x.isNaN then "NaN"
  else if x.isFinite then
    let n := roundHalfEven (x.numerator * Nat.pow 10 places) x.denominator
    let figures := (Nat.toDigits 10 n).leftpad (places + 1) '0'
    let whole := figures.take (figures.length - places)
    let rest := figures.drop (figures.length - places)
    String.ofList (x.signed (whole ++ if places = 0 then [] else '.' :: rest))
  else String.ofList (x.signed "inf".toList)

end Double

namespace Numeral

def digitsValue (ds : List Char) : Nat := Nat.ofDigitChars 10 ds 0

def unsign : List Char → Bool × List Char
  | '-' :: cs => (true, cs)
  | '+' :: cs => (false, cs)
  | cs => (false, cs)

def exponent? : List Char → Option Int
  | [] => some 0
  | c :: cs =>
    if c = 'e' ∨ c = 'E' then
      let (negative, ds) := unsign cs
      if ds.isEmpty ∨ !ds.all Char.isDigit then none
      else some (if negative then -digitsValue ds else digitsValue ds)
    else none

def decimal? (cs : List Char) : Option Decimal :=
  let whole := cs.takeWhile Char.isDigit
  let rest := cs.dropWhile Char.isDigit
  let fraction := if rest.head? = some '.' then rest.tail.takeWhile Char.isDigit else []
  let rest := if rest.head? = some '.' then rest.tail.dropWhile Char.isDigit else rest
  if whole.isEmpty ∧ fraction.isEmpty then none
  else (exponent? rest).map fun e => ⟨digitsValue (whole ++ fraction), e - fraction.length⟩

def magnitude? (cs : List Char) : Option Nat :=
  let word := String.ofList (cs.map Char.toLower)
  if word = "inf" ∨ word = "infinity" then some Double.infinity
  else if word = "nan" then some 0x7ff8000000000000
  else (decimal? cs).map Decimal.nearest

def read? (cs : List Char) : Option Double :=
  let (negative, size) := unsign cs
  (magnitude? size).map (Double.ofMagnitude negative)

end Numeral

end BenchReport
