import EntitySearch.Number.Shortest

/-! Doubles as text.

Plain text never has an exponent; JSON text has one outside a middle range.
Reading accepts a sign, digits with at most one point, and an exponent, or a
word for infinity or for no number.
-/

set_option autoImplicit false

namespace EntitySearch.Number

def positional (digits : List Char) (point : Int) : List Char :=
  match point with
  | .ofNat p =>
    if p = 0 then '0' :: '.' :: digits
    else if p < digits.length then digits.take p ++ '.' :: digits.drop p
    else digits ++ List.replicate (p - digits.length) '0'
  | .negSucc p => '0' :: '.' :: List.replicate (p + 1) '0' ++ digits

def plainMagnitude (x : Float) : List Char :=
  let s := magnitudeOf x
  if s.significand = 0 then ['0'] else
  let d := shortest .up s
  let digits := digitsOf d.digits
  positional digits (digits.length + d.exponent)

def plainText (x : Float) : String :=
  if x.isNaN then "NaN" else
  let sign := if signOf x then ['-'] else []
  String.ofList (sign ++ if isFiniteFloat x then plainMagnitude x else ['i', 'n', 'f'])

def scientific (digits : List Char) (exponent : Int) : List Char :=
  let fraction := match digits.drop 1 with
    | [] => []
    | rest => '.' :: rest
  let sign := if exponent < 0 then '-' else '+'
  digits.take 1 ++ fraction ++ 'e' :: sign :: digitsOf exponent.natAbs

def jsonMagnitude (x : Float) : List Char :=
  let s := magnitudeOf x
  if s.significand = 0 then ['0', '.', '0'] else
  let d := shortest .toEven s
  let digits := digitsOf d.digits
  let point := digits.length + d.exponent
  if 16 < point ∨ point ≤ -5 then scientific digits (point - 1)
  else if digits.length ≤ point then positional digits point ++ ['.', '0']
  else positional digits point

/-- JSON has no number for infinities and NaN. -/
def jsonText (x : Float) : String :=
  if isFiniteFloat x then
    String.ofList ((if signOf x then ['-'] else []) ++ jsonMagnitude x)
  else "null"

def readUnsigned? (cs : List Char) : Option Decimals := do
  let whole := cs.takeWhile Char.isDigit
  let rest := cs.dropWhile Char.isDigit
  let (fraction, rest) := match rest with
    | '.' :: rest => (rest.takeWhile Char.isDigit, rest.dropWhile Char.isDigit)
    | rest => ([], rest)
  if whole.isEmpty && fraction.isEmpty then none
  else
    let digits := valueOf (whole ++ fraction)
    match rest with
    | [] => some ⟨digits, -fraction.length⟩
    | e :: exponent =>
      if e = 'e' ∨ e = 'E' then do
        let exponent ← readInt? exponent
        some ⟨digits, exponent - fraction.length⟩
      else none

/-- The nearest number of a format. Exponents far outside its range are not expanded. -/
def Decimals.nearest (format : BinaryFormat) (d : Decimals) : Option Scaled :=
  let top := ((digitsOf d.digits).length : Int) + d.exponent
  if d.digits = 0 ∨ top < -400 then some ⟨0, format.lowest⟩
  else if 400 < top then none
  else
    let (n, den) := unscale 10 (-d.exponent) d.digits 1
    format.nearest n den

def readFloat? (format : BinaryFormat) (text : String) : Option Float :=
  let (negative, body) := match text.toList with
    | '-' :: cs => (true, cs)
    | '+' :: cs => (false, cs)
    | cs => (false, cs)
  let word := String.ofList (body.map Char.toLower)
  if word = "inf" ∨ word = "infinity" then some (widen negative none)
  else if word = "nan" then some (Float.ofBits 0x7FF8000000000000)
  else (readUnsigned? body).map fun d => widen negative (d.nearest format)

end EntitySearch.Number
