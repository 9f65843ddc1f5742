import TableDraft.Number.Binary64

namespace TableDraft.Number

/-- The value `digits * 10 ^ exponent`. -/
structure DecimalValue where
  digits : Nat
  exponent : Int

/-- The reals that round to a positive double, as whole multiples of `2 ^ exponent`. -/
structure Neighbourhood where
  low : Nat
  value : Nat
  high : Nat
  closed : Bool
  exponent : Int

def Neighbourhood.of (mantissa : Nat) (exponent : Int) : Neighbourhood :=
  { low :=
      if mantissa == Nat.pow 2 52 && exponent > -1074 then 4 * mantissa - 1 else 4 * mantissa - 2
    value := 4 * mantissa
    high := 4 * mantissa + 2
    closed := mantissa % 2 == 0
    exponent := exponent - 2 }

/-- The quotient of `n * 2 ^ e` and `10 ^ k`, as numerator and denominator. -/
def overGrid (n : Nat) (e k : Int) : Nat × Nat :=
  (n * Nat.pow 2 e.toNat * Nat.pow 10 (-k).toNat, Nat.pow 2 (-e).toNat * Nat.pow 10 k.toNat)

namespace Neighbourhood

def holds (b : Neighbourhood) (d : DecimalValue) : Bool :=
  let (ln, ld) := overGrid b.low b.exponent d.exponent
  let (hn, hd) := overGrid b.high b.exponent d.exponent
  if b.closed then ln ≤ d.digits * ld && d.digits * hd ≤ hn
  else ln < d.digits * ld && d.digits * hd < hn

/-- The greatest power of ten that is no more than the value. -/
def magnitude (b : Neighbourhood) : Int :=
  let guess : Int := ((b.value.log2 : Int) + b.exponent) * 30103 / 100000
  let fits (k : Int) : Bool :=
    let (n, d) := overGrid b.value b.exponent k
    d ≤ n
  if fits (guess + 1) then guess + 1 else if fits guess then guess else guess - 1

/-- The nearer of the value's two neighbours on the grid of `10 ^ k` that round to the double. -/
def onGrid? (b : Neighbourhood) (k : Int) : Option DecimalValue :=
  let (n, d) := overGrid b.value b.exponent k
  let q := n / d
  let below : DecimalValue := ⟨q, k⟩
  let above : DecimalValue := ⟨q + 1, k⟩
  let nearest := Binary64.roundHalfEven n d
  match b.holds below, b.holds above with
  | true, true => some ⟨nearest, k⟩
  | true, false => some below
  | false, true => some above
  | false, false => none

/-- The first grid, from one digit to seventeen, that has a point in the neighbourhood. -/
def shortest (b : Neighbourhood) : DecimalValue :=
  let top := b.magnitude
  ((List.range 17).findSome? fun (n : Nat) => b.onGrid? (top - n)).getD ⟨b.value, b.exponent⟩

end Neighbourhood

def dropTrailingZeros : Nat → DecimalValue → DecimalValue
  | 0, d => d
  | n + 1, d =>
    if d.digits % 10 == 0 && d.digits != 0 then dropTrailingZeros n ⟨d.digits / 10, d.exponent + 1⟩
    else d

/-- Positional from a ten-thousandth up to sixteen digits before the point, with at least one digit
after it; an exponent of at least two digits elsewhere. -/
def DecimalValue.text (d : DecimalValue) : String :=
  let ds := (Nat.repr d.digits).toList
  let point : Int := ds.length + d.exponent
  let chars : List Char :=
    if -3 ≤ point && point ≤ 16 then
      if point ≤ 0 then '0' :: '.' :: (List.replicate (-point).toNat '0' ++ ds)
      else
        let whole := ds.take point.toNat ++ List.replicate (point.toNat - ds.length) '0'
        let part := ds.drop point.toNat
        whole ++ '.' :: (if part.isEmpty then ['0'] else part)
    else
      let e := point - 1
      let sign := if e < 0 then '-' else '+'
      let es := (Nat.repr e.natAbs).toList
      let head := match ds with
        | [] => []
        | [c] => [c]
        | c :: r => c :: '.' :: r
      head ++ 'e' :: sign :: (if es.length < 2 then '0' :: es else es)
  String.ofList chars

def Binary64.text (x : Binary64) : String :=
  let signed (negative : Bool) (s : String) : String := if negative then "-" ++ s else s
  match x.reading with
  | .nan => "nan"
  | .infinite negative => signed negative "inf"
  | .finite negative 0 _ => signed negative "0.0"
  | .finite negative m e =>
    signed negative (dropTrailingZeros 17 (Neighbourhood.of m e).shortest).text

end TableDraft.Number
