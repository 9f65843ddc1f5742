import TableDraft.Number.Binary64
import TableDraft.Number.Digits
import TableDraft.Text.Blank
import TableDraft.Text.Case

namespace TableDraft.Number
open TableDraft.Text

/-- A decimal number as a database delivers it. -/
inductive Decimal where
  | finite (negative : Bool) (coefficient : Nat) (exponent : Int)
  | infinity (negative : Bool)
  | nan
  | signalingNan

namespace Decimal

def special? (negative : Bool) (s : List Char) : Option Decimal :=
  if s = "inf".toList ∨ s = "infinity".toList then some (.infinity negative)
  else if "nan".toList.isPrefixOf s && (s.drop 3).all isAsciiDigit then some .nan
  else if "snan".toList.isPrefixOf s && (s.drop 4).all isAsciiDigit then some .signalingNan
  else none

def exponent? (s : List Char) : Option Int :=
  match s with
  | [] => some 0
  | 'e' :: r =>
    let (negative, ds) := signed r
    if !ds.isEmpty && ds.all isAsciiDigit then
      some (withSign negative (digitsValue ds))
    else none
  | _ => none

/-- The digit of ASCII for a digit of any script. -/
def plainDigit (c : Char) : Char :=
  match digitOf? c with
  | some d => Char.ofNat (48 + d)
  | none => c

def greatestExponent : Int := 999999999999999999

/-- The least exponent of a last place. -/
def leastExponent : Int := -1999999999999999997

/-- Whether a decimal is held without rounding: neither its first nor its last place may be too far
out. -/
def isExact (digits : List Char) (exponent : Int) : Bool :=
  let places : Nat := max (digits.dropWhile (· == '0')).length 1
  leastExponent ≤ exponent && exponent + places - 1 ≤ greatestExponent

/-- Reads a decimal. Digits may be of any script, and underscores stand anywhere. -/
def read? (text : List Char) : Option Decimal :=
  let (negative, s) := signed (lowerAscii (((trim text).filter (· != '_')).map plainDigit))
  let whole := s.takeWhile isAsciiDigit
  let rest := s.dropWhile isAsciiDigit
  let (fraction, tail) := match rest with
    | '.' :: r => (r.takeWhile isAsciiDigit, r.dropWhile isAsciiDigit)
    | r => ([], r)
  if whole.isEmpty && fraction.isEmpty then special? negative s
  else (exponent? tail).bind fun e =>
    let digits := whole ++ fraction
    let exponent := e - fraction.length
    if isExact digits exponent then some (.finite negative (digitsValue digits) exponent) else none

/-- The whole number that a finite decimal equals, if there is one. A coefficient of fewer digits
than there are places is no multiple of their power of ten. -/
def whole? (negative : Bool) (coefficient : Nat) (exponent : Int) : Option Int :=
  let magnitude : Option Nat :=
    if coefficient == 0 then some 0
    else if 0 ≤ exponent then some (coefficient * Nat.pow 10 exponent.toNat)
    else if (coefficient.log2 : Int) < -exponent then none
    else if coefficient % Nat.pow 10 (-exponent).toNat == 0 then
      some (coefficient / Nat.pow 10 (-exponent).toNat)
    else none
  magnitude.map (withSign negative)

end Decimal

end TableDraft.Number
