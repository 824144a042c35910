/- How large a number may be. A number is held as a significand of 64 bits and a power of ten. Both
   are rounded to doubles, and so is their product, which must be finite. -/
namespace DialogueScript.Json

def digitValue (c : Char) : Nat := c.toNat - '0'.toNat

def digitsValue (digits : List Char) : Nat :=
  digits.foldl (fun value c => 10 * value + digitValue c) 0

/-- The double nearest to a natural number, the even one of two. Large numbers have no limit. -/
def roundToDouble (n : Nat) : Nat :=
  let unit := Nat.pow 2 (n.log2 - 52)
  let quotient := n / unit
  let rest := n % unit
  let up := unit < 2 * rest || (unit == 2 * rest && quotient % 2 == 1)
  (if up then quotient + 1 else quotient) * unit

def infinityBound : Nat := Nat.pow 2 1024 - Nat.pow 2 970

def powerLimit : Nat := 308

def significandLimit : Nat := Nat.pow 2 64

structure Scaled where
  significand : Nat
  exponent : Int
deriving DecidableEq, Repr

/-- Puts digits behind a significand up to the first one that leads beyond 64 bits, and gives the
digits that are left. -/
def takeDigits (significand : Nat) : List Char → Nat × List Char
  | [] => (significand, [])
  | c :: rest =>
    let longer := 10 * significand + digitValue c
    if longer < significandLimit then takeDigits longer rest else (significand, c :: rest)

/-- The number with these digits before and after the point and this exponent. Digits before the
point that find no room count as powers of ten, those after it not at all. -/
def Scaled.ofDigits (whole fraction : List Char) (exponent : Int) : Scaled :=
  let (significand, beyond) := takeDigits 0 whole
  let (significand, unused) := takeDigits significand fraction
  ⟨significand, exponent + beyond.length - (fraction.length - unused.length : Nat)⟩

def Scaled.isFinite (number : Scaled) : Bool :=
  match number.exponent with
  | .negSucc _ => true
  | .ofNat power =>
    number.significand == 0 || (power ≤ powerLimit &&
      roundToDouble number.significand * roundToDouble (Nat.pow 10 power) < infinityBound)

end DialogueScript.Json
