import PatternBuild.Shell.Escape

/-!
# Decimals: numbers with fractions, read and written

A floating number is a multiple of a power of two, as machines keep it.  `Floating.read?` reads one exactly and
rounds it to a number of bits; `Floating.fixed`, `Floating.scientific` and `Floating.general` write it in
decimal digits, rounded to the nearest, a tie to the even digit.
-/

namespace PatternBuild.Shell

/-! ## fractions -/

/-- the quotient rounded to the nearest whole number, a tie to the even one -/
def roundDiv (num den : Nat) : Nat :=
  let q := num / den
  let r := num % den
  if den < 2 * r ∨ (2 * r = den ∧ q % 2 = 1) then q + 1 else q

/-- a number that is not negative, as a fraction -/
structure Fraction where
  num : Nat
  den : Nat
  deriving DecidableEq, Repr

namespace Fraction

def ofNat (n : Nat) : Fraction := ⟨n, 1⟩

/-- a number times a power of a base -/
def scaled (n base : Nat) (e : Int) : Fraction :=
  if 0 ≤ e then ⟨n * Nat.pow base e.toNat, 1⟩ else ⟨n, Nat.pow base (-e).toNat⟩

def isZero (f : Fraction) : Bool := f.num = 0

/-- the number times a power of ten, rounded to a whole number -/
def roundAt (f : Fraction) (places : Int) : Nat :=
  if 0 ≤ places then roundDiv (f.num * Nat.pow 10 places.toNat) f.den
  else roundDiv f.num (f.den * Nat.pow 10 (-places).toNat)

/-- the power of ten that a positive number lies at or above, and below the next -/
def exponent (f : Fraction) : Int :=
  let digits (n : Nat) : Int := (Nat.toDigits 10 n).length
  let guess := digits f.num - digits f.den
  -- the first digits decide between the guess and the number below it
  let power := scaled 1 10 guess
  if f.num * power.den < power.num * f.den then guess - 1 else guess

end Fraction

/-! ## reals -/

/-- a number as machines keep it -/
inductive Floating where
  /-- the mantissa times a power of two -/
  | finite (isNegative : Bool) (mantissa : Nat) (exponent : Int)
  | infinite (isNegative : Bool)
  | nan (isNegative : Bool)
  deriving DecidableEq, Repr

namespace Floating

def zero : Floating := .finite false 0 0

def isNegative : Floating → Bool
  | .finite s _ _ => s
  | .infinite s => s
  | .nan s => s

/-- the size of a finite number -/
def fraction : Floating → Fraction
  | .finite _ m e => .scaled m 2 e
  | _ => .ofNat 0

/-- the power of two that no number with a mantissa of so many bits reaches, and the least power of two -/
def range (bits : Nat) : Int × Int := if bits ≤ 53 then (1024, -1074) else (16384, -16445)

/-- a number over a power of two, rounded -/
def atPower (f : Fraction) (e : Int) : Nat :=
  if 0 ≤ e then roundDiv f.num (f.den * Nat.pow 2 e.toNat)
  else roundDiv (f.num * Nat.pow 2 (-e).toNat) f.den

/-- the nearest number with a mantissa of so many bits, a tie to the even one -/
def round (bits : Nat) (isNegative : Bool) (f : Fraction) : Floating :=
  if f.num = 0 then .finite isNegative 0 0
  else
    let (high, low) := range bits
    -- the power of two for which the mantissa has as many bits as wanted, or one more
    let e : Int := max low ((Nat.log2 f.num : Int) - Nat.log2 f.den - bits)
    let e := if atPower f e < Nat.pow 2 bits then e else e + 1
    let m := atPower f e
    if high < (Nat.log2 m : Int) + e + 1 then .infinite isNegative else .finite isNegative m e

/-- whether a number is too large, or so small that bits of it are lost -/
def isBeyond (bits : Nat) (f : Fraction) : Bool :=
  match round bits false f with
  | .finite _ m e =>
    let g := Fraction.scaled m 2 e
    f.num ≠ 0 && m < Nat.pow 2 (bits - 1) && (f.num * g.den ≠ g.num * f.den)
  | _ => true

/-- the machine number of a float -/
def ofFloat (x : Float) : Floating :=
  let b := x.toBits.toNat
  let isNegative := b / Nat.pow 2 63 % 2 = 1
  let e := b / Nat.pow 2 52 % 2048
  let m := b % Nat.pow 2 52
  if e = 2047 then (if m = 0 then .infinite isNegative else .nan isNegative)
  else if e = 0 then .finite isNegative m (-1074)
  else .finite isNegative (m + Nat.pow 2 52) ((e : Int) - 1075)

/-! ## reading -/

/-- a number in decimal digits: its digits, the power of ten that they are multiplied with, and what
follows -/
def decimal? (cs : List Char) : Option (Nat × Int × List Char) :=
  let whole := cs.takeWhile Char.isDigit
  let rest := cs.drop whole.length
  let (part, rest) := match rest with
    | '.' :: more =>
      let part := more.takeWhile Char.isDigit
      (part, more.drop part.length)
    | _ => ([], rest)
  let isPoint := whole.isEmpty && part.isEmpty
  if isPoint then none
  else
    let n := (numeral? 10 (whole ++ part)).getD 0
    let isE (c : Char) : Bool := c == 'e' || c == 'E'
    let power? (negative : Bool) (cs : List Char) : Option (Int × List Char) :=
      let digits := cs.takeWhile Char.isDigit
      (numeral? 10 digits).map fun p =>
        let p : Int := min p 100000
        (if negative then -p else p, cs.drop digits.length)
    let found := match rest with
      | c :: '-' :: more => if isE c then power? true more else none
      | c :: '+' :: more => if isE c then power? false more else none
      | c :: more => if isE c then power? false more else none
      | [] => none
    match found with
    | some (p, rest) => some (n, p - part.length, rest)
    | none => some (n, -(part.length : Int), rest)

/-- a number in hexadecimal digits after `0x` -/
def hexadecimal? (cs : List Char) : Option (Nat × Int × List Char) :=
  match cs with
  | '0' :: x :: more =>
    if x != 'x' && x != 'X' then none
    else
      let whole := more.takeWhile isHexDigit
      let rest := more.drop whole.length
      let (part, rest) := match rest with
        | '.' :: more =>
          let part := more.takeWhile isHexDigit
          (part, more.drop part.length)
        | _ => ([], rest)
      match numeral? 16 (whole ++ part) with
      | none => none
      | some n =>
        let scale : Int := -(4 * part.length : Int)
        let power? (negative : Bool) (cs : List Char) : Option (Int × List Char) :=
          let digits := cs.takeWhile Char.isDigit
          (numeral? 10 digits).map fun p =>
            let p : Int := min p 100000
            (if negative then -p else p, cs.drop digits.length)
        let found := match rest with
          | 'p' :: '-' :: more => power? true more
          | 'p' :: '+' :: more => power? false more
          | 'p' :: more => power? false more
          | _ => none
        match found with
        | some (p, rest) => some (n, scale + p, rest)
        | none => some (n, scale, rest)
  | _ => none

def startsWithoutCase (word : String) (cs : List Char) : Bool :=
  word.toList.isPrefixOf (cs.map Char.toLower)

/-- the number at the front of a text, rounded to so many bits, and what follows it -/
def read? (bits : Nat) (cs : List Char) : Option (Floating × List Char) :=
  let (isNegative, cs) := match cs with
    | '-' :: cs => (true, cs)
    | '+' :: cs => (false, cs)
    | cs => (false, cs)
  if startsWithoutCase "infinity" cs then some (.infinite isNegative, cs.drop 8)
  else if startsWithoutCase "inf" cs then some (.infinite isNegative, cs.drop 3)
  else if startsWithoutCase "nan" cs then
    let rest := cs.drop 3
    -- letters in brackets may tell which one it is
    let inner := (rest.drop 1).takeWhile fun c => c.isAlphanum || c == '_'
    let isMarked := rest.head? == some '(' && (rest.drop (inner.length + 1)).head? == some ')'
    some (.nan isNegative, if isMarked then rest.drop (inner.length + 2) else rest)
  else
    match hexadecimal? cs with
    | some (n, e, rest) => some (round bits isNegative (.scaled n 2 e), rest)
    | none =>
      (decimal? cs).map fun (n, e, rest) => (round bits isNegative (.scaled n 10 e), rest)

/-- whether the number at the front of a text is too large or too small for so many bits -/
def isOutOfRange (bits : Nat) (cs : List Char) : Bool :=
  let cs := match cs with
    | '-' :: cs => cs
    | '+' :: cs => cs
    | cs => cs
  match hexadecimal? cs with
  | some (n, e, _) => isBeyond bits (.scaled n 2 e)
  | none => ((decimal? cs).map fun (n, e, _) => isBeyond bits (.scaled n 10 e)).getD false

/-- the float nearest to a number -/
def toFloat : Floating → Float
  | .infinite s => if s then -1.0 / 0.0 else 1.0 / 0.0
  | .nan s => if s then -(0.0 / 0.0) else 0.0 / 0.0
  | .finite s m e =>
    let x := Float.scaleB (Float.ofNat m) e
    if s then -x else x

/-! ## writing -/

/-- digits with a point in front of the last `places` -/
def withPoint (n places : Nat) (keepsPoint : Bool) : List Char :=
  let digits := Nat.toDigits 10 n
  let digits := List.replicate (places + 1 - digits.length) '0' ++ digits
  let whole := digits.take (digits.length - places)
  if places = 0 then (if keepsPoint then whole ++ ['.'] else whole)
  else whole ++ '.' :: digits.drop (digits.length - places)

/-- a number with so many digits after the point -/
def fixed (f : Fraction) (places : Nat) (keepsPoint : Bool) : List Char :=
  withPoint (f.roundAt places) places keepsPoint

/-- the digits of a number with one of them in front of the point, and its power of ten -/
def leadingDigits (f : Fraction) (places : Nat) : Nat × Int :=
  if f.isZero then (0, 0)
  else
    let e := f.exponent
    let n := f.roundAt ((places : Int) - e)
    if n < Nat.pow 10 (places + 1) then (n, e) else (n / 10, e + 1)

def exponentText (e : Int) : List Char :=
  let digits := Nat.toDigits 10 e.natAbs
  let digits := if digits.length < 2 then '0' :: digits else digits
  'e' :: (if e < 0 then '-' else '+') :: digits

/-- a number with one digit in front of the point, and a power of ten -/
def scientific (f : Fraction) (places : Nat) (keepsPoint : Bool) : List Char :=
  let (n, e) := leadingDigits f places
  withPoint n places keepsPoint ++ exponentText e

/-- digits without zeros at the end of the part after the point -/
def withoutZeros (cs : List Char) : List Char :=
  if cs.contains '.' then
    let cs := (cs.reverse.dropWhile (· == '0')).reverse
    if cs.getLast? = some '.' then cs.dropLast else cs
  else cs

/-- a number with so many digits in all, with a power of ten if it is very large or small -/
def general (f : Fraction) (digits : Nat) (keepsZeros : Bool) : List Char :=
  let digits := max 1 digits
  let (n, e) := leadingDigits f (digits - 1)
  if e < -4 ∨ (digits : Int) ≤ e then
    let mantissa := withPoint n (digits - 1) keepsZeros
    (if keepsZeros then mantissa else withoutZeros mantissa) ++ exponentText e
  else
    let text := fixed f (digits - 1 - e).toNat keepsZeros
    if keepsZeros then text else withoutZeros text

end Floating

end PatternBuild.Shell
