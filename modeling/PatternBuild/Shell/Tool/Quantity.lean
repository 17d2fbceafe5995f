import PatternBuild.Shell.Escape
import PatternBuild.Shell.Tool.Basic

/-!
# Quantities and magnitudes

Numbers as tools read them, and sizes as they write them.
-/

/-!
## Quantities: numbers in the arguments of tools

A quantity is a number with a letter behind it perhaps, which multiplies it.
-/

namespace PatternBuild.Shell.Tool

/-- what the letters behind a number multiply it with -/
def multiplier? (letters : String) : Option Nat :=
  let names := "KMGTPEZY".toList
  let power (c : Char) : Option Nat :=
    (names.idxOf? (if c == 'k' || c == 'm' then c.toUpper else c)).map (· + 1)
  match letters.toList with
  | [] => some 1
  | ['b'] => some 512
  | [c] => (power c).map (Nat.pow 1024 ·)
  | [c, 'B'] => (power c).map (Nat.pow 1000 ·)
  | [c, 'i', 'B'] => (power c).map (Nat.pow 1024 ·)
  | _ => none

/-- a number with a letter that multiplies it -/
def quantity? (text : String) : Option Nat := do
  let cs := text.toList
  let digits := cs.takeWhile Char.isDigit
  let n ← if digits.isEmpty && !cs.isEmpty then some 1 else numeral? 10 digits
  let factor ← multiplier? (String.ofList (cs.drop digits.length))
  if digits.isEmpty then none else return n * factor

/-- why a text is no count -/
inductive CountFault where
  | malformed
  /-- something follows the number that does not multiply it -/
  | strays
  | tooLarge
  deriving DecidableEq, Repr

/-- the largest count, and the largest size of a file -/
def largestCount : Nat := 18446744073709551615
def largestSize : Nat := 9223372036854775807

/-- the letters that multiply sizes; the nought stands for those with a `B` behind them -/
def sizeLetters : String := "bkKmMGTPEZY0"

/-- what the letters behind a number multiply it with, of which only some may be there -/
def factor? (letters : String) (cs : List Char) : Option Nat :=
  match cs with
  | [] => some 1
  | c :: rest =>
    if c == '0' || !letters.toList.contains c then none
    else if c == 'b' then if rest.isEmpty then some 512 else none
    else if c == 'c' then if rest.isEmpty then some 1 else none
    else if c == 'w' then if rest.isEmpty then some 2 else none
    else if rest.isEmpty || letters.toList.contains '0' then multiplier? (String.ofList cs)
    else none

/-- the count that a text writes, in some base, with letters behind it that multiply it -/
def readCountIn (base : Nat) (letters text : String) : Except CountFault Nat :=
  let cs := text.toList.dropWhile fun c => c == ' ' || (9 ≤ c.toNat && c.toNat ≤ 13)
  let cs := if cs.head? == some '+' then cs.drop 1 else cs
  let digits := cs.takeWhile fun c => (digitValue? c).any (· < base)
  let rest := cs.drop digits.length
  let n? := numeral? base digits
  let isUnit := match rest with
    | c :: _ => c ≠ '0' && letters.toList.contains c
    | [] => false
  if n?.isNone && !isUnit then .error .malformed
  else
    match factor? letters rest with
    | none => .error .strays
    | some factor =>
      let n := n?.getD 1 * factor
      if largestCount < n then .error .tooLarge else .ok n

/-- the count that a text writes in decimal digits -/
def readCount (letters text : String) : Except CountFault Nat := readCountIn 10 letters text

/-- the count that a text writes in a base that its first characters tell -/
def readCountByStart (letters text : String) : Except CountFault Nat :=
  match text.toList with
  | '0' :: 'x' :: c :: cs =>
    if (digitValue? c).any (· < 16) then readCountIn 16 letters (String.ofList (c :: cs))
    else readCount letters text
  | '0' :: _ => readCountIn 8 letters text
  | _ => readCount letters text

/-- a count of at least `least` and at most `most`, or what is told behind the text that writes none -/
def countWithin (letters : String) (least most : Nat) (text : String) : Except String Nat :=
  let tooLarge := ": Value too large for defined data type"
  match readCount letters text with
  | .error .tooLarge => .error tooLarge
  | .error _ => .error ""
  | .ok n =>
    if least ≤ n && n ≤ most then .ok n
    else .error (if 1073741823 < n then tooLarge else ": Numerical result out of range")

/-- what is wrong with the count that an option is given -/
def CountFault.message (option text : String) : CountFault → String
  | .malformed => "invalid " ++ option ++ " argument " ++ cited text
  | .strays => "invalid suffix in " ++ option ++ " argument " ++ cited text
  | .tooLarge => option ++ " argument " ++ cited text ++ " too large"

/-- a number with a sign perhaps, of at least `least` and at most `most`, or what is told behind the
text that writes none -/
def integerWithin (letters : String) (least most : Int) (text : String) : Except String Int :=
  let tooLarge := ": Value too large for defined data type"
  let cs := text.toList.dropWhile fun c => c == ' ' || (9 ≤ c.toNat && c.toNat ≤ 13)
  let (isNegative, body) := match cs with
    | '-' :: body => (true, String.ofList body)
    | _ => (false, text)
  if isNegative && (body.startsWith "+" || body.startsWith " ") then .error ""
  else
    match readCount letters body with
    | .error .tooLarge => .error tooLarge
    | .error _ => .error ""
    | .ok n =>
      let n : Int := if isNegative then -(n : Int) else n
      if least ≤ n && n ≤ most then .ok n
      else .error (if 1073741823 < n || n < -9223372036854775808 then tooLarge
        else ": Numerical result out of range")

/-- a number in decimal digits, with a sign perhaps -/
def wholeNumber? (text : String) : Option Int :=
  match text.toList with
  | '-' :: cs => (numeral? 10 (digits? cs)).map fun n => -(n : Int)
  | '+' :: cs => (numeral? 10 (digits? cs)).map Int.ofNat
  | cs => (numeral? 10 (digits? cs)).map Int.ofNat
where
  /-- digits, or nothing if there is something else among them -/
  digits? (cs : List Char) : List Char := if cs.all Char.isDigit then cs else []

/-- a number without a sign -/
def natural? (text : String) : Option Nat :=
  if text.toList.all Char.isDigit then numeral? 10 text.toList else none

/-- why a text is no number of at least `least` -/
def numberFault? (least : Nat) (text : String) : Option String :=
  match wholeNumber? text with
  | none => some ""
  | some n => if n < least then some ": Numerical result out of range" else none

/-- text with blanks in front of it up to a width -/
def padLeft (width : Nat) (text : String) : String :=
  String.ofList (List.replicate (width - text.length) ' ') ++ text

/-- text with blanks behind it up to a width -/
def padRight (width : Nat) (text : String) : String :=
  text ++ String.ofList (List.replicate (width - text.length) ' ')

end PatternBuild.Shell.Tool

/-!
## Magnitudes: sizes that people read

A size is divided by a power of a base until less than one base is left.  What is left is written
with one digit after the point if it is small, and with the letter of the power behind it.
-/

namespace PatternBuild.Shell.Tool

/-- how sizes are written for people -/
structure Magnitude where
  /-- whether the base is 1024, and not 1000 -/
  isBinary : Bool
  /-- whether numbers are rounded up, and not to the nearest, with ties to even -/
  roundsUp : Bool
  /-- whether a blank and a `B` belong to the unit -/
  showsOctets : Bool

namespace Magnitude

def base (m : Magnitude) : Nat := if m.isBinary then 1024 else 1000

/-- the letters of powers -/
def letters : List Char := "KMGTPEZY".toList

/-- the power of the base by which a size is divided -/
def power (m : Magnitude) (n : Nat) : Nat :=
  (List.range letters.length).foldl (fun k i => if Nat.pow m.base (i + 1) ≤ n then i + 1 else k) 0

/-- the quotient as a whole number -/
def rounded (m : Magnitude) (n divisor : Nat) : Nat :=
  let q := n / divisor
  let r := n % divisor
  if m.roundsUp then (if r = 0 then q else q + 1)
  else if 2 * r < divisor || (2 * r = divisor && q % 2 = 0) then q else q + 1

/-- the unit of a power -/
def unit (m : Magnitude) (k : Nat) : String :=
  let letter := match k, m.isBinary with
    | 0, _ => ""
    | 1, false => "k"
    | k, _ => ((letters[k - 1]?).getD ' ').toString
  if m.showsOctets then " " ++ letter ++ (if m.isBinary && k ≠ 0 then "iB" else "B") else letter

/-- a size as people read it -/
def text (m : Magnitude) (n : Nat) : String :=
  let k := m.power n
  let divisor := Nat.pow m.base k
  let tenths := m.rounded (10 * n) divisor
  if k ≠ 0 && tenths < 100 then s!"{tenths / 10}.{tenths % 10}" ++ m.unit k
  else
    let whole := m.rounded n divisor
    if whole = m.base && k < letters.length then "1.0" ++ m.unit (k + 1)
    else toString whole ++ m.unit k

end Magnitude

end PatternBuild.Shell.Tool
