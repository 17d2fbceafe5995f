import PatternBuild.Shell.Tool.Precedence

/-!
# Factors: numbers as products of primes

Small primes are divided out one after the other.  What is left is tested by powers of some bases,
and cut by looking for two values of a sequence whose difference shares a factor with it.
-/

namespace PatternBuild.Shell.Tool

open Activity

namespace Factors

/-- the largest divisor that is tried one after the other -/
def trialLimit : Nat := 5000

/-- divide by all numbers from `d` on, at most `n` of them and as far as it makes sense; the outcome
holds the primes that were found, and what is left -/
def divide (d : Nat) : Nat → Nat → List Nat × Nat
  | 0, m => ([], m)
  | n + 1, m =>
    if m < d * d then ([], m)
    else if m % d = 0 then
      let (found, left) := divide d n (m / d)
      (d :: found, left)
    else divide (d + if d = 2 then 1 else 2) n m

/-- a power modulo a number, by squaring -/
def powerMod (m base e : Nat) : Nat :=
  (Nat.toDigits 2 e).foldl (fun r bit =>
    let r := r * r % m
    if bit == '1' then r * base % m else r) (1 % m)

/-- the number of times that two divides a number, up to a bound, and what is left -/
def twosIn : Nat → Nat → Nat × Nat
  | 0, m => (0, m)
  | n + 1, m =>
    if m % 2 = 0 then
      let (k, left) := twosIn n (m / 2)
      (k + 1, left)
    else (0, m)

/-- whether one of the next squares is one less than the modulus -/
def meetsMinusOne (m : Nat) : Nat → Nat → Bool
  | 0, _ => false
  | n + 1, x => x = m - 1 || meetsMinusOne m n (x * x % m)

/-- whether a base tells that an odd number is not a prime -/
def isWitness (m base : Nat) : Bool :=
  let (k, odd) := twosIn m.log2 (m - 1)
  let x := powerMod m (base % m) odd
  base % m ≠ 0 && x ≠ 1 && !meetsMinusOne m k x

/-- the bases that are tried -/
def bases : List Nat :=
  [2, 3, 5, 7, 11, 13, 17, 19, 23, 29, 31, 37, 41, 43, 47, 53, 59, 61, 67, 71, 73, 79, 83, 89]

/-- whether a number without small factors is a prime -/
def isPrime (m : Nat) : Bool :=
  m < trialLimit * trialLimit || !bases.any (isWitness m)

/-- a proper factor of a number that is no prime: of two values of a sequence, one of which goes twice as
fast, the difference shares a factor with the number -/
def cutBy (m c : Nat) : Nat → Nat → Nat → Option Nat
  | 0, _, _ => none
  | n + 1, slow, fast =>
    let next (x : Nat) : Nat := (x * x + c) % m
    let slow := next slow
    let fast := next (next fast)
    let d := Nat.gcd (if slow ≤ fast then fast - slow else slow - fast) m
    if d = 1 then cutBy m c n slow fast else if d = m then none else some d

/-- the steps that are tried with one sequence -/
def stepLimit : Nat := 2000000

/-- a proper factor of a number that is no prime -/
def cut? (m : Nat) : Option Nat :=
  (List.range 20).findSome? fun c => cutBy m (c + 1) stepLimit 2 2

/-- the primes of a number without small factors, which is cut at most so often -/
def primesOf : Nat → Nat → List Nat
  | 0, m => [m]
  | n + 1, m =>
    if m = 1 then []
    else if isPrime m then [m]
    else
      match cut? m with
      | some d => primesOf n d ++ primesOf n (m / d)
      | none => [m]

/-- the primes of a number, ascending -/
def of (m : Nat) : List Nat :=
  if m < 2 then []
  else
    let (small, left) := divide 2 (trialLimit / 2 + m.log2) m
    (small ++ primesOf left.log2 left).mergeSort (· ≤ ·)

end Factors

/-- print the primes of a number that a text writes; false if it writes none -/
def printFactors (text : String) : Activity Bool := do
  let cs := text.toList.dropWhile (· == ' ')
  let digits := if cs.head? == some '+' then cs.drop 1 else cs
  match if digits.all Char.isDigit then numeral? 10 digits else none with
  | some n =>
    Tool.say (toString n ++ ":" ++ String.join ((Factors.of n).map fun p => s!" {p}") ++ "\n")
    return true
  | none =>
    -- what was printed so far comes after this
    tell s!"factor: {cited text} is not a valid positive integer\n"
    return false

def factor (args : List String) : Activity Nat :=
  withOptions "factor" (.of "" "" []) 1 args fun g => do
  let words ← if g.operands.isEmpty then do
      match ← contentOf "-" with
      | .ok cs => pure (wordsOf cs)
      | .error _ => pure []
    else pure g.operands
  let mut code := 0
  for text in words do
    if !(← printFactors text) then code := 1
  return code

end PatternBuild.Shell.Tool
