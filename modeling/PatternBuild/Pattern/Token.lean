/-!
# Tokens: pattern text as literals, captures and wildcards

`$N` with a number between 1 and 2^32 - 1 and no leading zero is a capture, `*` is a wildcard, and
all else is literal text; a `$` that starts no capture is literal too.  `tokenize` reads a text and
`written` writes tokens back; `Canonical` describes the lists that `tokenize` yields.
-/

namespace PatternBuild.Pattern

/-- a piece of pattern text -/
inductive Token where
  | literal (text : List Char)
  | capture (number : Nat)
  | wildcard
  deriving DecidableEq, Repr

/-! ## reading -/

/-- the largest capture number, 2^32 - 1 -/
def maxCapture : Nat := 4294967295

/-- the capture number that a run of digits denotes, if it denotes one -/
def captureNumber? (digits : List Char) : Option Nat :=
  if digits = [] ∨ digits.head? = some '0' then none
  else
    let n := Nat.ofDigitChars 10 digits 0
    if n ≤ maxCapture then some n else none

/-- put a literal character in front, joining it to a literal that starts the list -/
def addLiteral (c : Char) : List Token → List Token
  | .literal t :: ts => .literal (c :: t) :: ts
  | ts => .literal [c] :: ts

/-- tokens of a text whose first `skip` characters have been read -/
def scan : Nat → List Char → List Token
  | _, [] => []
  | skip + 1, _ :: cs => scan skip cs
  | 0, c :: cs =>
    if c = '*' then .wildcard :: scan 0 cs
    else if c = '$' then
      let digits := cs.takeWhile Char.isDigit
      match captureNumber? digits with
      | some n => .capture n :: scan digits.length cs
      | none => addLiteral '$' (scan 0 cs)
    else addLiteral c (scan 0 cs)

/-- the tokens of a pattern text -/
def tokenize (cs : List Char) : List Token := scan 0 cs

theorem scan_eq_drop (skip : Nat) (cs : List Char) : scan skip cs = scan 0 (cs.drop skip) := by
  induction cs generalizing skip with
  | nil => cases skip <;> rfl
  | cons c cs ih =>
    cases skip with
    | zero => rfl
    | succ k => rw [List.drop_succ_cons, ← ih k, scan]

/-! ## writing -/

namespace Token

/-- a token as pattern text -/
def written : Token → List Char
  | .literal t => t
  | .capture n => '$' :: Nat.toDigits 10 n
  | .wildcard => ['*']

/-- whether a token stands for text that is not known beforehand -/
def isDynamic : Token → Bool
  | .literal _ => false
  | _ => true

/-- the number of a capture -/
def number? : Token → Option Nat
  | .capture n => some n
  | _ => none

end Token

/-- a token list as pattern text -/
def written (ts : List Token) : List Char := ts.flatMap Token.written

theorem written_nil : written [] = [] := rfl
theorem written_cons (t : Token) (ts : List Token) : written (t :: ts) = t.written ++ written ts :=
  rfl

/-- the capture numbers of a token list, in order of occurrence -/
def captureNumbers (ts : List Token) : List Nat := ts.filterMap Token.number?

/-! ## canonical lists -/

/-- literal text that holds no wildcard and no capture -/
def PlainLiteral (t : List Char) : Prop :=
  t ≠ [] ∧ '*' ∉ t ∧
    ∀ before after, t = before ++ '$' :: after →
      captureNumber? (after.takeWhile Char.isDigit) = none

/-- token lists whose written form has one reading -/
def Canonical : List Token → Prop
  | [] => True
  | .wildcard :: ts => Canonical ts
  | .capture n :: ts =>
    1 ≤ n ∧ n ≤ maxCapture ∧
      (∀ t rest, ts = .literal t :: rest → ∀ c, t.head? = some c → c.isDigit = false) ∧ Canonical ts
  | .literal t :: ts =>
    PlainLiteral t ∧ (∀ u rest, ts ≠ .literal u :: rest) ∧ Canonical ts

end PatternBuild.Pattern
