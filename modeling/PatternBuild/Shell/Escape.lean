import PatternBuild.Text.Utf8

/-!
# Escapes: characters written by a backslash

A backslash gives a letter or a number another meaning.  Which ones are known depends on who reads
them, and `EscapeRules` says so.
-/

namespace PatternBuild.Shell

open Text

/-! ## digits -/

def isOctal (c : Char) : Bool := '0' ≤ c && c ≤ '7'

/-- the value of a digit in any base up to sixteen -/
def digitValue? (c : Char) : Option Nat :=
  if c.isDigit then some (c.toNat - 48)
  else if 'a' ≤ c ∧ c ≤ 'f' then some (c.toNat - 87)
  else if 'A' ≤ c ∧ c ≤ 'F' then some (c.toNat - 55)
  else none

def isHexDigit (c : Char) : Bool := (digitValue? c).isSome

/-- the number that digits write in a base -/
def numeral? (base : Nat) (cs : List Char) : Option Nat :=
  if cs.isEmpty then none
  else cs.foldlM (fun n c =>
    match digitValue? c with
    | some d => if d < base then some (n * base + d) else none
    | none => none) 0

/-- the octet of a number, of which only the last eight bits count -/
def octetOf (n : Nat) : Char := Char.ofNat (n % 256)

/-! ## rules -/

/-- which numbers in octal digits are known -/
inductive OctalRule where
  /-- up to three digits, with a zero more in front of them -/
  | withZero
  /-- up to three digits -/
  | threeDigits
  /-- up to three digits after a zero -/
  | afterZero
  deriving DecidableEq, Repr

/-- which escapes a reader knows -/
structure EscapeRules where
  octal : OctalRule
  /-- `\x` with up to two hexadecimal digits -/
  hasHex : Bool
  /-- the letters that stand for the escape character -/
  escapeLetters : List Char
  /-- `\u` and `\U` with up to four and eight hexadecimal digits -/
  hasUnicode : Bool
  /-- `\c` ends the text -/
  stopsAtC : Bool
  /-- `\c` and a character stand for a control character -/
  hasControls : Bool
  /-- a backslash in front of a quote is left out -/
  hasQuotes : Bool
  deriving DecidableEq, Repr

/-- a character beyond the first 128 as its escape, which stands for itself where texts are octets -/
def unicodeText (n : Nat) : List Char :=
  let digits := (Nat.toDigits 16 n).map Char.toUpper
  let width := if n < 65536 then 4 else 8
  '\\' :: (if n < 65536 then 'u' else 'U') :: List.replicate (width - digits.length) '0' ++ digits

namespace EscapeRules

/-- `echo` of the plain language -/
def plainEcho : EscapeRules := ⟨.withZero, false, ['e'], false, true, false, false⟩

/-- formats of the plain language -/
def plainFormat : EscapeRules := ⟨.threeDigits, false, ['e'], false, false, false, false⟩

/-- `echo` of the language with extensions -/
def extendedEcho : EscapeRules := ⟨.afterZero, true, ['e', 'E'], true, true, false, false⟩

/-- formats of the language with extensions -/
def extendedFormat : EscapeRules := ⟨.threeDigits, true, ['e', 'E'], true, false, false, true⟩

/-- arguments of `%b` in the language with extensions -/
def extendedArgument : EscapeRules :=
  ⟨.withZero, true, ['e', 'E'], true, true, false, false⟩

/-- quoted text after a dollar sign -/
def dollarQuote : EscapeRules := ⟨.threeDigits, true, ['e', 'E'], true, false, true, true⟩

/-- the programs `echo` and `printf` -/
def program : EscapeRules := ⟨.withZero, true, ['e'], false, true, false, false⟩
def programFormat : EscapeRules := ⟨.threeDigits, true, ['e'], true, true, false, true⟩

end EscapeRules

/-- what an escape comes to -/
inductive Escape where
  /-- octets, and what follows the escape -/
  | octets (text : List Char) (rest : List Char)
  /-- the end of the text -/
  | stop
  deriving DecidableEq, Repr

/-- the character that a letter after a backslash means -/
def escapedLetter? (r : EscapeRules) (c : Char) : Option Char :=
  match c with
  | '\\' => some '\\'
  | 'a' => some '\x07'
  | 'b' => some '\x08'
  | 'f' => some '\x0c'
  | 'n' => some '\n'
  | 'r' => some '\r'
  | 't' => some '\t'
  | 'v' => some '\x0b'
  | '\'' => if r.hasQuotes then some '\'' else none
  | '"' => if r.hasQuotes then some '"' else none
  | '?' => if r.hasQuotes then some '?' else none
  | c => if r.escapeLetters.contains c then some '\x1b' else none

/-- up to a number of digits, and what follows them -/
def takeDigits (isDigit : Char → Bool) (most : Nat) (cs : List Char) : List Char × List Char :=
  let digits := (cs.take most).takeWhile isDigit
  (digits, cs.drop digits.length)

/-- the octal number in front, if the rules know one there -/
def octalEscape? (rule : OctalRule) (cs : List Char) : Option (Char × List Char) :=
  let read (most : Nat) (cs : List Char) : Char × List Char :=
    let (digits, rest) := takeDigits isOctal most cs
    (octetOf ((numeral? 8 digits).getD 0), rest)
  match cs with
  | [] => none
  | c :: more =>
    if !isOctal c then none
    else match rule with
      | .threeDigits => some (read 3 cs)
      | .withZero => some (if c == '0' then read 3 more else read 3 cs)
      | .afterZero => if c == '0' then some (read 3 more) else none

/-- the escape after a backslash; one that is not known stands for itself -/
def readEscape (r : EscapeRules) (cs : List Char) : Escape :=
  let itself : Escape := .octets ['\\'] cs
  match octalEscape? r.octal cs with
  | some (c, rest) => .octets [c] rest
  | none =>
    match cs with
    | [] => itself
    | c :: rest =>
      match escapedLetter? r c with
      | some x => .octets [x] rest
      | none =>
        let wide := if c == 'u' then 4 else 8
        if c == 'x' && r.hasHex then
          let (digits, after) := takeDigits isHexDigit 2 rest
          match numeral? 16 digits with
          | some n => .octets [octetOf n] after
          | none => itself
        else if (c == 'u' || c == 'U') && r.hasUnicode then
          let (digits, after) := takeDigits isHexDigit wide rest
          match numeral? 16 digits with
          | some n => .octets (if n < 128 then [Char.ofNat n] else unicodeText n) after
          | none => itself
        else if c == 'c' && r.stopsAtC then .stop
        else if c == 'c' && r.hasControls then
          match rest with
          | x :: after => .octets [octetOf (x.toUpper.toNat % 32)] after
          | [] => itself
        else itself

/-- text without its escapes, read in at most `n` steps, and whether it ends the printing -/
def unescapeUpTo (r : EscapeRules) : Nat → List Char → List Char × Bool
  | 0, _ => ([], false)
  | n + 1, cs =>
    match cs with
    | [] => ([], false)
    | '\\' :: rest =>
      match readEscape r rest with
      | .stop => ([], true)
      | .octets text rest =>
        let (more, ends) := unescapeUpTo r n rest
        (text ++ more, ends)
    | c :: rest =>
      let (more, ends) := unescapeUpTo r n rest
      (c :: more, ends)

/-- text without its escapes, and whether printing ends with it -/
def unescape (r : EscapeRules) (cs : List Char) : List Char × Bool :=
  unescapeUpTo r cs.length cs

/-- quoted text with escapes up to its closing quote, and how many characters write it -/
def quotedEscapes (cs : List Char) : Option (List Char × Nat) :=
  let rec width? : List Char → Option Nat
    | [] => none
    | '\'' :: _ => some 0
    | '\\' :: _ :: cs => (width? cs).map (· + 2)
    | _ :: cs => (width? cs).map (· + 1)
  (width? cs).map fun n =>
    let text := (unescape .dollarQuote (cs.take n)).1
    (text.takeWhile (· ≠ '\x00'), n)

end PatternBuild.Shell
