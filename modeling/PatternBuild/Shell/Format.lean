import PatternBuild.Shell.Arithmetic
import PatternBuild.Shell.Decimal

/-!
# Formats: the directives of printed text

A directive tells how one value is printed: its kind, its width and its precision.
`Directive.text`, `Directive.whole` and `Directive.floating` print a value, and `Format.print`
prints arguments by a format as often as there are arguments left.
-/

namespace PatternBuild.Shell

/-- how a value is printed -/
structure Directive where
  alignsLeft : Bool
  signsAll : Bool
  spaces : Bool
  alternate : Bool
  zeros : Bool
  width : Nat
  precision : Option Nat
  conversion : Char
  deriving DecidableEq, Repr

namespace Directive

def plain (conversion : Char) : Directive :=
  ⟨false, false, false, false, false, 0, none, conversion⟩

/-- text with blanks up to the width -/
def pad (d : Directive) (text : List Char) : List Char :=
  let fill := List.replicate (d.width - text.length) ' '
  if d.alignsLeft then text ++ fill else fill ++ text

/-- a text, cut to the precision -/
def text (d : Directive) (cs : List Char) : List Char :=
  d.pad (match d.precision with
    | some n => cs.take n
    | none => cs)

/-- the sign in front of a number -/
def sign (d : Directive) (isNegative : Bool) : List Char :=
  if isNegative then ['-'] else if d.signsAll then ['+'] else if d.spaces then [' '] else []

/-- digits after a sign, with zeros between them up to the width if they are wanted -/
def padZeros (d : Directive) (sign digits : List Char) (takesZeros : Bool) : List Char :=
  if d.zeros && !d.alignsLeft && takesZeros then
    sign ++ List.replicate (d.width - sign.length - digits.length) '0' ++ digits
  else d.pad (sign ++ digits)

/-- a whole number, of which the last 64 bits count if it has no sign -/
def whole (d : Directive) (n : Int) : List Char :=
  let isSigned := d.conversion == 'd' || d.conversion == 'i'
  let m := if isSigned then n.natAbs else (n % 18446744073709551616).toNat
  let base := if d.conversion == 'o' then 8
    else if d.conversion == 'x' || d.conversion == 'X' then 16 else 10
  let digits := Nat.toDigits base m
  let digits := if d.conversion == 'X' then digits.map Char.toUpper else digits
  let digits := match d.precision with
    | some k => if k = 0 ∧ m = 0 then [] else List.replicate (k - digits.length) '0' ++ digits
    | none => digits
  let mark : List Char :=
    if isSigned then d.sign (n < 0)
    else if d.alternate && base == 16 && m != 0 then ['0', d.conversion]
    else if d.alternate && base == 8 && digits.head? != some '0' then ['0']
    else []
  d.padZeros mark digits d.precision.isNone

/-- a mantissa of so many bits and a power of two, as a sign of base and hexadecimal digits: all that
are needed, or as many after the point as the precision says, a tie to the even digit -/
def hexDigits (d : Directive) (bits m : Nat) (e : Int) : List Char :=
  -- a mantissa is written with the digits of a full one, so a smaller one starts with a zero
  let places := (bits - 1) / 4
  let kept := match d.precision with
    | some k => min k places
    | none => places
  let n := roundDiv m (Nat.pow 16 (places - kept))
  let written := Nat.toDigits 16 n
  let written := List.replicate (kept + 1 - written.length) '0' ++ written
  -- a carry may bring one digit more
  let carry := written.length - (kept + 1)
  let low := (written.drop 1).take kept
  let low := match d.precision with
    | some k => low ++ List.replicate (k - kept) '0'
    | none => (low.reverse.dropWhile (· == '0')).reverse
  let e : Int := if m = 0 then 0 else e + 4 * (places + carry)
  written.take 1 ++ (if low.isEmpty && !d.alternate then [] else '.' :: low) ++
    'p' :: (if e < 0 then '-' else '+') :: Nat.toDigits 10 e.natAbs

/-- a number with a fraction, of which a mantissa has so many bits -/
def floating (d : Directive) (bits : Nat) (x : Floating) : List Char :=
  let isUpper := d.conversion.isUpper
  let recase (cs : List Char) : List Char := if isUpper then cs.map Char.toUpper else cs
  let places := d.precision.getD 6
  match x with
  | .infinite s => d.pad (recase (d.sign s ++ "inf".toList))
  | .nan s => d.pad (recase (d.sign s ++ "nan".toList))
  | .finite s m e =>
    let f := x.fraction
    let written := match d.conversion.toLower with
      | 'f' => Floating.fixed f places d.alternate
      | 'e' => Floating.scientific f places d.alternate
      | 'a' => d.hexDigits bits m e
      | _ => Floating.general f places d.alternate
    let base := if d.conversion.toLower == 'a' then "0x".toList else []
    d.padZeros (recase (d.sign s ++ base)) (recase written) true

end Directive

/-! ## reading directives -/

/-- a number that is written in a directive, or taken from an argument -/
inductive Count where
  | fixed (n : Nat)
  | argument
  deriving DecidableEq, Repr

/-- a directive as it is written -/
structure DirectiveText where
  flags : List Char
  width : Option Count
  precision : Option Count
  conversion : Option Char
  deriving DecidableEq, Repr

/-- the count in front of a text -/
def readCount : List Char → Option Count × List Char
  | '*' :: rest => (some .argument, rest)
  | cs =>
    let digits := cs.takeWhile Char.isDigit
    ((numeral? 10 digits).map .fixed, cs.drop digits.length)

/-- letters that tell the size of a number and change nothing -/
def isSizeLetter (c : Char) : Bool := "hlLjzt".toList.contains c

/-- the flags of directives, with the one that asks for marks between thousands, of which there are none -/
def allFlags : List Char := "#-+ 0'".toList

/-- the directive after a percent sign, and what follows it -/
def readDirective (known : List Char) (allowsSizes : Bool) (cs : List Char) :
    DirectiveText × List Char :=
  let flags := cs.takeWhile fun c => known.contains c
  let (width, rest) := readCount (cs.drop flags.length)
  let (precision, rest) := match rest with
    | '.' :: rest =>
      let (p, rest) := readCount rest
      (some (p.getD (.fixed 0)), rest)
    | rest => (none, rest)
  let rest := if allowsSizes then rest.dropWhile isSizeLetter else rest
  (⟨flags, width, precision, rest.head?⟩, rest.drop 1)

/-- the directive of a text, its counts being known -/
def DirectiveText.directive (t : DirectiveText) (width : Int) (precision : Option Int)
    (conversion : Char) : Directive where
  alignsLeft := t.flags.contains '-' || width < 0
  signsAll := t.flags.contains '+'
  spaces := t.flags.contains ' '
  alternate := t.flags.contains '#'
  zeros := t.flags.contains '0'
  width := width.natAbs
  precision := precision.bind fun k => if k < 0 then none else some k.toNat
  conversion := conversion

/-! ## formats -/

/-- why an argument is no number -/
inductive NumberProblem where
  | noNumber
  | notComplete
  | outOfRange
  deriving DecidableEq, Repr

/-- how formats are read, and how problems are told -/
structure FormatRules where
  formatEscapes : EscapeRules
  argumentEscapes : EscapeRules
  /-- the flags that are known -/
  flags : List Char
  /-- the bits of a mantissa -/
  bits : Nat
  /-- an empty argument is no number -/
  refusesEmpty : Bool
  /-- letters for the sizes of numbers are known -/
  allowsSizes : Bool
  /-- how texts are quoted, if they can be -/
  quote : Option (String → String)
  /-- how a moment is written by a format of its own, in seconds since 1970 or now, if it can be -/
  clock : Option (List Char → Option Int → List Char)
  /-- the complaint about a name that `%n` gives to what was printed, if it is none -/
  count : Option (String → Option String)
  problem : String → NumberProblem → String
  missing : String → String
  invalid : Char → String → String
  /-- the complaint about a letter after the format of a moment -/
  wrongClock : Option Char → String
  /-- the complaint about an escape without its digits -/
  lacking : Option (Char → String)

/-- the state of printing: what is printed, the latest first, what is left, and the complaints -/
structure Printing where
  printed : List Char
  args : List String
  /-- the complaints, each with the number of octets that were printed before it -/
  complaints : List (String × Nat)
  /-- whether printing is over -/
  isOver : Bool
  /-- whether the format is none -/
  isMisused : Bool
  /-- whether a directive has asked for an argument -/
  hasAsked : Bool
  /-- names, each with the number of octets that were printed before it -/
  counted : List (String × Nat)

namespace Printing

def take (p : Printing) : Option String × Printing :=
  match p.args with
  | [] => (none, { p with hasAsked := true })
  | a :: rest => (some a, { p with args := rest, hasAsked := true })

def add (p : Printing) (text : List Char) : Printing :=
  { p with printed := text.reverse ++ p.printed }

def complain (p : Printing) (complaint : Option String) : Printing :=
  { p with complaints := p.complaints ++ complaint.toList.map fun text => (text, p.printed.length) }

/-- stop printing because the format is none -/
def misuse (p : Printing) (complaint : String) : Printing :=
  { p.complain (some complaint) with isOver := true, isMisused := true }

end Printing

namespace Format

/-- the octet after a quote that stands for its number -/
def quotedOctet? : List Char → Option Nat
  | '\'' :: c :: _ => some c.toNat
  | '"' :: c :: _ => some c.toNat
  | ['\''] => some 0
  | ['"'] => some 0
  | _ => none

def isSpaceChar (c : Char) : Bool := c == ' ' || (9 ≤ c.toNat && c.toNat ≤ 13)

/-- the whole number that an argument writes, within bounds, and what is wrong with it -/
def number (r : FormatRules) (isSigned : Bool) (arg : Option String) : Int × Option String :=
  match arg with
  | none => (0, none)
  | some text =>
    match quotedOctet? text.toList with
    | some n => (n, none)
    | none =>
      let cs := text.toList.dropWhile isSpaceChar
      let (isNegative, cs) := match cs with
        | '-' :: cs => (true, cs)
        | '+' :: cs => (false, cs)
        | cs => (false, cs)
      let (base, digits) : Nat × List Char := match cs with
        | '0' :: x :: d :: more =>
          if (x == 'x' || x == 'X') && isHexDigit d then (16, (d :: more).takeWhile isHexDigit)
          else (8, ('0' :: x :: d :: more).takeWhile isOctal)
        | '0' :: more => (8, '0' :: more.takeWhile isOctal)
        | cs => (10, cs.takeWhile Char.isDigit)
      let width := digits.length + if base = 16 then 2 else 0
      match numeral? base digits with
      | some n =>
        let n : Int := if isNegative then -(n : Int) else n
        let low : Int := if isSigned then -9223372036854775808 else -18446744073709551615
        let high : Int := if isSigned then 9223372036854775807 else 18446744073709551615
        if n < low then
          (if isSigned then low else high, some (r.problem text .outOfRange))
        else if high < n then (high, some (r.problem text .outOfRange))
        else (n, if width = cs.length then none else some (r.problem text .notComplete))
      | none =>
        (0, if text.isEmpty && !r.refusesEmpty then none else some (r.problem text .noNumber))

/-- the number with a fraction that an argument writes, and what is wrong with it -/
def floatingNumber (r : FormatRules) (arg : Option String) : Floating × Option String :=
  match arg with
  | none => (.zero, none)
  | some text =>
    match quotedOctet? text.toList with
    | some n => (.round r.bits false (.ofNat n), none)
    | none =>
      let cs := text.toList.dropWhile isSpaceChar
      match Floating.read? r.bits cs with
      | some (x, rest) =>
        (x, if !rest.isEmpty then some (r.problem text .notComplete)
          else if Floating.isOutOfRange r.bits cs then some (r.problem text .outOfRange) else none)
      | none =>
        (.zero, if text.isEmpty && !r.refusesEmpty then none else some (r.problem text .noNumber))

/-- the complaint about a letter after a backslash whose digits are missing -/
def lackingDigits (r : FormatRules) (cs : List Char) : Option String :=
  match cs, r.lacking with
  | c :: rest, some complaint =>
    if (c == 'x' || c == 'u' || c == 'U') && !(rest.head?.map isHexDigit).getD false then
      some (complaint c)
    else none
  | _, _ => none

/-- the complaints about escapes of a text without their digits -/
def lackingIn (r : FormatRules) : List Char → List String
  | '\\' :: '\\' :: cs => lackingIn r cs
  | '\\' :: cs => (lackingDigits r cs).toList ++ lackingIn r cs
  | _ :: cs => lackingIn r cs
  | [] => []

/-- print the next argument by a directive -/
def printArgument (r : FormatRules) (d : Directive) (p : Printing) : Printing :=
  let (arg, p) := p.take
  let text := (arg.getD "").toList
  match d.conversion with
  | 's' => p.add (d.text text)
  | 'c' => p.add (d.pad [text.headD '\x00'])
  | 'q' => p.add (d.text ((r.quote.getD id) (arg.getD "")).toList)
  | 'Q' =>
    let cut := match d.precision with
      | some n => text.take n
      | none => text
    p.add (d.pad ((r.quote.getD id) (String.ofList cut)).toList)
  | 'b' =>
    let (text, ends) := unescape r.argumentEscapes text
    let p := (lackingIn r (arg.getD "").toList).foldl (fun p text => p.complain (some text)) p
    { p.add (d.text text) with isOver := ends }
  | c =>
    if "diouxX".toList.contains c then
      let (n, complaint) := number r (c == 'd' || c == 'i') arg
      (p.complain complaint).add (d.whole n)
    else
      let (x, complaint) := floatingNumber r arg
      (p.complain complaint).add (d.floating r.bits x)

/-- print a moment by a format of its own, the moment being the next argument -/
def printMoment (r : FormatRules) (write : List Char → Option Int → List Char) (format : List Char)
    (d : Directive) (p : Printing) : Printing :=
  let (arg, p) := p.take
  let (n, complaint) := number r true arg
  let moment := if arg.isNone || n = -1 then none else some n
  (p.add (d.text (write (if format.isEmpty then "%X".toList else format) moment))).complain complaint

/-- the format up to the bracket that closes it, the ones in it being paired, and what follows -/
def bracketed : Nat → List Char → List Char × List Char
  | _, [] => ([], [])
  | 0, ')' :: cs => ([], cs)
  | depth + 1, ')' :: cs => let (a, b) := bracketed depth cs; (')' :: a, b)
  | depth, '(' :: cs => let (a, b) := bracketed (depth + 1) cs; ('(' :: a, b)
  | depth, c :: cs => let (a, b) := bracketed depth cs; (c :: a, b)

/-- note how much was printed under the name that the next argument gives -/
def noteCount (wrong : String → Option String) (p : Printing) : Printing :=
  let (arg, p) := p.take
  match arg with
  | none => p
  | some "" => p
  | some name =>
    match wrong name with
    | some complaint => { p.complain (some complaint) with isOver := true }
    | none => { p with counted := p.counted ++ [(name, p.printed.length)] }

/-- the number of a count -/
def countOf (r : FormatRules) (c : Count) (p : Printing) : Int × Printing :=
  match c with
  | .fixed n => (n, p)
  | .argument =>
    let (arg, p) := p.take
    let (n, complaint) := number r true arg
    (n, p.complain complaint)

/-- print by a format of at most `n` units, once -/
def printOnce (r : FormatRules) : Nat → List Char → Printing → Printing
  | 0, _, p => p
  | n + 1, cs, p =>
    if p.isOver then p
    else match cs with
      | [] => p
      | '\\' :: rest =>
        match readEscape r.formatEscapes rest with
        | .octets text after => printOnce r n after ((p.complain (lackingDigits r rest)).add text)
        | .stop => { p with isOver := true }
      | '%' :: '%' :: rest => printOnce r n rest (p.add ['%'])
      | '%' :: rest =>
        let (t, after) := readDirective r.flags r.allowsSizes rest
        let (width, p) := match t.width with
          | some c => countOf r c p
          | none => (0, p)
        let (precision, p) : Option Int × Printing := match t.precision with
          | some c =>
            let (k, p) := countOf r c p
            (some k, p)
          | none => (none, p)
        let written := String.ofList ('%' :: rest.take (rest.length - after.length))
        match t.conversion, r.clock, r.count with
        | none, _, _ => p.misuse (r.missing written)
        | some '(', some write, _ =>
          let (format, behind) := bracketed 0 after
          match behind with
          | 'T' :: behind =>
            printOnce r n behind (printMoment r write format (t.directive width precision '(') p)
          | behind => printOnce r n rest ((p.complain (r.wrongClock behind.head?)).add ['%'])
        | some 'n', _, some wrong => printOnce r n after (noteCount wrong p)
        | some c, _, _ =>
          if "scbdiouxXaAeEfFgG".toList.contains c || (c == 'q' && r.quote.isSome) ||
              (c == 'Q' && r.clock.isSome) then
            printOnce r n after (printArgument r (t.directive width precision c) p)
          else p.misuse (r.invalid c written)
      | c :: rest => printOnce r n rest (p.add [c])

/-- print by a format again while arguments are left, at most `n` times -/
def printAll (r : FormatRules) (format : List Char) : Nat → Printing → Printing
  | 0, p => p
  | n + 1, p =>
    let q := printOnce r (format.length + 1) format p
    if q.isOver || q.args.isEmpty || q.args.length = p.args.length then q
    else printAll r format n q

/-- arguments printed by a format, with the state in which that ends -/
def print (r : FormatRules) (format : String) (args : List String) : List Char × Printing :=
  let p := printAll r format.toList (args.length + 1) ⟨[], args, [], false, false, false, []⟩
  (p.printed.reverse, p)

end Format

end PatternBuild.Shell
