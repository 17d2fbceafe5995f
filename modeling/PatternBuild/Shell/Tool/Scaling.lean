import PatternBuild.Shell.Format
import PatternBuild.Shell.Tool.Columns

/-!
# Scaling: numbers with units

`numfmt` reads numbers with letters that multiply them and writes numbers with such letters.  It
computes with mantissas of 64 bits, and so do the functions here.
-/

namespace PatternBuild.Shell.Tool

open Activity

namespace Scaling

/-! ## computing -/

/-- the bits of a mantissa -/
def bits : Nat := 64

def ofNat (n : Nat) : Floating := .round bits false (.ofNat n)

def product (a b : Floating) : Floating :=
  let (f, g) := (a.fraction, b.fraction)
  .round bits (a.isNegative != b.isNegative) ⟨f.num * g.num, f.den * g.den⟩

def quotient (a b : Floating) : Floating :=
  let (f, g) := (a.fraction, b.fraction)
  if g.num = 0 then .zero
  else .round bits (a.isNegative != b.isNegative) ⟨f.num * g.den, f.den * g.num⟩

/-- the sum of numbers with one sign -/
def sum (a b : Floating) : Floating :=
  let (f, g) := (a.fraction, b.fraction)
  .round bits a.isNegative ⟨f.num * g.den + g.num * f.den, f.den * g.den⟩

def power (base : Nat) : Nat → Floating
  | 0 => ofNat 1
  | k + 1 => product (power base k) (ofNat base)

/-- whether a number, its sign apart, is below a whole one -/
def isBelow (a : Floating) (n : Nat) : Bool := a.fraction.num < n * a.fraction.den

/-- divide by a base until less than the base is left; the outcome tells how often -/
def reduced (base : Nat) : Nat → Floating → Nat × Floating
  | 0, a => (0, a)
  | n + 1, a =>
    if isBelow a base then (0, a)
    else
      let (k, a) := reduced base n (quotient a (ofNat base))
      (k + 1, a)

/-- as often as a number can be divided by ten -/
def reductions : Nat := 5000

/-- how numbers are rounded -/
inductive Rounding where
  | up
  | down
  | fromZero
  | towardsZero
  | nearest
  deriving DecidableEq, Repr

/-- a number rounded to a whole one -/
def rounded (r : Rounding) (a : Floating) : Floating :=
  let f := a.fraction
  let low := f.num / f.den
  let high := if f.num % f.den = 0 then low else low + 1
  let n := match r, a.isNegative with
    | .up, isNegative => if isNegative then low else high
    | .down, isNegative => if isNegative then high else low
    | .fromZero, _ => high
    | .towardsZero, _ => low
    | .nearest, _ => (2 * f.num + f.den) / (2 * f.den)
  .round bits a.isNegative (.ofNat n)

/-- a number rounded to so many digits after the point -/
def roundedAt (r : Rounding) (places : Nat) (a : Floating) : Floating :=
  quotient (rounded r (product a (power 10 places))) (power 10 places)

/-! ## units -/

/-- which letters a number has -/
inductive Units where
  | none
  /-- letters for powers of 1000, or of 1024 if an `i` follows them -/
  | auto
  | decimal
  | binary
  /-- letters for powers of 1024 with an `i` behind them -/
  | binaryMarked
  deriving DecidableEq, Repr

def Units.ofName? : String → Option Units
  | "none" => some .none
  | "auto" => some .auto
  | "si" => some .decimal
  | "iec" => some .binary
  | "iec-i" => some .binaryMarked
  | _ => .none

def Units.base : Units → Nat
  | .binary => 1024
  | .binaryMarked => 1024
  | _ => 1000

def letters : List Char := "KMGTPEZY".toList

/-- why a text is no number -/
inductive ScalingProblem where
  | tooLarge
  | noNumber
  | refusedLetter
  | wrongLetter
  | missingMark
  deriving DecidableEq, Repr

def ScalingProblem.message (text : String) : ScalingProblem → String
  | .tooLarge => s!"value too large to be converted: {cited text}"
  | .noNumber => s!"invalid number: {cited text}"
  | .refusedLetter => s!"rejecting suffix in input: {cited text} (consider using --from)"
  | .wrongLetter => s!"invalid suffix in input: {cited text}"
  | .missingMark => s!"missing 'i' suffix in input: {cited text} (e.g Ki/Mi/Gi)"

/-- the most digits that a number may have, and those that it may have without letters -/
def mostDigits : Nat := 27
def plainDigits : Nat := 18

/-- a number in front of a text, with the count of digits after its point, and what follows -/
def readNumber (cs : List Char) : Except ScalingProblem (Floating × Nat × List Char) := do
  let (isNegative, cs) := match cs with
    | '-' :: rest => (true, rest)
    | cs => (false, cs)
  let whole := cs.takeWhile Char.isDigit
  let rest := cs.drop whole.length
  if whole.isEmpty && rest.head? ≠ some '.' then throw .noNumber
  if mostDigits < (whole.dropWhile (· == '0')).length then throw .tooLarge
  let signed (n : Nat) : Floating := .round bits isNegative (.ofNat n)
  let value := signed ((numeral? 10 whole).getD 0)
  match rest with
  | '.' :: rest =>
    let part := rest.takeWhile Char.isDigit
    let after := rest.drop part.length
    if part.isEmpty then throw .noNumber
    if mostDigits < part.length then throw .tooLarge
    let below := quotient (signed ((numeral? 10 part).getD 0)) (power 10 part.length)
    return (sum value below, part.length, after)
  | rest => return (value, 0, rest)

/-- a number with its letters, and what follows them -/
def readScaled (u : Units) (cs : List Char) : Except ScalingProblem (Floating × Nat × List Char) := do
  let (value, places, rest) ← readNumber cs
  let (k, base, places, rest) ← match rest with
    | [] => pure (0, u.base, places, [])
    | rest =>
      match rest.dropWhile fun c => c == ' ' || c == '\t' with
      | c :: rest =>
        match letters.idxOf? c with
        | none => throw .wrongLetter
        | some i =>
          if u = .none then throw .refusedLetter
          match u, rest with
          | .auto, 'i' :: rest => pure (i + 1, 1024, 0, rest)
          | u, rest => pure (i + 1, u.base, 0, rest)
      | [] => throw .wrongLetter
  let rest ← match u, rest with
    | .binaryMarked, 'i' :: rest => pure rest
    | .binaryMarked, _ => throw .missingMark
    | _, rest => pure rest
  return (product value (power base k), places, rest)

/-! ## formats -/

/-- how numbers are written -/
structure Layout where
  before : String
  after : String
  /-- the width of the number alone, with zeros, and that of all with blanks -/
  zeros : Nat
  width : Nat
  alignsLeft : Bool
  /-- the digits after the point, if they are given -/
  places : Option Nat

/-- the number of characters in front of a directive, doubled percent signs counting as one, and what
follows its percent sign -/
def untilDirective : List Char → Option (Nat × List Char)
  | '%' :: '%' :: rest => (untilDirective rest).map fun (n, after) => (n + 1, after)
  | '%' :: rest => some (0, rest)
  | _ :: rest => (untilDirective rest).map fun (n, after) => (n + 1, after)
  | [] => none

/-- take a format in -/
def Layout.read (l : Layout) (format : String) : Except String Layout := do
  match untilDirective format.toList with
  | none => throw s!"format {cited format} has no % directive"
  | some (before, rest) =>
    let flags := rest.takeWhile fun c => c == ' ' || c == '\'' || c == '0'
    let hasZeros := flags.contains '0'
    let rest := rest.drop flags.length
    let (isNegative, digitsFrom) := match rest with
      | '-' :: more => (true, more)
      | '+' :: more => (false, more)
      | more => (false, more)
    let digits := digitsFrom.takeWhile Char.isDigit
    let rest := if digits.isEmpty then rest else digitsFrom.drop digits.length
    let width := (numeral? 10 digits).getD 0
    let l := if width = 0 then l
      else if isNegative then { l with alignsLeft := true, width }
      else if hasZeros then { l with zeros := width } else { l with width }
    if rest.isEmpty then throw s!"format {cited format} ends in %"
    let (places, rest) ← match rest with
      | '.' :: rest =>
        let digits := rest.takeWhile Char.isDigit
        if digits.isEmpty && (rest.head?.any fun c => c == ' ' || c == '\t' || c == '+' || c == '-') then
          throw s!"invalid precision in format {cited format}"
        pure (some ((numeral? 10 digits).getD 0), rest.drop digits.length)
      | rest => pure (none, rest)
    match rest with
    | 'f' :: after =>
      if (untilDirective after).isSome then
        throw s!"format {cited format} has too many % directives"
      return { l with before := String.ofList (format.toList.take before), after := String.ofList after, places }
    | _ => throw (s!"invalid format {cited format}" ++ ", directive must be %[0]['][-][N][.][N]f")

/-- what `numfmt` is told to do -/
structure Rules where
  from_ : Units
  to_ : Units
  fromUnit : Nat
  toUnit : Nat
  rounding : Rounding
  suffix : String
  layout : Layout
  fields : List PlaceRange
  delimiter : Option Char
  /-- what becomes of texts that are no numbers -/
  invalid : String
  mark : Char

/-- a number as it is written, with its letter -/
def Rules.numberText (r : Rules) (value : Floating) (places : Nat) : List Char :=
  let write (value : Floating) (places : Nat) : List Char :=
    ({ Directive.plain 'f' with zeros := r.layout.zeros ≠ 0, width := r.layout.zeros,
                                precision := some places } : Directive).floating bits value
  if r.to_ = .none then write (roundedAt r.rounding places value) places
  else
    let base := r.to_.base
    let (k, value) := reduced base reductions value
    let adjusted := match r.layout.places with
      | some n => min (k * 3) n
      | none => if isBelow value 10 then 1 else 0
    let value := roundedAt r.rounding adjusted value
    let (k, value) := if isBelow value base then (k, value) else (k + 1, quotient value (ofNat base))
    let hasPoint := value.fraction.num ≠ 0 && isBelow value 10 && 0 < k
    let letter := if k = 0 then [] else [(letters[k - 1]?).getD '?']
    write value (r.layout.places.getD (if hasPoint then 1 else 0)) ++ letter ++
      if r.to_ = .binaryMarked && 0 < k then ['i'] else []

/-- a number in the form of six digits, for complaints -/
def briefText (value : Floating) : String :=
  String.ofList ((if value.isNegative then ['-'] else []) ++ Floating.general value.fraction 6 false)

/-- why a number cannot be written -/
def Rules.tooLarge? (r : Rules) (value : Floating) (places : Nat) : Option String :=
  let (digits, _) := reduced 10 reductions value
  let start := "value" ++ (if places = 0 then "" else "/precision") ++ " too large to be printed: '" ++
    briefText value ++ (if places = 0 then "" else s!"/{places}") ++ "' "
  if r.to_ = .none && plainDigits < digits + places then some (start ++ "(consider using --to)")
  else if mostDigits - 1 < digits then
    some ("value too large to be printed: '" ++ briefText value ++ "' (cannot handle values > 999Y)")
  else none

/-- text with blanks up to a width -/
def Rules.padded (width : Nat) (alignsLeft : Bool) (cs : List Char) : List Char :=
  let fill := List.replicate (width - cs.length) ' '
  if alignsLeft then cs ++ fill else fill ++ cs

/-- the text of a field with its number converted -/
def Rules.convert (r : Rules) (field : Nat) (text : List Char) : Except String (List Char) := do
  let isSuffixed := r.suffix ≠ "" && r.suffix.length < text.length && r.suffix.toList.isSuffixOf text
  let text := if isSuffixed then text.take (text.length - r.suffix.length) else text
  let start := text.dropWhile fun c => c == ' ' || c == '\t'
  let adapts := r.layout.width = 0 && r.delimiter.isNone
  let width := if adapts then (if start.length < text.length || 1 < field then text.length else 0)
    else r.layout.width
  match readScaled r.from_ start with
  | .error p => throw (p.message (String.ofList start))
  | .ok (value, places, rest) =>
    if !rest.isEmpty then
      throw s!"invalid suffix in input {cited (String.ofList start)}: {cited (String.ofList rest)}"
    let value := if r.fromUnit ≠ 1 || r.toUnit ≠ 1 then
      quotient (product value (ofNat r.fromUnit)) (ofNat r.toUnit) else value
    let places := r.layout.places.getD places
    match r.tooLarge? value places with
    | some message => throw message
    | none =>
      return r.layout.before.toList ++
        Rules.padded width r.layout.alignsLeft (r.numberText value places ++ r.suffix.toList) ++
        r.layout.after.toList

/-- the fields of a line; blanks in front of a field belong to it -/
def Rules.fieldsOf (r : Rules) : Nat → List Char → List (List Char)
  | 0, _ => []
  | n + 1, line =>
    let isBetween (c : Char) : Bool := c == ' ' || c == '\t' || c == '\n'
    let field := match r.delimiter with
      | some d => line.takeWhile (· ≠ d)
      | none =>
        let blanks := line.takeWhile isBetween
        blanks ++ (line.drop blanks.length).takeWhile fun c => !isBetween c
    match line.drop field.length with
    | [] => [field]
    | _ :: rest => field :: r.fieldsOf n rest

/-- print a line with its numbers converted; the outcome tells whether all fields were numbers, or is
nothing if a field that is none ends the work -/
def Rules.printLine (r : Rules) (line : List Char) (isEnded : Bool) : Activity (Option Bool) := do
  let mut allValid := true
  let mut number := 0
  for field in r.fieldsOf (line.length + 1) line do
    number := number + 1
    if 1 < number then Tool.out [r.delimiter.getD ' ']
    if r.fields.any (inRange number) then
      match r.convert number field with
      | .ok text => Tool.out text
      | .error message =>
        if r.invalid ≠ "ignore" then Tool.complain "numfmt" message
        if r.invalid = "abort" then return none
        allValid := false
        Tool.out field
    else Tool.out field
  if isEnded then Tool.out [r.mark]
  return some allValid

/-- the size of a unit; letters mean powers of 1000, and of 1024 with an `i` behind them -/
def unitSize? (text : String) : Option Nat := do
  let cs := text.toList
  let digits := cs.takeWhile Char.isDigit
  let n ← if digits.isEmpty && !cs.isEmpty then some 1 else numeral? 10 digits
  let factor ← match cs.drop digits.length with
    | [] => some 1
    | [c] => (letters.idxOf? c).map fun i => Nat.pow 1000 (i + 1)
    | [c, 'i'] => (letters.idxOf? c).map fun i => Nat.pow 1024 (i + 1)
    | _ => none
  if n * factor = 0 || 18446744073709551615 < n * factor then none else some (n * factor)

/-- read the options of `numfmt` -/
def Rules.ofOptions (g : Given) (from_ to_ : Units) (rounding : Rounding) (invalid : String) :
    Except (String × Bool) Rules := do
  let plain (message : String) : Except (String × Bool) Nat := throw (message, false)
  let unit (name : String) : Except (String × Bool) Nat :=
    match g.value? name with
    | none => pure 1
    | some text => match unitSize? text with
      | some n => pure n
      | none => plain s!"invalid unit size: {cited text}"
  let fromUnit ← unit "fromUnit"
  let toUnit ← unit "toUnit"
  let padding ← match g.value? "padding" with
    | none => pure (0 : Int)
    | some text => match wholeNumber? text with
      | some 0 => throw (s!"invalid padding value {cited text}", false)
      | some n => pure n
      | none => throw (s!"invalid padding value {cited text}", false)
  let delimiter ← match g.value? "d" with
    | none => pure none
    | some text => match text.toList with
      | [] => pure (some '\x00')
      | [c] => pure (some c)
      | _ => throw ("the delimiter must be a single character", false)
  let fields ← match g.value? "field" with
    | none => pure [(1, some 1)]
    | some "-" => pure [(1, none)]
    | some text =>
      match readRanges text with
      | .ok ranges => pure ranges
      | .error p => throw (p.message true, true)
  if 1 < (g.values "field").length then throw ("multiple field specifications", true)
  if g.has "format" && g.has "grouping" then throw ("--grouping cannot be combined with --format", false)
  let start : Layout := ⟨"", "", 0, padding.natAbs, padding < 0, none⟩
  let layout ← match g.value? "format" with
    | none => pure start
    | some format => (start.read format).mapError fun message => (message, false)
  if (g.has "grouping" || (g.value? "format").any hasMark) && to_ ≠ .none then
    throw ("grouping cannot be combined with --to", false)
  return {
    from_, to_, fromUnit, toUnit, rounding, layout, fields, delimiter, invalid
    suffix := g.valueOf "suffix"
    mark := if g.has "z" then '\x00' else '\n' }
where
  /-- whether a format asks for marks between thousands -/
  hasMark (format : String) : Bool :=
    match untilDirective format.toList with
    | some (_, rest) => (rest.takeWhile fun c => c == ' ' || c == '\'' || c == '0').contains '\''
    | none => false

/-- convert the lines of the standard input, but not the first ones -/
def Rules.convertInput (r : Rules) (header : Nat) : Activity (Option Bool) := do
  let outcome ← forPartsUpTo 0 r.mark blockSize (fun (seen, valid) line isEnded => do
    if seen < header then
      Tool.out (if isEnded then line ++ [r.mark] else line)
      return ((seen + 1, valid), true)
    match ← r.printLine line isEnded with
    | none => return ((seen, none), false)
    | some isValid => return ((seen + 1, valid.map (· && isValid)), true)) endless [] (0, some true)
  match outcome with
  | .ok (_, valid) => return valid
  | .error f =>
    Tool.complain "numfmt" s!"error reading input: {f.message}"
    return some true

end Scaling

open Scaling in
def numfmt (args : List String) : Activity Nat :=
  withOptions "numfmt" (.of "z" "d" [("debug", "debug", .never), ("delimiter", "d", .always),
    ("field", "field", .always), ("format", "format", .always), ("from", "from", .always),
    ("from-unit", "fromUnit", .always), ("grouping", "grouping", .never), ("header", "header", .maybe),
    ("invalid", "invalid", .always), ("padding", "padding", .always), ("round", "round", .always),
    ("suffix", "suffix", .always), ("to", "to", .always), ("to-unit", "toUnit", .always),
    ("zero-terminated", "z", .never)]) 1 args fun g => do
  let one (names : List String) : List (List String) := names.map fun n => [n]
  withChoice "numfmt" "--from" (one ["none", "auto", "si", "iec", "iec-i"]) 1 ((g.value? "from").getD "none")
    fun from_ =>
  withChoice "numfmt" "--to" (one ["none", "si", "iec", "iec-i"]) 1 ((g.value? "to").getD "none") fun to_ =>
  withChoice "numfmt" "--round" (one ["up", "down", "from-zero", "towards-zero", "nearest"]) 1
    ((g.value? "round").getD "from-zero") fun round =>
  withChoice "numfmt" "--invalid" (one ["abort", "fail", "warn", "ignore"]) 1
    ((g.value? "invalid").getD "abort") fun invalid => do
  let rounding : Rounding := match round with
    | "up" => .up
    | "down" => .down
    | "towards-zero" => .towardsZero
    | "nearest" => .nearest
    | _ => .fromZero
  let header := (g.value? "header").map fun text => if text = "" then some 1 else
    (natural? text).filter (· ≠ 0)
  match header with
  | some none => return ← refuse "numfmt" ("invalid header value " ++ cited (g.valueOf "header")) 1
  | _ => pure ()
  match Rules.ofOptions g ((Units.ofName? from_).getD .none) ((Units.ofName? to_).getD .none) rounding
    invalid with
  | .error (message, hints) => if hints then misuse "numfmt" message 1 else refuse "numfmt" message 1
  | .ok r =>
    if g.has "debug" && from_ = "none" && to_ = "none" && !g.has "grouping" && r.layout.width = 0 &&
        !g.has "format" then
      Tool.complain "numfmt" "no conversion option specified"
    let valid ← if g.operands.isEmpty then r.convertInput ((header.getD none).getD 0)
      else do
        let mut valid := some true
        for text in g.operands do
          if valid.isSome then
            let isValid ← r.printLine text.toList true
            valid := valid.bind fun a => isValid.map (a && ·)
        pure valid
    match valid with
    | none => return 2
    | some true => return 0
    | some false =>
      if g.has "debug" then Tool.complain "numfmt" "failed to convert some of the input numbers"
      return if r.invalid = "fail" then 2 else 0

end PatternBuild.Shell.Tool
