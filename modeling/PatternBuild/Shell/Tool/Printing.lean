import PatternBuild.Shell.Format
import PatternBuild.Shell.Test
import PatternBuild.Shell.Tool.Quantity

/-!
# Printing: tools that print their arguments

`echo` and `printf` print texts, `seq` prints numbers, and `yes` prints a line without an end.
-/

namespace PatternBuild.Shell.Tool

open Activity

/-! ## echo and printf -/

def echo (args : List String) : Activity Nat := do
  let isOption (a : String) : Bool := match a.toList with
    | '-' :: c :: cs => (c :: cs).all ("neE".toList.contains ·)
    | _ => false
  let options := args.takeWhile isOption
  let letters := (options.map fun a => a.toList.drop 1).flatten
  let reads := (letters.filter (· ≠ 'n')).getLast? == some 'e'
  let text := (" ".intercalate (args.drop options.length)).toList
  let ending := if letters.contains 'n' then [] else ['\n']
  if reads then
    let (text, stops) := unescape .program text
    Tool.out (text ++ if stops then [] else ending)
  else Tool.out (text ++ ending)
  return 0

/-- how the program `printf` prints by formats -/
def programRules : FormatRules where
  formatEscapes := .programFormat
  argumentEscapes := .program
  flags := allFlags
  bits := 64
  refusesEmpty := true
  allowsSizes := true
  quote := some shown
  clock := none
  count := none
  problem := fun text p => match p with
    | .noNumber => s!"{cited text}: expected a numeric value"
    | .notComplete => s!"{cited text}: value not completely converted"
    | .outOfRange => s!"{cited text}: Numerical result out of range"
  missing := fun written => s!"{written}: invalid conversion specification"
  invalid := fun _ written => s!"{written}: invalid conversion specification"
  wrongClock := fun _ => ""
  lacking := none

def printf (args : List String) : Activity Nat := do
  let args := match args with
    | "--" :: rest => rest
    | args => args
  match args with
  | [] => misuse "printf" "missing operand" 1
  | format :: rest =>
    let (text, p) := Format.print programRules format rest
    let mut count := 0
    for (c, before) in p.complaints do
      Tool.out ((text.take before).drop count)
      count := before
      Tool.complain "printf" c
    Tool.out (text.drop count)
    if !p.hasAsked && !p.isOver then
      match rest with
      | extra :: _ =>
        Tool.complain "printf" s!"warning: ignoring excess arguments, starting with {quoted extra}"
      | [] => pure ()
    return if p.complaints.isEmpty then 0 else 1

/-- print a line again and again -/
def repeatLine (block : List Char) : Nat → Activity Unit
  | 0 => return
  | n + 1 => do
    if ← write 1 block then repeatLine block n

def yes (args : List String) : Activity Nat := do
  let args := match args with
    | "--" :: rest => rest
    | args => args
  let line := ((if args.isEmpty then "y" else " ".intercalate args) ++ "\n").toList
  repeatLine (List.replicate (1 + 8192 / line.length) line).flatten endless
  refuse "yes" "standard output: Bad file descriptor" 1

/-! ## seq -/

/-- a decimal number: a whole number over a power of ten, and the width that it is written with -/
structure SeqNumber where
  value : Int
  places : Nat
  width : Nat
  deriving DecidableEq, Repr

/-- the number that an argument of `seq` writes -/
def seqNumber? (text : String) : Option SeqNumber := do
  let cs := text.toList.dropWhile fun c => c == ' ' || c == '\t'
  let (isNegative, body) := match cs with
    | '-' :: cs => (true, cs)
    | '+' :: cs => (false, cs)
    | cs => (false, cs)
  let sign (n : Nat) : Int := if isNegative then -(n : Int) else n
  match Floating.hexadecimal? body with
  | some (n, e, []) =>
    if 0 ≤ e then return ⟨sign (n * Nat.pow 2 e.toNat), 0, cs.length⟩ else none
  | _ =>
    let (n, e, rest) ← Floating.decimal? body
    if !rest.isEmpty then none
    let whole := body.takeWhile Char.isDigit
    let part := match body.drop whole.length with
      | '.' :: rest => rest.takeWhile Char.isDigit
      | _ => []
    let places := (max 0 ((part.length : Int) -
      if body.any (fun c => c == 'e' || c == 'E') then e + part.length else 0)).toNat
    -- a sign or a point without digits around it changes the width
    let width := (if isNegative then 1 else 0) + (max 1 whole.length) +
      (if 0 < places then places + 1 else 0)
    let isPower := body.any fun c => c == 'e' || c == 'E'
    let shift : Int := e + places
    if 0 ≤ shift then
      let value := sign (n * Nat.pow 10 shift.toNat)
      let width := if isPower then
          (toString (value.natAbs / Nat.pow 10 places)).length + (if isNegative then 1 else 0) +
            (if 0 < places then places + 1 else 0)
        else width
      return ⟨value, places, width⟩
    else none

/-- the number times a power of ten -/
def SeqNumber.scaled (x : SeqNumber) (places : Nat) : Int :=
  x.value * Nat.pow 10 (places - x.places)

/-- a format of `seq`: the text in front of its directive, the directive, and the text behind it -/
def seqFormat? (cs : List Char) : Except String (List Char × Directive × List Char) :=
  let shownFormat := quoted (String.ofList cs)
  let rec literal : Nat → List Char → Option (List Char × List Char)
    | 0, _ => none
    | n + 1, cs =>
      match cs with
      | '%' :: '%' :: rest => (literal n rest).map fun (a, b) => ('%' :: a, b)
      | '%' :: rest => some ([], rest)
      | c :: rest => (literal n rest).map fun (a, b) => (c :: a, b)
      | [] => none
  match literal (cs.length + 1) cs with
  | none => .error s!"format {shownFormat} has no % directive"
  | some (before, rest) =>
    let (t, after) := readDirective allFlags false rest
    match t.conversion with
    | some c =>
      if "aAeEfFgG".toList.contains c then
        let width : Int := match t.width with
          | some (.fixed n) => n
          | _ => 0
        let precision : Option Int := match t.precision with
          | some (.fixed n) => some n
          | _ => none
        match literal (after.length + 1) after with
        | some _ => .error s!"format {shownFormat} has too many % directives"
        | none =>
          let tail := (String.ofList after).splitOn "%%" |> "%".intercalate
          .ok (before, t.directive width precision c, tail.toList)
      else .error s!"format {shownFormat} has unknown %{c} directive"
    | none => .error s!"format {shownFormat} ends in %"

/-- print numbers from one to another -/
def printNumbers (spell : Int → List Char) (between : List Char) (step last : Int) :
    Nat → Int → Bool → Activity Unit
  | 0, _, _ => return
  | n + 1, x, isFirst => do
    if (0 < step && last < x) || (step < 0 && x < last) then
      if !isFirst then Tool.out ['\n']
    else
      Tool.out ((if isFirst then [] else between) ++ spell x)
      printNumbers spell between step last n (x + step) false

/-- arguments with a mark in front of the first operand, which may be a negative number -/
def seqArgs : List String → List String
  | [] => []
  | "--" :: rest => "--" :: rest
  | "-s" :: value :: rest => "-s" :: value :: seqArgs rest
  | "-f" :: value :: rest => "-f" :: value :: seqArgs rest
  | a :: rest =>
    let isNumber : Bool := match a.toList with
      | '-' :: c :: _ => c.isDigit || c == '.'
      | _ => false
    if isNumber || !a.startsWith "-" then "--" :: a :: rest else a :: seqArgs rest

def seq (args : List String) : Activity Nat :=
  withOptions "seq" { OptionRules.of "w" "fs" [("format", "f", .always), ("separator", "s", .always),
    ("equal-width", "w", .never)] with mixes := false } 1 (seqArgs args) fun g => do
  match g.operands with
  | [] => misuse "seq" "missing operand" 1
  | _ :: _ :: _ :: extra :: _ => extraOperand "seq" extra 1
  | operands =>
    let lower (a : String) : String := String.ofList (a.toList.map Char.toLower)
    let isEndless := (operands.getLast?.map lower).any ["inf", "+inf", "infinity"].contains
    let operands := if isEndless then operands.dropLast ++ ["1" ++ String.ofList (List.replicate 40 '0')]
      else operands
    match operands.find? fun a => (seqNumber? a).isNone with
    | some bad =>
      let kind := if lower bad = "nan" then "'not-a-number' argument" else "floating point argument"
      misuse "seq" s!"invalid {kind}: {cited bad}" 1
    | none =>
      let numbers := operands.filterMap seqNumber?
      let one : SeqNumber := ⟨1, 0, 1⟩
      let (first, step, last) := match numbers with
        | [last] => (one, one, last)
        | [first, last] => (first, one, last)
        | first :: step :: last :: _ => (first, step, last)
        | [] => (one, one, one)
      if step.value = 0 then
        misuse "seq" s!"invalid Zero increment value: {cited (firstOf (operands.drop 1))}" 1
      else
        let places := max first.places step.places
        let common := max places last.places
        let widthOf (x : SeqNumber) : Nat :=
          x.width + (if x.places = 0 && 0 < places then places + 1 else 0) +
            (if 0 < x.places then places - x.places else 0) -
            (if 0 < x.places && places = 0 then x.places + 1 else 0)
        let width := max (widthOf first) (widthOf last)
        let spellUsual (x : Int) : List Char :=
          -- the last digits are zeros if only the last number has as many places
          let shown := x.natAbs / Nat.pow 10 (common - places)
          let digits := Floating.withPoint shown places false
          let mark : List Char := if x < 0 then ['-'] else []
          if g.has "w" then
            mark ++ List.replicate (width - mark.length - digits.length) '0' ++ digits
          else mark ++ digits
        let between := ((g.value? "s").getD "\n").toList
        let start := first.scaled common
        match (g.value? "f").map fun f => seqFormat? f.toList with
        | some (.error message) => refuse "seq" message 1
        | some (.ok (before, directive, after)) =>
          let spell (x : Int) : List Char :=
            before ++ directive.floating 64
              (Floating.round 64 (x < 0) (.scaled x.natAbs 10 (-(common : Int)))) ++ after
          printNumbers spell between (step.scaled common) (last.scaled common) endless start true
          return 0
        | none =>
          printNumbers spellUsual between (step.scaled common) (last.scaled common) endless start true
          return 0

/-! ## conditions -/

/-- decide the condition of `test` and `[` -/
def decideCondition (program : String) (args : List String) : Activity Nat := do
  let facts : Test.Facts := {
    isExtended := true
    disk := ← disk
    hasValue := fun _ => false
    isOptionOn := fun _ => false }
  match Test.holds facts args with
  | .ok true => return 0
  | .ok false => return 1
  | .error f => refuse program (f.told cited (args.getLastD "")) 2

def bracket (args : List String) : Activity Nat :=
  if args.getLast? = some "]" then decideCondition "[" args.dropLast
  else refuse "[" "missing ']'" 2

end PatternBuild.Shell.Tool
