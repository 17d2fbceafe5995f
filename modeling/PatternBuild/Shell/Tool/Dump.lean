import PatternBuild.Shell.Decimal
import PatternBuild.Shell.Tool.Quantity

/-!
# Dumps: octets shown as numbers

`od` shows the octets of files line by line, in one or several forms, with the number of the first
octet of a line in front.  Lines that repeat the one above are shown as a star.
-/

namespace PatternBuild.Shell.Tool

namespace Dump

open Activity

/-- how a number, or a character, is shown -/
inductive Look where
  | signed
  | unsigned
  | octal
  | hexadecimal
  | fraction
  /-- characters with escapes -/
  | escaped
  /-- names of characters -/
  | named
  deriving DecidableEq, Repr

/-- a form in which octets are shown -/
structure Form where
  look : Look
  /-- the octets of a number -/
  size : Nat
  /-- the characters follow at the end of the line -/
  hasText : Bool
  deriving DecidableEq, Repr

namespace Form

/-- the width of a number -/
def width (f : Form) : Nat :=
  match f.look, f.size with
  | .signed, 1 => 4
  | .signed, 2 => 6
  | .signed, 4 => 11
  | .signed, _ => 20
  | .unsigned, 1 => 3
  | .unsigned, 2 => 5
  | .unsigned, 4 => 10
  | .unsigned, _ => 20
  | .octal, 1 => 3
  | .octal, 2 => 6
  | .octal, 4 => 11
  | .octal, _ => 22
  | .hexadecimal, n => 2 * n
  | .fraction, 4 => 15
  | .fraction, _ => 24
  | _, _ => 3

/-- digits with zeros in front up to the width -/
def filled (f : Form) (digits : List Char) : String :=
  String.ofList (List.replicate (f.width - digits.length) '0' ++ digits)

/-- the shortest decimal digits that write a floating number of so many bits -/
def shortest (bits least most : Nat) (x : Floating) : String :=
  match x with
  | .infinite s => if s then "-inf" else "inf"
  | .nan s => if s then "-nan" else "nan"
  | .finite s m e =>
    let f := (Floating.finite s m e).fraction
    let isSame (text : List Char) : Bool :=
      match Floating.read? bits text with
      | some (y, _) => y.fraction.num * f.den = f.num * y.fraction.den
      | none => false
    let texts := (List.range (most + 1 - least)).map fun k => Floating.general f (least + k) false
    let text := ((texts.find? isSame).orElse fun _ => texts.getLast?).getD []
    String.ofList ((if s then ['-'] else []) ++ text)

/-- the floating number that bits write -/
def floating (size n : Nat) : Floating :=
  let (exponentBits, mantissaBits) := if size = 4 then (8, 23) else (11, 52)
  let isNegative := n / Nat.pow 2 (exponentBits + mantissaBits) % 2 = 1
  let e := n / Nat.pow 2 mantissaBits % Nat.pow 2 exponentBits
  let m := n % Nat.pow 2 mantissaBits
  let bias : Int := Nat.pow 2 (exponentBits - 1) - 1 + mantissaBits
  if e = Nat.pow 2 exponentBits - 1 then (if m = 0 then .infinite isNegative else .nan isNegative)
  else if e = 0 then .finite isNegative m (1 - bias)
  else .finite isNegative (m + Nat.pow 2 mantissaBits) ((e : Int) - bias)

/-- a character with escapes -/
def escapedText (c : Char) : String :=
  match c with
  | '\x00' => "\\0"
  | '\x07' => "\\a"
  | '\x08' => "\\b"
  | '\x09' => "\\t"
  | '\x0a' => "\\n"
  | '\x0b' => "\\v"
  | '\x0c' => "\\f"
  | '\x0d' => "\\r"
  | c =>
    if isHidden c then
      let digits := Nat.toDigits 8 c.toNat
      String.ofList (List.replicate (3 - digits.length) '0' ++ digits)
    else c.toString

def controlNames : Array String :=
  #["nul", "soh", "stx", "etx", "eot", "enq", "ack", "bel", "bs", "ht", "nl", "vt", "ff", "cr", "so",
    "si", "dle", "dc1", "dc2", "dc3", "dc4", "nak", "syn", "etb", "can", "em", "sub", "esc", "fs",
    "gs", "rs", "us", "sp"]

/-- a number as it is shown -/
def text (f : Form) (n : Nat) : String :=
  match f.look with
  | .signed =>
    let half := Nat.pow 2 (8 * f.size - 1)
    toString (if half ≤ n then (n : Int) - 2 * half else n)
  | .unsigned => toString n
  | .octal => f.filled (Nat.toDigits 8 n)
  | .hexadecimal => f.filled (Nat.toDigits 16 n)
  | .fraction =>
    if f.size = 4 then shortest 24 6 9 (floating 4 n) else shortest 53 15 17 (floating 8 n)
  | .escaped => escapedText (Char.ofNat n)
  | .named =>
    let n := n % 128
    if n = 127 then "del" else (controlNames[n]?).getD (Char.ofNat n).toString

end Form

/-! ## lines -/

/-- how numbers of octets are written -/
inductive AddressBase where
  | octal
  | decimal
  | hexadecimal
  | none
  deriving DecidableEq, Repr

def AddressBase.width : AddressBase → Nat
  | .octal => 7
  | .decimal => 7
  | .hexadecimal => 6
  | .none => 0

def AddressBase.text (b : AddressBase) (n : Nat) : String :=
  let digits := match b with
    | .octal => Nat.toDigits 8 n
    | .decimal => Nat.toDigits 10 n
    | .hexadecimal => Nat.toDigits 16 n
    | .none => []
  String.ofList (List.replicate (b.width - digits.length) '0' ++ digits)

/-- how octets are shown -/
structure Style where
  base : AddressBase
  forms : List Form
  /-- the number of octets of a line -/
  size : Nat
  showsAll : Bool
  isBigEndian : Bool

/-- the number that octets write -/
def numberOf (s : Style) (cs : List Char) : Nat :=
  let step (n : Nat) (c : Char) : Nat := n * 256 + c.toNat
  if s.isBigEndian then cs.foldl step 0 else cs.reverse.foldl step 0

/-- groups of octets, the last one filled up with zeros -/
def groupsOf (size : Nat) : Nat → List Char → List (List Char)
  | 0, _ => []
  | n + 1, cs =>
    if cs.isEmpty then []
    else
      let group := cs.take size
      (group ++ List.replicate (size - group.length) '\x00') :: groupsOf size n (cs.drop size)

/-- the numbers of a line in one form; blanks are spread so that all forms have the same width -/
def formText (s : Style) (f : Form) (lineWidth : Nat) (cs : List Char) : String :=
  let count := s.size / f.size
  let pad := lineWidth - (f.width + 1) * count
  let groups := groupsOf f.size (cs.length + 1) cs
  let padAt (left : Nat) : Nat := pad * left / count
  let fields := groups.zipIdx.map fun (group, k) =>
    let left := count - k
    " " ++ padLeft (f.width + padAt left - padAt (left - 1)) (f.text (numberOf s group))
  let line := String.join fields
  if f.hasText then
    let missing := count - groups.length
    let shownChar (c : Char) : Char := if isHidden c then '.' else c
    line ++ String.ofList (List.replicate (missing * (f.width + 1) + padAt missing) ' ') ++
      "  >" ++ String.ofList (cs.map shownChar) ++ "<"
  else line

/-- one line, in all forms -/
def lineText (s : Style) (address : Nat) (cs : List Char) : String :=
  let lineWidth := ((s.forms.map fun f => (f.width + 1) * (s.size / f.size)).max?).getD 0
  String.join <| s.forms.zipIdx.map fun (f, k) =>
    let start := if k = 0 then s.base.text address else String.ofList (List.replicate s.base.width ' ')
    start ++ formText s f lineWidth cs ++ "\n"

/-- show the lines of octets; `last` is the line above, and `isStarred` tells whether a star stands
for it -/
def showLines (s : Style) : Nat → Nat → Option (List Char) → Bool → List Char → Activity Unit
  | 0, _, _, _, _ => return
  | n + 1, address, last, isStarred, cs => do
    if cs.isEmpty then
      if s.base ≠ .none then Tool.say (s.base.text address ++ "\n")
      return
    let line := cs.take s.size
    let isFull := line.length = s.size
    if isFull && !s.showsAll && last == some line then
      if !isStarred then Tool.say "*\n"
      showLines s n (address + s.size) last true (cs.drop s.size)
    else
      Tool.say (lineText s address line)
      showLines s n (address + line.length) (some line) false (cs.drop s.size)

/-! ## arguments -/

/-- the forms that a text writes -/
def readForms (text : String) : Nat → List Char → Except String (List Form)
  | 0, _ => .ok []
  | n + 1, cs =>
    match cs with
    | [] => .ok []
    | c :: rest => do
      let numbers (look : Look) (usual : Nat) : Except String (Form × List Char) := do
        let isFraction := look = .fraction
        let (size, rest) ← match rest with
          | 'C' :: rest => if isFraction then pure (usual, 'C' :: rest) else pure (1, rest)
          | 'S' :: rest => if isFraction then pure (usual, 'S' :: rest) else pure (2, rest)
          | 'I' :: rest => if isFraction then pure (usual, 'I' :: rest) else pure (4, rest)
          | 'L' :: rest => pure (8, rest)
          | 'F' :: rest => if isFraction then pure (4, rest) else pure (usual, 'F' :: rest)
          | 'D' :: rest => if isFraction then pure (8, rest) else pure (usual, 'D' :: rest)
          | rest =>
            let digits := rest.takeWhile Char.isDigit
            pure ((numeral? 10 digits).getD usual, rest.drop digits.length)
        let known := if isFraction then [4, 8] else [1, 2, 4, 8]
        if !known.contains size then
          let kind := if isFraction then "floating point" else "integral"
          throw s!"invalid type string {cited text};\nthis system doesn't provide a {size}-byte {kind} type"
        return (⟨look, size, false⟩, rest)
      let (form, rest) ← match c with
        | 'a' => pure (⟨.named, 1, false⟩, rest)
        | 'c' => pure (⟨.escaped, 1, false⟩, rest)
        | 'd' => numbers .signed 4
        | 'u' => numbers .unsigned 4
        | 'o' => numbers .octal 4
        | 'x' => numbers .hexadecimal 4
        | 'f' => numbers .fraction 8
        | c => throw s!"invalid character {cited c.toString} in type string {cited text}"
      let (form, rest) := match rest with
        | 'z' :: rest => ({ form with hasText := true }, rest)
        | rest => (form, rest)
      return form :: (← readForms text n rest)

/-- what letters without a value stand for -/
def formOfLetter? : String → Option String
  | "a" => some "a"
  | "b" => some "o1"
  | "c" => some "c"
  | "d" => some "u2"
  | "D" => some "u4"
  | "e" => some "f8"
  | "F" => some "f8"
  | "f" => some "f4"
  | "h" => some "x2"
  | "x" => some "x2"
  | "H" => some "x4"
  | "X" => some "x4"
  | "i" => some "d4"
  | "I" => some "d8"
  | "l" => some "d8"
  | "L" => some "d8"
  | "o" => some "o2"
  | "B" => some "o2"
  | "O" => some "o4"
  | "s" => some "d2"
  | _ => none

/-- the number of octets that an option is given, in any base -/
def octetCount (g : Given) (name : String) : Except String (Option Nat) :=
  match g.value? name with
  | none => .ok none
  | some text =>
    match readCountByStart sizeLetters text with
    | .ok n => .ok (some n)
    | .error f => .error (f.message (if name.length = 1 then "-" ++ name else "--" ++ name) text)

/-- texts of at least so many characters that a zero octet ends, each with its address; `seen` is the
text before, its last character first, and `isCut` holds if the octets do not go on to their end -/
def showTexts (base : AddressBase) (least : Nat) (isCut : Bool) :
    List Char → Nat → List Char → Activity Unit
  | [], address, seen => do
    if isCut && least < seen.length then showText address seen
  | c :: cs, address, seen => do
    if c == '\x00' then
      if least ≤ seen.length then showText address seen
      showTexts base least isCut cs (address + 1) []
    else if isHidden c then showTexts base least isCut cs (address + 1) []
    else showTexts base least isCut cs (address + 1) (c :: seen)
where
  /-- one text before an address -/
  showText (address : Nat) (seen : List Char) : Activity Unit := do
    let start := base.text (address - seen.length)
    let between := if base = .none then "" else " "
    Tool.out ((start ++ between).toList ++ seen.reverse ++ ['\n'])

/-- the place behind a plus sign -/
def place? (text : String) : Option Nat :=
  match text.toList with
  | '+' :: cs =>
    match cs.getLast? with
    | some '.' => numeral? 10 cs.dropLast
    | _ => if cs.all isOctal then numeral? 8 cs else none
  | _ => none

def options : OptionRules :=
  .of "abBcdDefFhHiIlLoOsvxX" "AjNStw" [("skip-bytes", "j", .always), ("address-radix", "A", .always),
    ("read-bytes", "N", .always), ("format", "t", .always), ("output-duplicates", "v", .never),
    ("strings", "strings", .maybe), ("width", "width", .maybe), ("endian", "endian", .always)]

end Dump

open Activity Dump

def od (args : List String) : Activity Nat :=
  -- the number behind `-w` may be left out
  let args := args.map fun a => if a = "-w" then "--width" else a
  withOptions "od" Dump.options 1 args fun g => do
    let base? : Option AddressBase := match (g.valueOf "A").toList.head? with
      | none => some .octal
      | some 'o' => some .octal
      | some 'd' => some .decimal
      | some 'x' => some .hexadecimal
      | some 'n' => some .none
      | _ => none
    let texts := g.options.filterMap fun (name, value) =>
      if name = "t" then some value else formOfLetter? name
    let forms := (if texts.isEmpty then ["o2"] else texts).mapM fun text =>
      readForms text (text.length + 1) text.toList
    match base?, forms with
    | none, _ =>
      let radix := quoted (g.valueOf "A")
      refuse "od" s!"invalid output address radix {radix}; it must be one character from [doxn]" 1
    | _, .error message => refuse "od" message 1
    | some base, .ok forms =>
      let forms := forms.flatten
      let common := forms.foldl (fun n f => Nat.lcm n f.size) 1
      let numbers? : Except String (List (Option Nat)) := ["j", "N", "S", "w"].mapM (octetCount g)
      let long? (name usual : String) : Except String (Option Nat) :=
        if g.value? name = some "" then .ok (natural? usual) else octetCount g name
      match numbers?, long? "width" "32", long? "strings" "3" with
      | .error message, _, _ => return ← refuse "od" message 1
      | _, .error message, _ => return ← refuse "od" message 1
      | _, _, .error message => return ← refuse "od" message 1
      | .ok numbers, .ok longWidth, .ok longTexts =>
      let numberOf (i : Nat) : Option Nat := (numbers[i]?).getD none
      let width? := (numberOf 3).orElse fun _ => longWidth
      let size := match width? with
        | some n => if n ≠ 0 && n % common = 0 then n else common
        | none => if common < 16 then common * (16 / common) else common
      if let some n := width? then
        if n ≠ size then Tool.complain "od" s!"warning: invalid width {n}; using {size} instead"
      let s : Style := ⟨base, forms, size, g.has "v", g.valueOf "endian" = "big"⟩
      let isOld := ["A", "j", "N", "t", "v", "w", "width", "S"].all fun name => !g.has name
      let (operands, old) := match g.operands.getLast?.bind place? with
        | some n => if isOld then (g.operands.dropLast, n) else (g.operands, 0)
        | none => (g.operands, 0)
      let (found, code) ← contents "od" operands
      if found.isEmpty then return code
      let all := (found.map (·.2)).flatten
      let skipped := (numberOf 0).getD old
      if all.length < skipped then return ← refuse "od" "cannot skip past end of combined input" 1
      let rest := all.drop skipped
      let rest := match numberOf 1 with
        | some n => rest.take n
        | none => rest
      if let some least := (numberOf 2).orElse fun _ => longTexts then
        showTexts base least (numberOf 1).isSome rest skipped []
        return code
      showLines s (rest.length + 2) skipped none false rest
      return code

end PatternBuild.Shell.Tool
