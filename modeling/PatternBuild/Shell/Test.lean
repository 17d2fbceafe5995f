import PatternBuild.FileSystem.Disk
import PatternBuild.Shell.Arithmetic
import PatternBuild.Shell.Escape

/-!
# Tests: the conditions of scripts

A condition is read from the arguments of `test` and decided at once.  How many arguments there are
decides how they are read; from five on they form an expression with operators of three strengths.
-/

namespace PatternBuild.Shell.Test

/-- what a condition can ask about -/
structure Facts where
  isExtended : Bool
  disk : Disk
  hasValue : String → Bool
  isOptionOn : String → Bool

/-- why a condition is none -/
inductive Fault where
  | noNumber (text : String)
  | noOperand
  | noOperandAfter (op : String)
  /-- a bracket is open, and what stands where it should be closed -/
  | open (found : Option String)
  | notUnary (op : String)
  | notBinary (op : String)
  /-- nothing may follow; the plain language names what stands before that -/
  | strays (last : String) (extra : String)
  deriving DecidableEq, Repr

/-- what the shells tell about a fault -/
def Fault.message (isExtended : Bool) : Fault → String
  | .noNumber text =>
    if isExtended then s!"{text}: integer expression expected" else s!"Illegal number: {text}"
  | .noOperand => "argument expected"
  | .noOperandAfter op => s!"{op}: argument expected"
  | .open none => if isExtended then "\x60)' expected" else "closing paren expected"
  | .open (some found) =>
    if isExtended then s!"\x60)' expected, found {found}" else "closing paren expected"
  | .notUnary op => s!"{op}: unary operator expected"
  | .notBinary op => s!"{op}: binary operator expected"
  | .strays last _ => if isExtended then "too many arguments" else s!"{last}: unexpected operator"

/-- what the program of that name tells about a fault; `last` is its last argument -/
def Fault.told (quote : String → String) (last : String) : Fault → String
  | .noNumber text => "invalid integer " ++ quote text
  | .noOperand => "missing argument after " ++ quote last
  | .noOperandAfter op => "missing argument after " ++ quote op
  | .open none => "')' expected"
  | .open (some found) => "')' expected, found " ++ found
  | .notUnary op => quote op ++ ": unary operator expected"
  | .notBinary op => quote op ++ ": binary operator expected"
  | .strays _ extra => "extra argument " ++ quote extra

/-- a truth value and what follows, or a complaint -/
abbrev Decided := Except Fault (Bool × List String)

def fileTests : List String :=
  ["-e", "-f", "-d", "-r", "-w", "-x", "-s", "-h", "-L", "-p", "-S", "-b", "-c", "-g", "-u", "-k",
    "-O", "-G"]

def textTests : List String := ["-n", "-z", "-t"]

/-- tests that the plain language lacks -/
def moreTests : List String := ["-a", "-N", "-v", "-o", "-R"]

def comparisons (isExtended : Bool) : List String :=
  ["=", "!=", "<", ">", "-eq", "-ne", "-lt", "-le", "-gt", "-ge", "-nt", "-ot", "-ef"] ++
    if isExtended then ["=="] else []

/-- the number that an operand writes -/
def number (x : String) : Except Fault Int :=
  let isBlank (c : Char) : Bool := c == ' ' || (9 ≤ c.toNat && c.toNat ≤ 13)
  let cs := x.toList.dropWhile isBlank
  let (isNegative, cs) := match cs with
    | '-' :: cs => (true, cs)
    | '+' :: cs => (false, cs)
    | cs => (false, cs)
  let digits := cs.takeWhile Char.isDigit
  match numeral? 10 digits with
  | some n =>
    let limit := if isNegative then 9223372036854775808 else 9223372036854775807
    if limit < n || !((cs.drop digits.length).all isBlank) then .error (.noNumber x)
    else .ok (if isNegative then -(n : Int) else n)
  | none => .error (.noNumber x)

variable (f : Facts)

def isUnary (op : String) : Bool :=
  fileTests.contains op || textTests.contains op || (f.isExtended && moreTests.contains op)

def isBinary (op : String) : Bool := (comparisons f.isExtended).contains op

/-! ## single tests -/

/-- whether the user may do something with what stands behind a path -/
def allows (path : String) (what : Nat) : Bool :=
  match f.disk.stat path with
  | .ok (l, _) => f.disk.allows l what
  | .error _ => false

/-- whether a file has one of some bits in its mode -/
def hasMode (path : String) (bits : Nat) : Bool :=
  match f.disk.stat path with
  | .ok (_, n) => f.disk.modeOf n &&& bits ≠ 0
  | .error _ => false

/-- decide a test of one operand -/
def unary (op x : String) : Bool :=
  match op with
  | "-n" => x != ""
  | "-z" => x == ""
  | "-f" => f.disk.isFile x
  | "-d" => f.disk.isDir x
  | "-s" | "-N" =>
    match f.disk.stat x with
    | .ok (_, n) => f.disk.sizeOf n ≠ 0
    | .error _ => false
  | "-r" => allows f x Disk.reading
  | "-w" => allows f x Disk.writing
  | "-x" => allows f x Disk.entering
  | "-O" | "-G" =>
    match f.disk.stat x with
    | .ok (l, _) => f.disk.isOwn l
    | .error _ => false
  | "-h" | "-L" => f.disk.isLink x
  | "-c" =>
    match f.disk.stat x with
    | .ok (_, .device _) => true
    | _ => false
  | "-p" =>
    match f.disk.stat x with
    | .ok (_, .fifo _) => true
    | _ => false
  | "-g" => hasMode f x 0o2000
  | "-u" => hasMode f x 0o4000
  | "-k" => hasMode f x 0o1000
  | "-e" | "-a" => f.disk.isPresent x
  | "-v" => f.hasValue x
  | "-o" => f.isOptionOn x
  | _ => false

/-- compare when files were changed; in the language with extensions a file that is there is newer
than one that is not -/
def isNewer (x y : String) : Bool :=
  let time? (path : String) : Option Nat := match f.disk.stat path with
    | .ok (_, n) => some (f.disk.modifiedOf n)
    | .error _ => none
  match time? x, time? y with
  | some a, some b => b < a
  | some _, none => f.isExtended
  | none, _ => false

/-- decide a comparison -/
def compare (op x y : String) : Except Fault Bool :=
  let numbers (r : Int → Int → Bool) : Except Fault Bool := do
    return r (← number x) (← number y)
  match op with
  | "=" | "==" => .ok (x == y)
  | "!=" => .ok (x != y)
  | "<" => .ok (decide (x < y))
  | ">" => .ok (decide (y < x))
  | "-eq" => numbers fun a b => a == b
  | "-ne" => numbers fun a b => a != b
  | "-lt" => numbers fun a b => decide (a < b)
  | "-le" => numbers fun a b => decide (a ≤ b)
  | "-gt" => numbers fun a b => decide (b < a)
  | "-ge" => numbers fun a b => decide (b ≤ a)
  | "-ef" =>
    match f.disk.stat x, f.disk.stat y with
    | .ok (_, .file a), .ok (_, .file b) => .ok (a == b)
    | .ok (a, _), .ok (b, _) => .ok (a == b)
    | _, _ => .ok false
  | "-nt" => .ok (isNewer f x y)
  | "-ot" => .ok (isNewer f y x)
  | _ => .ok false

/-! ## expressions of the plain language -/

/-- whether the first of these arguments is an operand, whatever it looks like -/
def startsWithOperand : List String → Bool
  | [] => true
  | x :: rest =>
    if isUnary f x then
      match rest with
      | [] => true
      | [_] => false
      | op :: y :: _ => isBinary f op && y != ")"
    else if x = "(" then rest.isEmpty
    else x != "!" && x != "-a" && x != "-o"

mutual

def disjunction : Nat → List String → Decided
  | 0, _ => .error .noOperand
  | n + 1, args => do
    let (a, rest) ← conjunction n args
    match rest with
    | "-o" :: rest =>
      let (b, rest) ← disjunction n rest
      return (a || b, rest)
    | _ => return (a, rest)

def conjunction : Nat → List String → Decided
  | 0, _ => .error .noOperand
  | n + 1, args => do
    let (a, rest) ← negation n args
    match rest with
    | "-a" :: rest =>
      let (b, rest) ← conjunction n rest
      return (a && b, rest)
    | _ => return (a, rest)

def negation : Nat → List String → Decided
  | 0, _ => .error .noOperand
  | n + 1, args => do
    match args with
    | "!" :: x :: rest =>
      let (a, rest) ← negation n (x :: rest)
      return (!a, rest)
    | _ => primary n args

def primary : Nat → List String → Decided
  | 0, _ => .error .noOperand
  | n + 1, args => do
    match args with
    | [] => return (false, [])
    | x :: rest =>
      if x = "(" ∧ !startsWithOperand f args then
        let (a, rest) ← disjunction n rest
        match rest with
        | ")" :: rest => return (a, rest)
        | _ => throw (.open none)
      else if isUnary f x ∧ !startsWithOperand f args then
        match rest with
        | y :: rest =>
          if x = "-t" then discard (number y)
          return (unary f x y, rest)
        | [] => throw (.noOperandAfter x)
      else
        match rest with
        | op :: y :: more =>
          if isBinary f op then return (← compare f op x y, more)
          else return (x != "", rest)
        | [op] =>
          if isBinary f op then throw (.noOperandAfter op)
          else return (x != "", rest)
        | [] => return (x != "", rest)

end

/-- nothing may follow a condition; a complaint names what stands before that -/
def plainEnd (args : List String) (r : Decided) : Except Fault Bool := do
  let (a, rest) ← r
  if rest.isEmpty then return a
  else throw (.strays ((args.reverse.drop rest.length).headD "") (rest.headD ""))

/-- decide a condition of the plain language; what a comparison in the middle of three arguments
compares may look like anything -/
def holdsPlainly (args : List String) : Except Fault Bool :=
  let whole (_ : Unit) := plainEnd args (disjunction f (4 * args.length + 8) args)
  match args with
  | [] => .ok false
  | [x] => .ok (x != "")
  | ["!", x] => .ok (x == "")
  | [x, op, y] => if isBinary f op then compare f op x y else whole ()
  | ["!", x, op, y] => if isBinary f op then (compare f op x y).map (!·) else whole ()
  | _ => whole ()

/-! ## expressions of the language with extensions -/

mutual

def wideEither : Nat → List String → Decided
  | 0, _ => .error .noOperand
  | n + 1, args => do
    let (a, rest) ← wideBoth n args
    match rest with
    | "-o" :: rest =>
      let (b, rest) ← wideEither n rest
      return (a || b, rest)
    | _ => return (a, rest)

def wideBoth : Nat → List String → Decided
  | 0, _ => .error .noOperand
  | n + 1, args => do
    let (a, rest) ← wideTerm n args
    match rest with
    | "-a" :: rest =>
      let (b, rest) ← wideBoth n rest
      return (a && b, rest)
    | _ => return (a, rest)

def wideTerm : Nat → List String → Decided
  | 0, _ => .error .noOperand
  | n + 1, args => do
    match args with
    | [] => throw .noOperand
    | "!" :: rest =>
      let (a, rest) ← wideTerm n rest
      return (!a, rest)
    | "(" :: rest =>
      let (a, rest) ← wideEither n rest
      match rest with
      | ")" :: rest => return (a, rest)
      | [] => throw (.open none)
      | x :: _ => throw (.open (some x))
    | x :: op :: y :: rest =>
      if isBinary f op then return (← compare f op x y, rest)
      else if isUnary f x then return (unary f x op, y :: rest)
      else if x.startsWith "-" && x.length = 2 then throw (.notUnary x)
      else return (x != "", op :: y :: rest)
    | [x, y] =>
      if isUnary f x then return (unary f x y, [])
      else if x.startsWith "-" && x.length = 2 then throw (.notUnary x)
      else return (x != "", [y])
    | [x] => return (x != "", [])

end

def wideWhole (args : List String) : Except Fault Bool := do
  let (a, rest) ← wideEither f (4 * args.length + 8) args
  if rest.isEmpty then return a else throw (.strays "" (rest.headD ""))

def wideTwo (x y : String) : Except Fault Bool :=
  if x = "!" then .ok (y == "")
  else if isUnary f x then .ok (unary f x y)
  else .error (.notUnary x)

def wideThree (x op y : String) : Except Fault Bool :=
  if isBinary f op then compare f op x y
  else if op = "-a" then .ok (x != "" && y != "")
  else if op = "-o" then .ok (x != "" || y != "")
  else if x = "!" then (wideTwo f op y).map (!·)
  else if x = "(" ∧ y = ")" then .ok (op != "")
  else .error (.notBinary op)

/-- decide a condition of the language with extensions -/
def holdsWidely (args : List String) : Except Fault Bool :=
  match args with
  | [] => .ok false
  | [x] => .ok (x != "")
  | [x, y] => wideTwo f x y
  | [x, op, y] => wideThree f x op y
  | [a, x, op, y] =>
    if a = "!" then (wideThree f x op y).map (!·)
    else if a = "(" ∧ y = ")" then wideTwo f x op
    else wideWhole f args
  | _ => wideWhole f args

/-- decide a condition -/
def holds (args : List String) : Except Fault Bool :=
  if f.isExtended then holdsWidely f args else holdsPlainly f args

end PatternBuild.Shell.Test
