import PatternBuild.Shell.Arithmetic
import PatternBuild.Shell.Tool.Changes
import PatternBuild.Shell.Tool.Unfolding.World

/-!
# Words with built-in meanings

Most of these words work on texts; one of them computes sums.
-/

/-!
## Sums: expressions over whole numbers of 32 bits

`Sum.evaluate` gives the value of an expression.  In a part whose value does not count only the form
matters, so that a division by zero there is no fault.
-/

namespace PatternBuild.Shell.Tool.Unfolding.Sum

/-- what can be wrong with an expression; the first three do no harm where the value does not count -/
inductive Fault where
  | divisionByZero
  | remainderByZero
  | negativePower
  | badForm
  | openParenthesis
  | badSign
  | extra
  | badOperator
  deriving DecidableEq, Repr

namespace Fault

/-- whether the form is right -/
def isOfValue : Fault → Bool
  | .divisionByZero => true
  | .remainderByZero => true
  | .negativePower => true
  | _ => false

def message : Fault → String
  | .divisionByZero => "divide by zero in eval"
  | .remainderByZero => "modulo by zero in eval"
  | .negativePower => "negative exponent in eval"
  | .badForm => "bad expression in eval"
  | .openParenthesis => "bad expression in eval (missing right parenthesis)"
  | .badSign => "bad expression in eval (bad input)"
  | .extra => "bad expression in eval (excess input)"
  | .badOperator => "invalid operator in eval"

end Fault

/-- a part of an expression -/
inductive Token where
  | number (n : Int)
  | op (text : String)
  /-- an operator that would assign -/
  | wrongOp
  | unknown
  | ended
  deriving DecidableEq, Repr

/-- a number as 32 bits keep it -/
def wrap (n : Int) : Int := Int.bmod n 4294967296

/-- the value of a digit or letter -/
def digit? (c : Char) : Option Nat :=
  if c.isDigit then some (c.toNat - 48)
  else if c.isLower then some (c.toNat - 87)
  else if c.isUpper then some (c.toNat - 55) else none

/-- digits to a base from the start of a text; in base 1 every sign is a one, behind leading zeros -/
def digits (base : Nat) : Int → List Char → Int × List Char
  | n, c :: cs =>
    match digit? c with
    | none => (n, c :: cs)
    | some d =>
      if base = 1 then
        if d = 1 then digits base (wrap (n + 1)) cs
        else if d = 0 && n = 0 then digits base n cs else (n, c :: cs)
      else if base ≤ d then (n, c :: cs)
      else digits base (wrap (n * base + d)) cs
  | n, [] => (n, [])

/-- the number that starts a text -/
def number (cs : List Char) : Token × List Char :=
  let inBase (base : Nat) (cs : List Char) : Token × List Char :=
    let (n, rest) := digits base 0 cs
    (.number n, rest)
  match cs with
  | '0' :: c :: rest =>
    if c == 'x' || c == 'X' then inBase 16 rest
    else if c == 'b' || c == 'B' then inBase 2 rest
    else if c == 'r' || c == 'R' then
      let written := rest.takeWhile Char.isDigit
      match (String.ofList written).toNat?, rest.drop written.length with
      | some base, ':' :: more => if base = 0 || 36 < base then (.unknown, rest) else inBase base more
      | _, _ => (.unknown, rest)
    else inBase 8 (c :: rest)
  | cs => inBase 10 cs

/-- the next token, and what follows it -/
def token (cs : List Char) : Token × List Char :=
  let cs := cs.dropWhile fun c => c == ' ' || ('\t' ≤ c && c ≤ '\r')
  /- one sign, two of them, or one with an equals sign -/
  let sign (text double : String) (comparison : Option String) (rest : List Char) : Token × List Char :=
    match rest with
    | '=' :: more =>
      match comparison with
      | some text => (.op text, more)
      | none => (.wrongOp, rest)
    | d :: more =>
      if double ≠ "" && double.toList.getLast? == some d then
        if (double = "<<" || double = ">>") && more.head? == some '=' then (.wrongOp, more)
        else (.op double, more)
      else (.op text, rest)
    | [] => (.op text, rest)
  match cs with
  | [] => (.ended, [])
  | '+' :: rest => sign "+" "" none rest
  | '-' :: rest => sign "-" "" none rest
  | '*' :: rest => sign "*" "**" none rest
  | '/' :: rest => sign "/" "" none rest
  | '%' :: rest => sign "%" "" none rest
  | '=' :: '=' :: rest => (.op "==", rest)
  | '=' :: rest => (.wrongOp, rest)
  | '!' :: rest => sign "!" "" (some "!=") rest
  | '>' :: rest => sign ">" ">>" (some ">=") rest
  | '<' :: rest => sign "<" "<<" (some "<=") rest
  | '^' :: rest => sign "^" "" none rest
  | '~' :: rest => (.op "~", rest)
  | '&' :: rest => sign "&" "&&" none rest
  | '|' :: rest => sign "|" "||" none rest
  | '(' :: rest => (.op "(", rest)
  | ')' :: rest => (.op ")", rest)
  | c :: rest => if c.isDigit then number cs else (.unknown, rest)

/-- the operators between two operands, those that bind least first -/
def levels : List (List String) :=
  [["||"], ["&&"], ["|"], ["^"], ["&"], ["==", "!="], [">", ">=", "<", "<="], ["<<", ">>"], ["+", "-"],
    ["*", "/", "%"]]

/-- bits of two numbers -/
def bitwise (f : Nat → Nat → Nat) (a b : Int) : Int :=
  let bits (n : Int) : Nat := (n % 4294967296).toNat
  wrap (f (bits a) (bits b))

def truth (b : Bool) : Int := if b then 1 else 0

/-- the value of an operator between two numbers -/
def apply (op : String) (a b : Int) : Except Fault Int :=
  match op with
  | "||" => .ok (truth (a ≠ 0 || b ≠ 0))
  | "&&" => .ok (truth (a ≠ 0 && b ≠ 0))
  | "|" => .ok (bitwise Nat.lor a b)
  | "^" => .ok (bitwise Nat.xor a b)
  | "&" => .ok (bitwise Nat.land a b)
  | "==" => .ok (truth (a = b))
  | "!=" => .ok (truth (a ≠ b))
  | ">" => .ok (truth (b < a))
  | ">=" => .ok (truth (b ≤ a))
  | "<" => .ok (truth (a < b))
  | "<=" => .ok (truth (a ≤ b))
  | "<<" => .ok (wrap (a * Nat.pow 2 (b % 32).toNat))
  | ">>" => .ok (Int.fdiv a (Nat.pow 2 (b % 32).toNat : Nat))
  | "+" => .ok (wrap (a + b))
  | "-" => .ok (wrap (a - b))
  | "*" => .ok (wrap (a * b))
  | "/" => if b = 0 then .error .divisionByZero else .ok (wrap (Int.tdiv a b))
  | "%" => if b = 0 then .error .remainderByZero else .ok (Int.tmod a b)
  | _ => .error .badForm

/-- a number to a power -/
def power (a b : Int) : Except Fault Int :=
  if b < 0 then .error .negativePower
  else if a = 0 && b = 0 then .error .divisionByZero
  else .ok ((List.range 31).reverse.foldl (fun (n : Int) i =>
    if b.toNat.testBit i then wrap (wrap (n * n) * a) else wrap (n * n)) 1)

mutual

/-- operands with operators of some levels between them -/
def level : Nat → List (List String) → List Char → Except (Fault × List Char) (Int × List Char)
  | 0, _, cs => .error (.badForm, cs)
  | n + 1, [], cs => powers n cs
  | n + 1, ops :: tighter, cs => do
    let (a, cs) ← level n tighter cs
    levelRest n ops tighter a cs
termination_by structural n => n

/-- further operands of a level -/
def levelRest : Nat → List String → List (List String) → Int → List Char →
    Except (Fault × List Char) (Int × List Char)
  | 0, _, _, _, cs => .error (.badForm, cs)
  | n + 1, ops, tighter, a, cs =>
    match token cs with
    | (.unknown, rest) => .error (.badSign, rest)
    | (.op text, rest) =>
      if !ops.contains text then .ok (a, cs)
      else if (token rest).1 = .unknown then .error (.badSign, rest)
      else
        match level n tighter rest with
        | .error (f, rest) =>
          if f.isOfValue && text = "||" && a ≠ 0 then levelRest n ops tighter 1 rest
          else if f.isOfValue && text = "&&" && a = 0 then levelRest n ops tighter 0 rest
          else .error (f, rest)
        | .ok (b, rest) =>
          match apply text a b with
          | .ok c => levelRest n ops tighter c rest
          | .error f => .error (f, rest)
    | _ => .ok (a, cs)
termination_by structural n => n

/-- powers, which bind to the right -/
def powers : Nat → List Char → Except (Fault × List Char) (Int × List Char)
  | 0, cs => .error (.badForm, cs)
  | n + 1, cs => do
    let (a, cs) ← unary n cs
    match token cs with
    | (.unknown, rest) => .error (.badSign, rest)
    | (.op "**", rest) =>
      if (token rest).1 = .unknown then .error (.badSign, rest)
      else
        let (b, rest) ← powers n rest
        match power a b with
        | .ok c => .ok (c, rest)
        | .error f => .error (f, rest)
    | _ => .ok (a, cs)
termination_by structural n => n

/-- an operand with signs in front -/
def unary : Nat → List Char → Except (Fault × List Char) (Int × List Char)
  | 0, cs => .error (.badForm, cs)
  | n + 1, cs =>
    match token cs with
    | (.number k, rest) => .ok (k, rest)
    | (.wrongOp, rest) => .error (.badOperator, rest)
    | (.op "(", rest) => do
      if (token rest).1 = .unknown then throw (.badSign, rest)
      let (a, rest) ← level n levels rest
      match token rest with
      | (.unknown, rest) => throw (.badSign, rest)
      | (.op ")", rest) => return (a, rest)
      | (_, rest) => throw (.openParenthesis, rest)
    | (.op text, rest) => do
      if !(["+", "-", "~", "!"].contains text) then throw (.badForm, rest)
      if (token rest).1 = .unknown then throw (.badSign, rest)
      let (a, rest) ← unary n rest
      return (match text with
        | "-" => wrap (-a)
        | "~" => -a - 1
        | "!" => truth (a = 0)
        | _ => a, rest)
    | (_, rest) => .error (.badForm, rest)
termination_by structural n => n

end

/-- the value of an expression -/
def evaluate (cs : List Char) : Except Fault Int :=
  if (token cs).1 = .unknown then .error .badSign
  else
    match level (16 * cs.length + 32) levels cs with
    | .error (f, _) => .error f
    | .ok (a, rest) =>
      match token rest with
      | (.ended, _) => .ok a
      | (.wrongOp, _) => .error .badOperator
      | _ => .error .extra

/-- a number in digits to a base, with zeros in front up to a width; in base 1 it is a row of ones -/
def written (base width : Nat) (n : Int) : List Char :=
  let digits := if base = 1 then List.replicate n.natAbs '1'
    else Nat.toDigits base n.natAbs
  let sign : List Char := if n < 0 then ['-'] else []
  sign ++ List.replicate (width - digits.length) '0' ++ digits

end PatternBuild.Shell.Tool.Unfolding.Sum

/-!
## Meanings that are built in

Some words have a meaning that is no text.  `perform` does what such a word asks for with its arguments;
the outcome is the text that it stands for.
-/

namespace PatternBuild.Shell.Tool.Unfolding

open Activity

/-- a meaning that is built in -/
structure Builtin where
  name : String
  /-- it is no part of the plain set -/
  isExtra : Bool
  /-- its arguments may be meanings that are built in too -/
  takesMeanings : Bool
  /-- a word without arguments does not stand for it -/
  needsArguments : Bool
  deriving DecidableEq, Repr

def builtins : List Builtin :=
  [⟨"__file__", true, false, false⟩, ⟨"__line__", true, false, false⟩, ⟨"__program__", true, false, false⟩,
    ⟨"builtin", true, true, true⟩, ⟨"changecom", false, false, false⟩, ⟨"changequote", false, false, false⟩,
    ⟨"debugmode", true, false, false⟩, ⟨"debugfile", true, false, false⟩, ⟨"decr", false, false, true⟩,
    ⟨"define", false, true, true⟩, ⟨"defn", false, false, true⟩, ⟨"divert", false, false, false⟩,
    ⟨"divnum", false, false, false⟩, ⟨"dnl", false, false, false⟩, ⟨"dumpdef", false, false, false⟩,
    ⟨"errprint", false, false, true⟩, ⟨"esyscmd", true, false, true⟩, ⟨"eval", false, false, true⟩,
    ⟨"format", true, false, true⟩, ⟨"ifdef", false, false, true⟩, ⟨"ifelse", false, false, true⟩,
    ⟨"include", false, false, true⟩, ⟨"incr", false, false, true⟩, ⟨"index", false, false, true⟩,
    ⟨"indir", true, true, true⟩, ⟨"len", false, false, true⟩, ⟨"m4exit", false, false, false⟩,
    ⟨"m4wrap", false, false, true⟩, ⟨"maketemp", false, false, true⟩, ⟨"mkstemp", false, false, true⟩,
    ⟨"patsubst", true, false, true⟩, ⟨"popdef", false, false, true⟩, ⟨"pushdef", false, true, true⟩,
    ⟨"regexp", true, false, true⟩, ⟨"shift", false, false, true⟩, ⟨"sinclude", false, false, true⟩,
    ⟨"substr", false, false, true⟩, ⟨"syscmd", false, false, true⟩, ⟨"sysval", false, false, false⟩,
    ⟨"traceoff", false, false, false⟩, ⟨"traceon", false, false, false⟩, ⟨"translit", false, false, true⟩,
    ⟨"undefine", false, false, true⟩, ⟨"undivert", false, false, false⟩]

def builtin? (name : String) : Option Builtin := builtins.find? (·.name = name)

/-! ### arguments -/

/-- arguments with something between them, in quotes perhaps -/
def joined (m : Marks) (separator : List Char) (isQuoted : Bool) (args : List Meaning) : List Char :=
  (args.map fun a => if isQuoted then m.quote a.content else a.content).intersperse separator |>.flatten

/-- whether there are enough arguments; too many are told of -/
def enough (name : String) (least : Nat) (most : Option Nat) (count : Nat) : Unfolder Bool := do
  if count < least then
    warn s!"too few arguments to builtin \x60{name}'"
    return false
  if most.any (· < count) then warn s!"excess arguments to builtin \x60{name}' ignored"
  return true

/-- a number from an argument -/
def number (name : String) (cs : List Char) : Unfolder (Option Int) := do
  if cs.isEmpty then
    complain s!"empty string treated as 0 in builtin \x60{name}'"
    return some 0
  let (n, rest) := leadingNumber cs
  if !rest.isEmpty then
    complain s!"non-numeric argument to builtin \x60{name}'"
    return none
  if cs.head?.any fun c => c == ' ' || ('\t' ≤ c && c ≤ '\r') then
    complain s!"leading whitespace ignored in builtin \x60{name}'"
  return some n

/-- a text with arguments in the place of their numbers -/
def filled (m : Marks) (isPlain : Bool) (args : List Meaning) : Nat → List Char → List Char
  | 0, _ => []
  | n + 1, '$' :: c :: rest =>
    let get (i : Nat) : List Char := ((args[i]?).map (·.content)).getD []
    if c.isDigit then
      let more := if isPlain then [] else rest.takeWhile Char.isDigit
      get (((String.ofList (c :: more)).toNat?).getD 0) ++ filled m isPlain args n (rest.drop more.length)
    else if c == '#' then (toString (args.length - 1)).toList ++ filled m isPlain args n rest
    else if c == '*' then joined m [','] false (args.drop 1) ++ filled m isPlain args n rest
    else if c == '@' then joined m [','] true (args.drop 1) ++ filled m isPlain args n rest
    else '$' :: filled m isPlain args n (c :: rest)
  | n + 1, c :: rest => c :: filled m isPlain args n rest
  | _, [] => []

/-! ### single meanings -/

/-- the text for the first of three arguments in a row of which two are equal -/
def chosen : List (List Char) → List Char
  | a :: b :: c :: rest =>
    if a == b then c
    else match rest with
      | [] => []
      | [d] => d
      | [d, _] => d
      | rest => chosen rest
  | _ => []

/-- set marks of quotes or comments from arguments -/
def marksFrom (usual : List Char × List Char) (none_ : List Char × List Char) : List (List Char) →
    List Char × List Char
  | [] => none_
  | [a] => (a, usual.2)
  | a :: b :: _ => (a, if !a.isEmpty && b.isEmpty then usual.2 else b)

/-- the text of a description of a word -/
def description (w : World) (name : String) (m : Meaning) : String :=
  let text := match m with
    | .text cs => if w.watching.letters.contains 'q' then w.marks.quote cs else cs
    | .builtin b => s!"<{b}>".toList
  s!"{name}:\t{String.ofList text}\n"

/-- the letters of what is told, changed as a text asks for -/
def lettersFrom? (old : List Char) (cs : List Char) : Option (List Char) :=
  let (mode, letters) := match cs with
    | '+' :: rest => ('+', rest)
    | '-' :: rest => ('-', rest)
    | rest => ('=', rest)
  let letters := if letters.isEmpty then "aeq".toList
    else letters.flatMap fun c => if c == 'V' then "aceflipqtx".toList else [c]
  if letters.any fun c => !"aceflipqtx".toList.contains c then none
  else if mode == '+' then some (old ++ letters)
  else if mode == '-' then some (old.filter fun c => !letters.contains c)
  else some letters

/-- read a file next -/
def includeFile (isSilent : Bool) (name : String) : Unfolder Unit := do
  match ← contentFrom name with
  | .ok (path, cs) =>
    modify fun w =>
      { w with feed := { w.feed with blocks := .file path 1 cs :: w.feed.blocks }, outLine := -1 }
  | .error f =>
    if !isSilent then
      complain s!"cannot open \x60{name}': {f.message}"
      modify fun w => { w with hasFailed := true }

/-- run a command of the shell -/
def runCommand (command : List Char) : Unfolder Unit := do
  let programs := (← read).programs
  discard (flush : Activity _)
  let code ← (programs.run ["/bin/sh", "-c", String.ofList command] : Activity _)
  modify fun w => { w with status := code.toOption.getD 127 }

/-- run a command of the shell; the outcome is what it prints -/
def outputOfCommand (command : List Char) : Unfolder (List Char) := do
  let programs := (← read).programs
  discard (flush : Activity _)
  let (code, cs) ← (collect do
    match ← programs.run ["/bin/sh", "-c", String.ofList command] with
    | .ok code => return code
    | .error _ => return 127 : Activity _)
  modify fun w => { w with status := code }
  return cs

/-- a new file whose name starts with a text -/
def newFile (template : List Char) : Unfolder (List Char) := do
  let ending := template.reverse.takeWhile (· == 'X')
  let start := template.take (template.length - ending.length)
  let marks := max 6 ending.length
  let name := String.ofList (start ++ nameLetters marks (← (freshNumber : Activity _)))
  match (← (disk : Activity _)).create 0o600 name with
  | .ok (d, _) =>
    (setDisk d : Activity _)
    return name.toList
  | .error f =>
    complain s!"cannot create file from template \x60{String.ofList template}': {f.message}"
    return []

/-- the text of a sum, with its base and width -/
def sumText (name : String) (args : List (List Char)) : Unfolder (List Char) := do
  let arg (i : Nat) : List Char := (args[i]?).getD []
  let base ← if (arg 1).isEmpty then pure (some 10) else number name (arg 1)
  match base with
  | none => return []
  | some base =>
    if base < 1 || 36 < base then
      complain s!"radix {base} in builtin \x60{name}' out of range"
      return []
    let width ← if args.length < 3 then pure (some 1) else number name (arg 2)
    match width with
    | none => return []
    | some width =>
      if width < 0 then
        complain s!"negative width to builtin \x60{name}'"
        return []
      if (arg 0).isEmpty then
        complain s!"empty string treated as 0 in builtin \x60{name}'"
        return Sum.written base.toNat width.toNat 0
      match Sum.evaluate (arg 0) with
      | .ok n => return Sum.written base.toNat width.toNat n
      | .error f =>
        complain s!"{f.message}: {String.ofList (arg 0)}"
        return []

/-- a text in which matches of an expression are replaced, or the place of the first match -/
def matchText (isAll : Bool) (args : List (List Char)) : Unfolder (List Char) := do
  let arg (i : Nat) : List Char := (args[i]?).getD []
  match expression (arg 1) with
  | .error f =>
    complain s!"bad regular expression \x60{String.ofList (arg 1)}': {f.message}"
    return []
  | .ok r =>
    let s : Regex.Subject := ⟨(arg 0).toArray, false, true⟩
    let (text, problems) : List Char × List String :=
      if isAll then substituted r s (arg 2) (s.text.size + 2) 0
      else
        match r.find? s true 0 with
        | none => (if args.length = 2 then "-1".toList else [], [])
        | some found =>
          if args.length = 2 then ((toString ((found.lookup 0).getD (0, 0)).1).toList, [])
          else filledIn r s found (arg 2)
    for p in problems do complain p
    return text

/-- the number of arguments that each needs at least and takes at most, where that matters to all alike -/
def bounds? : String → Option (Nat × Option Nat)
  | "__file__" => some (0, some 0)
  | "__line__" => some (0, some 0)
  | "__program__" => some (0, some 0)
  | "builtin" => some (1, none)
  | "changecom" => some (0, some 2)
  | "changequote" => some (0, some 2)
  | "debugmode" => some (0, some 1)
  | "debugfile" => some (0, some 1)
  | "decr" => some (1, some 1)
  | "define" => some (1, some 2)
  | "defn" => some (1, none)
  | "divert" => some (0, some 1)
  | "divnum" => some (0, some 0)
  | "dnl" => some (0, some 0)
  | "errprint" => some (1, none)
  | "eval" => some (1, some 3)
  | "format" => some (1, none)
  | "ifdef" => some (2, some 3)
  | "include" => some (1, some 1)
  | "incr" => some (1, some 1)
  | "indir" => some (1, none)
  | "len" => some (1, some 1)
  | "m4exit" => some (0, some 1)
  | "m4wrap" => some (1, none)
  | "maketemp" => some (1, some 1)
  | "mkstemp" => some (1, some 1)
  | "popdef" => some (1, none)
  | "pushdef" => some (1, some 2)
  | "shift" => some (1, none)
  | "sinclude" => some (1, some 1)
  | "sysval" => some (0, some 0)
  | "undefine" => some (1, none)
  | _ => none

/-- what a word that is built in gives with too few arguments -/
def shortText (name : String) (args : List (List Char)) : List Char :=
  match name, args with
  | "index", [_] => ['0']
  | "regexp", [_] => ['0']
  | "substr", [a] => a
  | "translit", a :: _ => a
  | "patsubst", a :: _ => a
  | _, _ => []

/-- the part of a text from a number on, of at most a length -/
def partText (name : String) (args : List (List Char)) : Unfolder (List Char) := do
  let cs := args.headD []
  match ← number name ((args[1]?).getD []) with
  | none => return []
  | some start =>
    let length ← match args[2]? with
      | none => pure (some (cs.length : Int))
      | some text => number name text
    match length with
    | none => return []
    | some length =>
      if start < 0 || length ≤ 0 then return []
      return (cs.drop start.toNat).take length.toNat

/-! ### kinds of work -/

/-- a word that is built in with its arguments -/
structure Call where
  /-- the word as it stands in the text -/
  name : String
  args : List Meaning

namespace Call

def texts (c : Call) : List (List Char) := c.args.map (·.content)

/-- an argument, the first having the number 0 -/
def arg (c : Call) (i : Nat) : List Char := (c.texts[i]?).getD []

def word (c : Call) (i : Nat) : String := String.ofList (c.arg i)

/-- whether there are enough arguments -/
def hasEnough (c : Call) (least : Nat) (most : Option Nat) : Unfolder Bool :=
  enough c.name least most c.args.length

end Call

/-- a number as text -/
def numeral (k : Int) : List Char := (toString k).toList

/-- a number from an argument, changed -/
def stepped (c : Call) (by_ : Int) : Unfolder (List Char) :=
  return ((← number c.name (c.arg 0)).map fun k => numeral (Sum.wrap (k + by_))).getD []

/-- work with two or three texts; with one alone there is a text for it -/
def ofTexts (builtin : String) (c : Call) (most : Nat) (work : Unfolder (List Char)) : Unfolder (List Char) := do
  if ← c.hasEnough 2 (some most) then work else return shortText builtin c.texts

/-- work that makes a text from texts -/
def textWork (c : Call) : String → Option (Unfolder (List Char))
  | "decr" => some (stepped c (-1))
  | "incr" => some (stepped c 1)
  | "eval" => some (sumText c.name c.texts)
  | "len" => some (return numeral (c.arg 0).length)
  | "shift" => some do return joined (← get).marks [','] true (c.args.drop 1)
  | "ifelse" => some do
    if c.args.length = 1 then return []
    if !(← c.hasEnough 3 none) then return []
    if c.args.length % 3 = 2 then warn s!"excess arguments to builtin \x60{c.name}' ignored"
    return chosen c.texts
  | "format" => some do
    let (text, problems) := formatted ((c.arg 0).length + 1) (c.arg 0) (c.texts.drop 1)
    for p in problems do complain p
    return text
  | "index" => some <| ofTexts "index" c 2 do
    return numeral (((placeOf? (c.arg 1) 0 (c.arg 0)).map Int.ofNat).getD (-1))
  | "substr" => some <| ofTexts "substr" c 3 (partText c.name c.texts)
  | "patsubst" => some <| ofTexts "patsubst" c 3 (matchText true c.texts)
  | "regexp" => some <| ofTexts "regexp" c 3 (matchText false c.texts)
  | "translit" => some <| ofTexts "translit" c 3 do
    let wide (cs : List Char) : List Char := spread (cs.length + 1) none cs
    return exchanged (wide (c.arg 1)) (wide (c.arg 2)) (c.arg 0)
  | _ => none

/-- give a word a meaning -/
def giveMeaning (c : Call) (isKept : Bool) : Unfolder (List Char) := do
  match c.args with
  | .text cs :: more => define isKept (String.ofList cs) (more.headD (.text []))
  | _ => complain s!"Warning: {c.name}: invalid macro name ignored"
  return []

/-- work on meanings and marks -/
def meaningWork (c : Call) : String → Option (Unfolder (List Char))
  | "define" => some (giveMeaning c false)
  | "pushdef" => some (giveMeaning c true)
  | "popdef" => some do
    for a in c.texts do undefine false (String.ofList a)
    return []
  | "undefine" => some do
    for a in c.texts do undefine true (String.ofList a)
    return []
  | "ifdef" => some do
    let isKnown := (← meaning? (c.word 0)).isSome
    return if isKnown then c.arg 1 else c.arg 2
  | "defn" => some do
    let mut text := []
    for a in c.texts do
      match ← meaning? (String.ofList a) with
      | some (.text cs) => text := text ++ (← get).marks.quote cs
      | some (.builtin b) =>
        if c.args.length ≠ 1 then complain s!"Warning: cannot concatenate builtin \x60{String.ofList a}'"
        else modify fun w => { w with feed := { w.feed with blocks := .builtin b :: w.feed.blocks } }
      | none => pure ()
    return text
  | "changecom" => some do
    let (a, b) := marksFrom ([], ['\n']) ([], []) c.texts
    modify fun w => { w with marks := { w.marks with openComment := a, closeComment := b } }
    return []
  | "changequote" => some do
    let (a, b) := marksFrom (['\x60'], ['\'']) (['\x60'], ['\'']) c.texts
    modify fun w => { w with marks := { w.marks with openQuote := a, closeQuote := b } }
    return []
  | _ => none

/-- put out what was kept apart under numbers, or files -/
def bringBackAll (name : String) : List (List Char) → Unfolder Unit
  | [] => return
  | a :: rest => do
    let (k, left) := leadingNumber a
    if a.isEmpty then pure ()
    else if left.isEmpty then bringBack k.toNat
    else if (← read).isPlain then complain s!"non-numeric argument to builtin \x60{name}'"
    else
      match ← contentFrom (String.ofList a) with
      | .ok (_, cs) => putRaw cs
      | .error f => complain s!"cannot undivert \x60{String.ofList a}': {f.message}"
    bringBackAll name rest

/-- tell the meanings of words -/
def tellMeanings (c : Call) : Unfolder Unit := do
  let w ← get
  let names := if c.args.isEmpty then w.meanings.toList.map (·.1) else c.texts.map String.ofList
  for name in names do
    if !w.meanings.contains name then complain s!"undefined macro \x60{name}'"
  for name in names.mergeSort fun a b => decide (a ≤ b) do
    if let some m := (w.meanings[name]?).bind List.head? then watch (description w name m)

/-- where is told what happens to watched words -/
def watchTarget (c : Call) : Unfolder (Option Nat) := do
  if c.args.isEmpty then return some 2
  if (c.arg 0).isEmpty then return none
  match ← (openToWrite (c.word 0) true : Activity _) with
  | .ok fd => return some fd
  | .error f =>
    complain s!"cannot set debug file \x60{c.word 0}': {f.message}"
    return (← get).watching.target

/-- work on the output -/
def outputWork (c : Call) : String → Option (Unfolder (List Char))
  | "__file__" => some do return (← get).marks.quote (← get).feed.origin.toList
  | "__line__" => some do return numeral (← get).feed.line
  | "__program__" => some do return (← get).marks.quote "m4".toList
  | "divert" => some do
    let target ← if c.args.isEmpty then pure (some 0) else number c.name (c.arg 0)
    if let some target := target then modify fun w => { w with target }
    return []
  | "divnum" => some do return numeral (← get).target
  | "undivert" => some do
    if c.args.isEmpty then bringAllBack else bringBackAll c.name c.texts
    return []
  | "dnl" => some do
    skipLine endless
    return []
  | "errprint" => some do
    discard (flush : Activity _)
    (tell (String.ofList (joined (← get).marks [' '] false c.args)) : Activity _)
    return []
  | "dumpdef" => some do
    tellMeanings c
    return []
  | "debugmode" => some do
    let old := (← get).watching.letters
    match if c.args.isEmpty then some [] else lettersFrom? old (c.arg 0) with
    | some letters => modify fun w => { w with watching := { w.watching with letters } }
    | none => complain s!"Debugmode: bad debug flags: \x60{c.word 0}'"
    return []
  | "debugfile" => some do
    let target ← watchTarget c
    modify fun w => { w with watching := { w.watching with target } }
    return []
  | "traceon" => some do
    let known := (← get).meanings.toList.map (·.1)
    let words := if c.args.isEmpty then known else c.texts.map String.ofList
    modify fun w => { w with watching := { w.watching with words := words ++ w.watching.words } }
    return []
  | "traceoff" => some do
    let words := c.texts.map String.ofList
    modify fun w => { w with watching := { w.watching with
      words := if c.args.isEmpty then [] else w.watching.words.filter fun x => !words.contains x } }
    return []
  | _ => none

/-- the code to end with -/
def endCode (c : Call) : Unfolder Nat := do
  let code ← if c.args.isEmpty then pure (some 0) else number c.name (c.arg 0)
  let code : Int := code.getD 1
  if code < 0 || 255 < code then
    complain s!"exit status out of range: \x60{code}'"
    return 1
  let hasFailed := (← get).hasFailed
  return if code = 0 && hasFailed then 1 else code.toNat

/-- work with files and commands -/
def systemWork (c : Call) : String → Option (Unfolder (List Char))
  | "esyscmd" => some do
    if !(← c.hasEnough 1 (some 1)) || (c.arg 0).isEmpty then
      modify fun w => { w with status := 0 }
      return []
    outputOfCommand (c.arg 0)
  | "syscmd" => some do
    if !(← c.hasEnough 1 (some 1)) || (c.arg 0).isEmpty then
      modify fun w => { w with status := 0 }
      return []
    runCommand (c.arg 0)
    return []
  | "sysval" => some do return numeral (← get).status
  | "include" => some do
    includeFile false (c.word 0)
    return []
  | "sinclude" => some do
    includeFile true (c.word 0)
    return []
  | "maketemp" => some do
    warn "recommend using mkstemp instead"
    return (← get).marks.quote (← newFile (c.arg 0))
  | "mkstemp" => some do
    let path ← newFile (c.arg 0)
    let marks := (← get).marks
    return if path.isEmpty then [] else marks.quote path
  | "m4exit" => some do
    let code ← endCode c
    throw code
  | "m4wrap" => some do
    let w ← get
    let text := if (← read).isPlain then c.arg 0 else joined w.marks [' '] false c.args
    set { w with wrapped := .text w.feed.origin w.feed.line text :: w.wrapped }
    return []
  | _ => none

/-- do what a word that is built in asks for; a word can ask for another -/
def perform : Nat → String → Call → Unfolder (List Char)
  | 0, _, _ => return []
  | n + 1, builtin, c => do
    if let some (least, most) := bounds? builtin then
      if !(← c.hasEnough least most) then return []
    let inner (b : Builtin) (more : List Meaning) : List Meaning :=
      if b.takesMeanings then more else more.map fun a => .text a.content
    match c.args, builtin with
    | .text cs :: more, "builtin" =>
      let name := String.ofList cs
      let isPlain := (← read).isPlain
      match (builtin? name).filter fun b => !(b.isExtra && isPlain) with
      | some b => perform n b.name ⟨name, inner b more⟩
      | none =>
        complain s!"undefined builtin \x60{name}'"
        return []
    | .text cs :: more, "indir" =>
      let name := String.ofList cs
      match ← meaning? name with
      | some (.text body) =>
        return filled (← get).marks (← read).isPlain (.text cs :: more) (body.length + 1) body
      | some (.builtin other) =>
        match builtin? other with
        | some b => perform n other ⟨name, inner b more⟩
        | none => return []
      | none =>
        complain s!"undefined macro \x60{name}'"
        return []
    | _, _ =>
      match textWork c builtin <|> meaningWork c builtin <|> outputWork c builtin <|> systemWork c builtin with
      | some work => work
      | none =>
        complain s!"Warning: {c.name}: invalid macro name ignored"
        return []

end PatternBuild.Shell.Tool.Unfolding
