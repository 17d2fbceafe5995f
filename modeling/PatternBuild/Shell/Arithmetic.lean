import PatternBuild.Shell.Escape
import PatternBuild.Shell.Script

/-!
# Arithmetic

Expressions and their values, their tokens, and how they are read.
-/

/-!
## Expressions: what arithmetic computes

Values are integers of 64 bits that wrap around.  `Expr.value` computes an expression over cells,
which are variables and elements of arrays.  An expression that cannot be read to its end breaks off
in `broken`, so that everything in front of the fault takes effect before the fault is told.
-/

namespace PatternBuild.Shell

/-- what is wrong with an expression -/
inductive ArithmeticProblem where
  /-- no value stands where one is needed -/
  | noPrimary
  /-- something follows the end -/
  | noEnd
  /-- something is no operator -/
  | noOperator
  /-- a parenthesis is not closed -/
  | noClosing
  /-- there is nothing else than the value for a test that holds -/
  | noColon
  | noChoice
  /-- something else than a variable is to be changed -/
  | noVariable
  | noPlace (isUp : Bool)
  | badSubscript
  | divisionByZero
  | negativeExponent
  /-- a number with a digit that its base lacks -/
  | tooGreat
  | badBase
  | badNumber
  | badConstant
  | tooDeep
  deriving DecidableEq, Repr

/-- a problem in the language with extensions -/
def ArithmeticProblem.wideMessage : ArithmeticProblem → String
  | .noPrimary => "syntax error: operand expected"
  | .noEnd => "syntax error in expression"
  | .noOperator => "syntax error: invalid arithmetic operator"
  | .noClosing => "missing \x60)'"
  | .noColon => "\x60:' expected for conditional expression"
  | .noChoice => "expression expected"
  | .noVariable => "attempted assignment to non-variable"
  | .noPlace isUp => (if isUp then "++" else "--") ++ ": assignment requires lvalue"
  | .badSubscript => "bad array subscript"
  | .divisionByZero => "division by 0"
  | .negativeExponent => "exponent less than 0"
  | .tooGreat => "value too great for base"
  | .badBase => "invalid arithmetic base"
  | .badNumber => "invalid number"
  | .badConstant => "invalid integer constant"
  | .tooDeep => "expression recursion level exceeded"

/-- a problem in the plain language -/
def ArithmeticProblem.plainMessage : ArithmeticProblem → String
  | .noPrimary => "expecting primary"
  | .noClosing => "expecting ')'"
  | .noColon => "expecting ':'"
  | .divisionByZero => "division by zero"
  | _ => "expecting EOF"

/-- a problem, with the expression that is shown and the part of it where the problem was seen -/
structure ArithmeticFault where
  problem : ArithmeticProblem
  shown : List Char
  token : List Char
  deriving DecidableEq, Repr

/-- a fault as it is told -/
def ArithmeticFault.message (f : ArithmeticFault) (extended : Bool) : String :=
  if extended then
    let shown := String.ofList (f.shown.dropWhile fun c => c == ' ' || c == '\t')
    let token := String.ofList f.token
    let what := f.problem.wideMessage
    s!"{shown}: {what} (error token is \"{token}\")"
  else
    let shown := String.ofList f.shown
    let what := f.problem.plainMessage
    s!"arithmetic expression: {what}: \"{shown}\""

inductive UnaryOp where
  | plus | minus | not | complement
  deriving DecidableEq, Repr

inductive BinaryOp where
  | mul | div | rem | add | sub | shl | shr | lt | le | gt | ge | eq | ne | band | bxor | bor | pow
  deriving DecidableEq, Repr

/-- a variable, or the element of an array that a subscript names -/
structure Cell where
  name : String
  subscript : Option String
  deriving DecidableEq, Repr

/-- an arithmetic expression; faults of operators are told with an expression and a part of it -/
inductive Expr where
  | number (value : Int64)
  | cell (c : Cell)
  | unary (op : UnaryOp) (operand : Expr)
  | binary (op : BinaryOp) (shown token : List Char) (left right : Expr)
  | conjunction (left right : Expr)
  | disjunction (left right : Expr)
  | conditional (test yes no : Expr)
  /-- the value goes into a cell -/
  | assign (c : Cell) (value : Expr)
  /-- the value, combined with the old one, goes into a cell -/
  | change (c : Cell) (op : BinaryOp) (shown token : List Char) (value : Expr)
  /-- one is added or taken away; the value is the new one, or else the old one -/
  | step (c : Cell) (isUp isNew : Bool)
  /-- the first is computed, too -/
  | following (first second : Expr)
  /-- what follows cannot be read -/
  | broken (fault : ArithmeticFault)
  deriving DecidableEq, Repr

namespace Expr

def truth (b : Bool) : Int64 := if b then 1 else 0

/-- a power, by repeated multiplication of squares -/
def power (a : Int64) : Nat → Int64
  | 0 => 1
  | n + 1 =>
    let half := power (a * a) ((n + 1) / 2)
    if (n + 1) % 2 = 0 then half else half * a
termination_by n => n

def applyBinary (op : BinaryOp) (a b : Int64) : Except ArithmeticProblem Int64 :=
  match op with
  | .mul => .ok (a * b)
  | .div => if b = 0 then .error .divisionByZero else .ok (a / b)
  | .rem => if b = 0 then .error .divisionByZero else .ok (a % b)
  | .add => .ok (a + b)
  | .sub => .ok (a - b)
  | .shl => .ok (a <<< b)
  | .shr => .ok (a >>> b)
  | .lt => .ok (truth (a < b))
  | .le => .ok (truth (a ≤ b))
  | .gt => .ok (truth (b < a))
  | .ge => .ok (truth (b ≤ a))
  | .eq => .ok (truth (a = b))
  | .ne => .ok (truth (a ≠ b))
  | .band => .ok (a &&& b)
  | .bxor => .ok (a ^^^ b)
  | .bor => .ok (a ||| b)
  | .pow => if b < 0 then .error .negativeExponent else .ok (power a b.toInt.toNat)

def applyUnary (op : UnaryOp) (a : Int64) : Int64 :=
  match op with
  | .plus => a
  | .minus => -a
  | .not => truth (a = 0)
  | .complement => ~~~a

/-- where the values of cells are -/
structure Cells (m : Type → Type) where
  /-- cells that are changed are read after the new value has been computed -/
  readsLate : Bool
  read : Cell → m Int64
  write : Cell → Int64 → m Unit
  refuse : ArithmeticFault → m Int64

/-- the value of an expression over cells; parts that do not count are gone through without reading
or changing cells, so that only what cannot be read there is told -/
def value {m : Type → Type} [Monad m] (cells : Cells m) : Bool → Expr → m Int64
  | _, .number v => pure v
  | counts, .cell c => if counts then cells.read c else pure 0
  | counts, .unary op e => do return applyUnary op (← value cells counts e)
  | counts, .binary op shown token a b => do
    let x ← value cells counts a
    let y ← value cells counts b
    match applyBinary op x y with
    | .ok v => return v
    | .error p =>
      if !counts && p = .divisionByZero then return 0
      cells.refuse ⟨p, shown, token⟩
  | counts, .conjunction a b => do
    if (← value cells counts a) = 0 then
      discard (value cells false b)
      return 0
    else return truth ((← value cells counts b) ≠ 0)
  | counts, .disjunction a b => do
    if (← value cells counts a) ≠ 0 then
      discard (value cells false b)
      return 1
    else return truth ((← value cells counts b) ≠ 0)
  | counts, .conditional test yes no => do
    let holds := (← value cells counts test) ≠ 0
    let x ← value cells (counts && holds) yes
    let y ← value cells (counts && !holds) no
    return if holds then x else y
  | counts, .assign c e => do
    let new ← value cells counts e
    if counts then cells.write c new
    return new
  | counts, .change c op shown token e => do
    let early ← if counts && !cells.readsLate then cells.read c else pure 0
    let y ← value cells counts e
    if !counts then return y
    let old ← if cells.readsLate then cells.read c else pure early
    match applyBinary op old y with
    | .ok v =>
      cells.write c v
      return v
    | .error p => cells.refuse ⟨p, shown, token⟩
  | counts, .step c isUp isNew => do
    if !counts then return 0
    let old ← cells.read c
    let new := if isUp then old + 1 else old - 1
    cells.write c new
    return if isNew then new else old
  | counts, .following a b => do
    discard (value cells counts a)
    value cells counts b
  | _, .broken fault => cells.refuse fault

end Expr

end PatternBuild.Shell

/-!
## Tokens of expressions

A token comes with the text from there on, by which faults are told.  A token that cannot be read is
the last one.
-/

namespace PatternBuild.Shell

/-! ### numbers -/

/-- a number as scripts write it: decimal, octal after `0` or hexadecimal after `0x` -/
def literal? : List Char → Option Nat
  | '0' :: 'x' :: cs => numeral? 16 cs
  | '0' :: 'X' :: cs => numeral? 16 cs
  | '0' :: cs => if cs.isEmpty then some 0 else numeral? 8 cs
  | cs => numeral? 10 cs

/-- the largest and smallest values stand for what lies beyond them -/
def saturate (n : Int) : Int64 :=
  if n > Int64.maxValue.toInt then Int64.maxValue
  else if n < Int64.minValue.toInt then Int64.minValue
  else Int64.ofInt n

/-- the number in a variable; blanks around it and a sign are allowed -/
def signedLiteral? (text : String) : Option Int64 :=
  let isSpace (c : Char) : Bool := c == ' ' || c == '\t' || c == '\n'
  let cs := ((text.toList.dropWhile isSpace).reverse.dropWhile isSpace).reverse
  match cs with
  | [] => some 0
  | '-' :: cs => (literal? cs).map fun n => saturate (-(n : Int))
  | '+' :: cs => (literal? cs).map fun n => saturate n
  | cs => (literal? cs).map fun n => saturate n

/-- the number at the front of a text that starts with a digit, and what follows it -/
def plainNumber (cs : List Char) : Nat × List Char :=
  let taken (base : Nat) (isDigit : Char → Bool) (cs : List Char) : Nat × List Char :=
    let digits := cs.takeWhile isDigit
    ((numeral? base digits).getD 0, cs.drop digits.length)
  let hex (rest : List Char) : Nat × List Char :=
    if rest.head?.any isHexDigit then taken 16 isHexDigit rest else (0, cs.drop 1)
  match cs with
  | '0' :: 'x' :: rest => hex rest
  | '0' :: 'X' :: rest => hex rest
  | '0' :: _ => taken 8 isOctal cs
  | cs => taken 10 Char.isDigit cs

/-- whether a character can stand in a number of the language with extensions after its first digit -/
def isNumberChar (c : Char) : Bool := c.isAlphanum || c == '#' || c == '@' || c == '_'

/-- the value of a digit in bases up to 64 -/
def wideDigit (base : Nat) (c : Char) : Nat :=
  if c.isDigit then c.toNat - 48
  else if c.isLower then c.toNat - 87
  else if c.isUpper then (if base ≤ 36 then c.toNat - 55 else c.toNat - 29)
  else if c == '@' then 62 else 63

/-- go on with a number in a base, which may have been told already -/
def wideNumberFrom (base : Nat) (isTold : Bool) (n : Nat) : List Char → Except ArithmeticProblem Nat
  | [] => .ok n
  | '#' :: cs =>
    if isTold then .error .badNumber
    else if n < 2 || 64 < n then .error .badBase
    else if !cs.head?.any (fun c => c ≠ '#' && isNumberChar c) then .error .badConstant
    else wideNumberFrom n true 0 cs
  | c :: cs =>
    let d := wideDigit base c
    if base ≤ d then .error .tooGreat else wideNumberFrom base isTold (n * base + d) cs

/-- a number of the language with extensions: a base may stand in front -/
def wideNumber : List Char → Except ArithmeticProblem Nat
  | '0' :: 'x' :: cs => wideNumberFrom 16 true 0 cs
  | '0' :: 'X' :: cs => wideNumberFrom 16 true 0 cs
  | ['0'] => .ok 0
  | '0' :: cs => wideNumberFrom 8 true 0 cs
  | cs => wideNumberFrom 10 false 0 cs

/-! ### tokens -/

inductive ArithmeticToken where
  | number (value : Int64)
  | cell (c : Cell)
  | symbol (text : String)
  /-- one is added or taken away, in front of a cell or behind it -/
  | stepBefore (isUp : Bool)
  | stepAfter (isUp : Bool)
  | bad (fault : ArithmeticFault)
  deriving DecidableEq, Repr

/-- the symbols of expressions, longer ones first -/
def symbols : List String :=
  ["<<=", ">>=", "<<", ">>", "<=", ">=", "==", "!=", "&&", "||", "*=", "/=", "%=", "+=", "-=",
    "&=", "^=", "|=", "*", "/", "%", "+", "-", "<", ">", "&", "^", "|", "!", "~", "?", ":", "=",
    "(", ")"]

/-- the symbols of the language with extensions -/
def moreSymbols : List String := ["<<=", ">>=", "**"] ++ symbols ++ [","]

/-- the text of a subscript, and what follows its closing bracket -/
def takeSubscript : Nat → List Char → Option (List Char × List Char)
  | _, [] => none
  | 0, ']' :: cs => some ([], cs)
  | depth + 1, ']' :: cs => (takeSubscript depth cs).map fun (t, rest) => (']' :: t, rest)
  | depth, '[' :: cs => (takeSubscript (depth + 1) cs).map fun (t, rest) => ('[' :: t, rest)
  | depth, c :: cs => (takeSubscript depth cs).map fun (t, rest) => (c :: t, rest)

def isArithmeticSpace (c : Char) : Bool := c == ' ' || c == '\t' || c == '\n'

/-- tokens, each with the text from there on -/
abbrev ArithmeticTokens := List (ArithmeticToken × List Char)

/-- at most `n` tokens of the plain language -/
def plainTokens : Nat → List Char → ArithmeticTokens
  | 0, _ => []
  | n + 1, cs =>
    match cs with
    | [] => []
    | c :: rest =>
      if isArithmeticSpace c then plainTokens n rest
      else if c.isDigit then
        let (v, after) := plainNumber cs
        (.number (saturate v), cs) :: plainTokens n after
      else if isNameStart c then
        let run := cs.takeWhile isNameChar
        (.cell ⟨String.ofList run, none⟩, cs) :: plainTokens n (cs.drop run.length)
      else
        match symbols.find? (fun s => s.toList.isPrefixOf cs) with
        | some s => (.symbol s, cs) :: plainTokens n (cs.drop s.length)
        | none => [(.symbol "", cs)]

/-- what stands in front of a token -/
inductive ArithmeticPlace where
  /-- nothing, or something that a value can follow -/
  | start
  | value
  | cell
  /-- a cell that is to be changed by one -/
  | stepped
  /-- an operator that changes the cell behind it by one -/
  | step
  deriving DecidableEq, Repr

/-- at most `n` tokens of the language with extensions, where `text` is the whole expression -/
def wideTokens (text : List Char) : Nat → ArithmeticPlace → List Char → ArithmeticTokens
  | 0, _, _ => []
  | n + 1, place, cs =>
    let bad (problem : ArithmeticProblem) : ArithmeticTokens := [(.bad ⟨problem, text, cs⟩, cs)]
    let step (isUp : Bool) (rest : List Char) : ArithmeticTokens :=
      let single : ArithmeticTokens :=
        (.symbol (if isUp then "+" else "-"), cs) :: wideTokens text n .start (cs.drop 1)
      match place with
      | .cell => (.stepAfter isUp, cs) :: wideTokens text n .value rest
      | .stepped => bad (.noPlace isUp)
      | _ =>
        if (rest.dropWhile isArithmeticSpace).head?.any isNameStart then
          (.stepBefore isUp, cs) :: wideTokens text n .step rest
        else single
    match cs with
    | [] => []
    | '+' :: '+' :: rest => step true rest
    | '-' :: '-' :: rest => step false rest
    | c :: rest =>
      if isArithmeticSpace c then wideTokens text n place rest
      else if c.isDigit then
        let run := cs.takeWhile isNumberChar
        let after := cs.drop run.length
        match wideNumber run with
        | .ok v => (.number (Int64.ofInt v), cs) :: wideTokens text n .value after
        | .error p =>
          -- the expression is shown up to the end of the number
          [(.bad ⟨p, text.take (text.length - after.length), run⟩, cs)]
      else if isNameStart c then
        let run := cs.takeWhile isNameChar
        let name := String.ofList run
        let next := if place = .step then ArithmeticPlace.stepped else .cell
        match cs.drop run.length with
        | '[' :: inside =>
          match takeSubscript 0 inside with
          | some (subscript, after) =>
            (.cell ⟨name, some (String.ofList subscript)⟩, cs) :: wideTokens text n next after
          | none => bad .badSubscript
        | after => (.cell ⟨name, none⟩, cs) :: wideTokens text n next after
      else
        match moreSymbols.find? (fun s => s.toList.isPrefixOf cs) with
        | some s => (.symbol s, cs) :: wideTokens text n .start (cs.drop s.length)
        | none =>
          bad (if place = .start || place = .step then .noPrimary else .noOperator)

end PatternBuild.Shell

/-!
## Arithmetic: the expressions of scripts

`Expr.read` reads an expression by the strength of its operators.  Reading never fails: where a text
is no expression any more, the expression breaks off.  The language with extensions has more
operators and more ways to write numbers.
-/

namespace PatternBuild.Shell

/-- the strength of a binary operator, with what it does; faults are told with the expression and a part of it -/
def binaryOp? : String → Option (Nat × (List Char → List Char → Expr → Expr → Expr))
  | "**" => some (11, .binary .pow)
  | "*" => some (10, .binary .mul)
  | "/" => some (10, .binary .div)
  | "%" => some (10, .binary .rem)
  | "+" => some (9, .binary .add)
  | "-" => some (9, .binary .sub)
  | "<<" => some (8, .binary .shl)
  | ">>" => some (8, .binary .shr)
  | "<" => some (7, .binary .lt)
  | "<=" => some (7, .binary .le)
  | ">" => some (7, .binary .gt)
  | ">=" => some (7, .binary .ge)
  | "==" => some (6, .binary .eq)
  | "!=" => some (6, .binary .ne)
  | "&" => some (5, .binary .band)
  | "^" => some (4, .binary .bxor)
  | "|" => some (3, .binary .bor)
  | "&&" => some (2, fun _ _ => .conjunction)
  | "||" => some (1, fun _ _ => .disjunction)
  | _ => none

def assignOp? : String → Option (Option BinaryOp)
  | "=" => some none
  | "*=" => some (some .mul)
  | "/=" => some (some .div)
  | "%=" => some (some .rem)
  | "+=" => some (some .add)
  | "-=" => some (some .sub)
  | "<<=" => some (some .shl)
  | ">>=" => some (some .shr)
  | "&=" => some (some .band)
  | "^=" => some (some .bxor)
  | "|=" => some (some .bor)
  | _ => none

def unaryOp? : String → Option UnaryOp
  | "+" => some .plus
  | "-" => some .minus
  | "!" => some .not
  | "~" => some .complement
  | _ => none

/-- a text whose expression is read -/
structure ExprText where
  extended : Bool
  text : List Char
  /-- the text from the last token on -/
  last : List Char

namespace Expr

/-- an expression, and what follows it unless it breaks off -/
abbrev Parsed := Expr × Option ArithmeticTokens

/-- go on behind an expression, unless it breaks off -/
def Parsed.andThen (p : Parsed) (f : Expr → ArithmeticTokens → Parsed) : Parsed :=
  match p with
  | (e, some rest) => f e rest
  | stopped => stopped

/-- an expression of which another one is a part that is computed last -/
def Parsed.within (p : Parsed) (build : Expr → Expr) : Parsed := (build p.1, p.2)

/-- the text from the first of some tokens on, or else from the last one of all -/
def tokenText (x : ExprText) (rest : ArithmeticTokens) : List Char := (rest.head?.map (·.2)).getD x.last

/-- an expression breaks off in front of some tokens -/
def stopped (x : ExprText) (p : ArithmeticProblem) (rest : ArithmeticTokens) : Expr :=
  match rest with
  | (.bad fault, _) :: _ => .broken fault
  | rest => .broken ⟨p, x.text, tokenText x rest⟩

/-- an expression whose last token has been read; if no token follows that can be read, this is seen
at once -/
def closed (e : Expr) (rest : ArithmeticTokens) : Parsed :=
  match rest with
  | (.bad fault, _) :: _ => (.following e (.broken fault), none)
  | rest => (e, some rest)

mutual

/-- expressions between commas -/
def readAll (x : ExprText) : Nat → ArithmeticTokens → Parsed
  | 0, ts => (stopped x .noPrimary ts, none)
  | n + 1, ts => (readAssign x n ts).andThen fun e ts =>
    match ts with
    | (.symbol ",", _) :: ts => (readAll x n ts).within (.following e)
    | _ => (e, some ts)
termination_by structural n => n

/-- an expression with assignments -/
def readAssign (x : ExprText) : Nat → ArithmeticTokens → Parsed
  | 0, ts => (stopped x .noPrimary ts, none)
  | n + 1, ts =>
    let conditional : Parsed := (readConditional x n ts).andThen fun e ts =>
      match x.extended, ts with
      | true, (.symbol s, _) :: _ =>
        if (assignOp? s).isSome then (.following e (stopped x .noVariable ts), none) else (e, some ts)
      | _, ts => (e, some ts)
    match ts with
    | (.cell c, _) :: (.symbol s, _) :: more =>
      match assignOp? s with
      | some op =>
        let (e, rest) := readAssign x n more
        let built := match op with
          | none => .assign c e
          | some op => .change c op x.text (tokenText x (rest.getD [])) e
        (built, rest)
      | none => conditional
    | _ => conditional
termination_by structural n => n

/-- an expression with a choice between two values -/
def readConditional (x : ExprText) : Nat → ArithmeticTokens → Parsed
  | 0, ts => (stopped x .noPrimary ts, none)
  | n + 1, ts => (readBinary x 1 n ts).andThen fun test ts =>
    match ts with
    | (.symbol "?", _) :: ts =>
      let yes : Parsed := if !x.extended then readAssign x n ts else
        match ts with
        | [] => (stopped x .noChoice ts, none)
        | (.symbol ":", _) :: _ => (stopped x .noChoice ts, none)
        | _ => readAll x n ts
      let nothing : Expr := .number 0
      match yes with
      | (yes, none) => (.conditional test yes nothing, none)
      | (yes, some ts) =>
        match ts with
        | [(.symbol ":", _)] =>
          let problem : ArithmeticProblem := if x.extended then .noChoice else .noPrimary
          (.conditional test yes (stopped x problem []), none)
        | (.symbol ":", _) :: ts => (readConditional x n ts).within (.conditional test yes)
        | ts => (.conditional test (.following yes (stopped x .noColon ts)) nothing, none)
    | _ => (test, some ts)
termination_by structural n => n

/-- an expression whose operators are at least as strong as given -/
def readBinary (x : ExprText) (strength : Nat) : Nat → ArithmeticTokens → Parsed
  | 0, ts => (stopped x .noPrimary ts, none)
  | n + 1, ts => (readUnary x n ts).andThen fun left ts => readMore x strength left n ts
termination_by structural n => n

/-- what follows a left operand -/
def readMore (x : ExprText) (strength : Nat) (left : Expr) : Nat → ArithmeticTokens → Parsed
  | 0, ts => (stopped x .noPrimary ts, none)
  | n + 1, ts =>
    match ts with
    | (.symbol s, _) :: more =>
      if !x.extended && s = "**" then (left, some ts) else
      match binaryOp? s with
      | some (k, build) =>
        if k < strength then (left, some ts)
        else
          -- powers group to the right
          let (right, rest) := readBinary x (if s = "**" then k else k + 1) n more
          let token := if s = "**" then tokenText x (rest.getD []) else (more.head?.map (·.2)).getD []
          let e := build x.text token left right
          match rest with
          | some rest => readMore x strength e n rest
          | none => (e, none)
      | none => (left, some ts)
    | _ => (left, some ts)
termination_by structural n => n

def readUnary (x : ExprText) : Nat → ArithmeticTokens → Parsed
  | 0, ts => (stopped x .noPrimary ts, none)
  | n + 1, ts =>
    match ts with
    | (.number v, _) :: ts => closed (.number v) ts
    | (.cell c, _) :: (.stepAfter isUp, _) :: ts => closed (.step c isUp false) ts
    | (.cell c, _) :: ts => closed (.cell c) ts
    | (.stepBefore isUp, _) :: (.cell c, _) :: ts => closed (.step c isUp true) ts
    | (.symbol "(", _) :: ts =>
      (if x.extended then readAll x n ts else readAssign x n ts).andThen fun e ts =>
        match ts with
        | (.symbol ")", _) :: ts => closed e ts
        | _ => (.following e (stopped x .noClosing ts), none)
    | (.symbol s, _) :: more =>
      match unaryOp? s with
      | some op => (readUnary x n more).within (.unary op)
      | none => (stopped x .noPrimary ts, none)
    | ts => (stopped x .noPrimary ts, none)
termination_by structural n => n

end

/-- the expression that a text writes; in the language with extensions blanks alone are zero -/
def read (extended : Bool) (text : String) : Expr :=
  let cs := text.toList
  let tokens := if extended then wideTokens cs (cs.length + 1) .start cs else plainTokens (cs.length + 1) cs
  if extended && tokens.isEmpty then .number 0
  else
    let x : ExprText := ⟨extended, cs, (tokens.getLast?.map (·.2)).getD []⟩
    let parsed := if extended then readAll x (6 * tokens.length + 12) tokens
      else readAssign x (6 * tokens.length + 12) tokens
    match parsed with
    | (e, none) => e
    | (e, some []) => e
    | (e, some rest) => .following e (stopped x .noEnd rest)

end Expr

end PatternBuild.Shell
