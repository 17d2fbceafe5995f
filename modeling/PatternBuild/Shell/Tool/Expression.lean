import PatternBuild.Shell.Regex
import PatternBuild.Shell.Tool.Quantity

/-!
# Expressions: what `expr` computes

The arguments are the tokens of an expression over texts and whole numbers.  Both sides of `|` and
`&` are read in any case, but computed only if they count, so that faults in the other one are not
seen.
-/

namespace PatternBuild.Shell.Tool.Expression

open Activity

/-- why an expression has no value -/
inductive Problem where
  | missing
  | missingAfter (text : String)
  | unexpected (text : String)
  | expectedCloser (text : String)
  | closerInstead (text : String)
  | noWhole
  | byZero
  | badPattern (fault : RegexFault)
  deriving DecidableEq, Repr

def Problem.message : Problem → String
  | .missing => "missing operand"
  | .missingAfter text => s!"syntax error: missing argument after {cited text}"
  | .unexpected text => s!"syntax error: unexpected argument {cited text}"
  | .expectedCloser text => s!"syntax error: expecting ')' after {cited text}"
  | .closerInstead text => s!"syntax error: expecting ')' instead of {quoted text}"
  | .noWhole => "non-integer argument"
  | .byZero => "division by zero"
  | .badPattern fault => fault.message

/-- the whole number that a text writes -/
def whole? (text : String) : Option Int :=
  match text.toList with
  | '-' :: cs => if cs.all Char.isDigit then (numeral? 10 cs).map fun n => -(n : Int) else none
  | cs => if cs.all Char.isDigit then (numeral? 10 cs).map Int.ofNat else none

/-- whether a value counts as false -/
def isNull (text : String) : Bool :=
  text = "" || (whole? text).any (· = 0)

/-- match a text against an expression from its start: the text of the first group, or the number of
characters -/
def matched (text pattern : String) : Except Problem String :=
  match Regex.read .basic pattern.toList with
  | .error fault => .error (.badPattern fault)
  | .ok r =>
    let s := Regex.subject false text.toList
    match r.matchAt? s true 0 with
    | some found =>
      if 0 < r.groupCount then .ok (String.ofList (Regex.groupText s found 1))
      else .ok (toString (((found.lookup 0).map (·.2)).getD 0))
    | none => .ok (if 0 < r.groupCount then "" else "0")

/-- a part of a text, counted from 1 -/
def substring (text : String) (start length : Int) : String :=
  if start ≤ 0 ∨ length ≤ 0 then ""
  else String.ofList ((text.toList.drop (start.toNat - 1)).take length.toNat)

/-- the place of the first character of a text that is one of some -/
def indexOf (text chars : String) : Nat :=
  match text.toList.findIdx? chars.toList.contains with
  | some i => i + 1
  | none => 0

/-- the operators of two sides, by how strongly they bind -/
def operators : List (List String) :=
  [["|"], ["&"], ["<", "<=", "=", "==", "!=", ">=", ">"], ["+", "-"], ["*", "/", "%"], [":"]]

def truth (b : Bool) : String := if b then "1" else "0"

/-- apply an operator -/
def apply (op a b : String) : Except Problem String := do
  let arithmetic (f : Int → Int → Except Problem Int) : Except Problem String :=
    match whole? a, whole? b with
    | some m, some n => (f m n).map toString
    | _, _ => .error .noWhole
  let order : Ordering := match whole? a, whole? b with
    | some m, some n => compare m n
    | _, _ => if a < b then .lt else if a = b then .eq else .gt
  match op with
  | "|" => return if isNull a then (if isNull b then "0" else b) else a
  | "&" => return if isNull a || isNull b then "0" else a
  | "<" => return truth (order == .lt)
  | "<=" => return truth (order != .gt)
  | "=" => return truth (order == .eq)
  | "==" => return truth (order == .eq)
  | "!=" => return truth (order != .eq)
  | ">=" => return truth (order != .lt)
  | ">" => return truth (order == .gt)
  | "+" => arithmetic fun m n => .ok (m + n)
  | "-" => arithmetic fun m n => .ok (m - n)
  | "*" => arithmetic fun m n => .ok (m * n)
  | "/" => arithmetic fun m n => if n = 0 then .error .byZero else .ok (m.tdiv n)
  | "%" => arithmetic fun m n => if n = 0 then .error .byZero else .ok (m.tmod n)
  | _ => matched a b

/-- the tokens that were read, the latest first, and those that are left -/
structure Tokens where
  last : String
  rest : List String

abbrev Reader := Nat → Tokens → Bool → Except Problem (String × Tokens)

mutual

/-- read and compute operators of at least a strength; nothing is computed unless `counts` holds -/
def level (ops : List (List String)) : Reader
  | 0, _, _ => .error .missing
  | n + 1, t, counts =>
    match ops with
    | [] => operand n t counts
    | names :: tighter => do
      let (a, t) ← level tighter n t counts
      chain names tighter a n t counts

/-- read the rest of a chain of operators of one strength -/
def chain (names : List String) (tighter : List (List String)) (a : String) : Reader
  | 0, _, _ => .error .missing
  | n + 1, t, counts =>
    match t.rest with
    | op :: rest =>
      if names.contains op then do
        let isDecided := if op = "|" then !isNull a else if op = "&" then isNull a else false
        let (b, t) ← level tighter n ⟨op, rest⟩ (counts && !isDecided)
        let value ← if !counts then .ok ""
          else if isDecided then .ok (if op = "|" then a else "0") else apply op a b
        chain names tighter value n t counts
      else .ok (a, t)
    | [] => .ok (a, t)

/-- read a value, a function or an expression in parentheses -/
def operand : Reader
  | 0, _, _ => .error .missing
  | n + 1, t, counts =>
    match t.rest with
    | [] => .error (.missingAfter t.last)
    | "(" :: rest => do
      let (a, t) ← level operators n ⟨"(", rest⟩ counts
      match t.rest with
      | ")" :: rest => return (a, ⟨")", rest⟩)
      | [] => throw (.expectedCloser t.last)
      | other :: _ => throw (.closerInstead other)
    | ")" :: _ => .error (.unexpected ")")
    | "+" :: text :: rest => .ok (text, ⟨text, rest⟩)
    | "+" :: [] => .error (.missingAfter "+")
    | "length" :: rest => do
      let (a, t) ← operand n ⟨"length", rest⟩ counts
      return (toString a.length, t)
    | "match" :: rest => do
      let (a, t) ← operand n ⟨"match", rest⟩ counts
      let (b, t) ← operand n t counts
      return (← if counts then matched a b else .ok "", t)
    | "index" :: rest => do
      let (a, t) ← operand n ⟨"index", rest⟩ counts
      let (b, t) ← operand n t counts
      return (toString (indexOf a b), t)
    | "substr" :: rest => do
      let (a, t) ← operand n ⟨"substr", rest⟩ counts
      let (start, t) ← operand n t counts
      let (length, t) ← operand n t counts
      match whole? start, whole? length with
      | some i, some k => return (substring a i k, t)
      | _, _ => return ("", t)
    | text :: rest => .ok (text, ⟨text, rest⟩)

end

/-- the value of an expression -/
def value (args : List String) : Except Problem String := do
  if args.isEmpty then throw .missing
  let (a, t) ← level operators (16 * args.length + 32) ⟨"", args⟩ true
  match t.rest with
  | [] => return a
  | extra :: _ => throw (.unexpected extra)

end Expression

open Activity

def expr (args : List String) : Activity Nat := do
  let args := match args with
    | "--" :: rest => rest
    | args => args
  match Expression.value args with
  | .ok text =>
    Tool.say (text ++ "\n")
    return if Expression.isNull text then 1 else 0
  | .error .missing => misuse "expr" Expression.Problem.missing.message 2
  | .error p => refuse "expr" p.message 2

end PatternBuild.Shell.Tool
