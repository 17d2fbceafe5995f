import PatternBuild.Shell.Decimal
import PatternBuild.Shell.Regex

/-!
# The language for records and its readers

What programs for records are made of, the tokens in which they are written, and how tokens are taken
from the front.
-/

/-!
## The language for records

A program of this language says what is done for the records of its input: every rule has a condition
and an action, and some actions are done before the first record or after the last one.
-/

namespace PatternBuild.Shell.Records

/-! ### expressions -/

/-- the regular expression that a text writes; an empty one matches everywhere -/
def readRegex (text : List Char) : Except RegexFault Regex :=
  if text.isEmpty then .ok .empty else Regex.read .records text

/-- the complaint about a text that is no regular expression -/
def regexComplaint (text : List Char) (fault : RegexFault) : String :=
  let reason := match fault with
    | .openParenthesis => "missing ')'"
    | .openBracket => "bad class -- [], [^] or ["
    | .missingOperand => "missing operand"
    | fault => fault.message
  "regular expression compile failed (" ++ reason ++ ")\n" ++ String.ofList text

/-! ### terms -/

/-- where an array is found -/
inductive ArrayRef where
  /-- it belongs to the whole program -/
  | shared (name : String)
  /-- it is a parameter of the function that runs -/
  | slot (index : Nat)
  deriving DecidableEq, Repr

/-- operations on two numbers -/
inductive Operation where
  | add
  | subtract
  | multiply
  | divide
  | remainder
  | power
  deriving DecidableEq, Repr

/-- relations between two values -/
inductive Relation where
  | equal
  | different
  | less
  | atMost
  | greater
  | atLeast
  deriving DecidableEq, Repr

/-- where a line is read -/
inductive LineSource where
  /-- the input of the program -/
  | records
  | file
  | command
  deriving DecidableEq, Repr

/-- the functions of the language -/
inductive Builtin where
  | arcTangent
  | close
  | cosine
  | exponential
  | flush
  | replaceAll
  | replaceFirst
  | index
  | whole
  | length
  | logarithm
  | match
  | timeOf
  | random
  | sine
  | split
  | formatted
  | squareRoot
  | seed
  | timeText
  | part
  | system
  | time
  | lower
  | upper
  deriving DecidableEq, Repr

/-- what has a value -/
inductive Term where
  | number (x : Float)
  | text (cs : List Char)
  /-- whether the record matches an expression; as an operand, the expression itself -/
  | regex (r : Regex)
  | variable (name : String)
  /-- a parameter of the function that runs -/
  | slot (index : Nat)
  /-- the number of fields -/
  | fieldCount
  | field (index : Term)
  | element (array : ArrayRef) (index : List Term)
  | assign (place value : Term)
  | update (op : Operation) (place value : Term)
  /-- add a number to a place; the value is the one before or after that -/
  | step (amount : Float) (isBefore : Bool) (place : Term)
  | compute (op : Operation) (a b : Term)
  | negative (a : Term)
  | positive (a : Term)
  | not (a : Term)
  | compare (r : Relation) (a b : Term)
  | matches (negated : Bool) (a b : Term)
  | both (a b : Term)
  | either (a b : Term)
  | choose (condition a b : Term)
  | join (a b : Term)
  | member (index : List Term) (array : ArrayRef)
  | call (name : String) (args : List Term)
  | builtin (f : Builtin) (args : List Term)
  /-- an array as an argument -/
  | array (a : ArrayRef)
  /-- a term in parentheses -/
  | grouped (a : Term)
  | readLine (kind : LineSource) (source target : Option Term)
  deriving Inhabited

/-- whether a term is a place that values are assigned to -/
def Term.isPlace : Term → Bool
  | .variable _ => true
  | .slot _ => true
  | .fieldCount => true
  | .field _ => true
  | .element _ _ => true
  | _ => false

/-! ### actions -/

/-- where output goes -/
inductive OutputKind where
  | file
  | append
  | pipe
  deriving DecidableEq, Repr

/-- what is done -/
inductive Act where
  | term (t : Term)
  | print (args : List Term) (target : Option (OutputKind × Term))
  | printFormatted (args : List Term) (target : Option (OutputKind × Term))
  | choose (condition : Term) (first second : List Act)
  | while (condition : Term) (body : List Act)
  | doWhile (body : List Act) (condition : Term)
  | for (first : List Act) (condition : Option Term) (next : List Act) (body : List Act)
  | forKeys (place : Term) (array : ArrayRef) (body : List Act)
  | block (body : List Act)
  | next
  | nextFile
  | exit (code : Option Term)
  | return (value : Option Term)
  | leave
  | goOn
  | delete (array : ArrayRef) (index : List Term)
  | clear (array : ArrayRef)
  deriving Inhabited

/-- when the action of a rule is done -/
inductive Condition where
  | always
  | holds (t : Term)
  /-- from a record on up to another one -/
  | between (first last : Term)
  deriving Inhabited

/-- what a parameter or a name stands for -/
inductive NameKind where
  | unknown
  | value
  | array
  deriving DecidableEq, Repr

structure Function where
  parameters : List (String × NameKind)
  body : List Act

/-- a program -/
structure Program where
  begins : List (List Act)
  rules : List (Condition × List Act)
  ends : List (List Act)
  functions : List (String × Function)
  /-- the names that stand for arrays -/
  arrays : List String

/-- whether a program reads its input -/
def Program.readsRecords (p : Program) : Bool := !p.rules.isEmpty || !p.ends.isEmpty

end PatternBuild.Shell.Records

/-!
## Tokens of the language for records

`scan` splits the text of a program into tokens.  A slash divides behind a value and starts an
expression elsewhere; a sign for greater, or a bar, directs output behind `print`, except in
parentheses.
-/

namespace PatternBuild.Shell.Records

inductive Token where
  | newline
  | sign (text : String)
  | number (x : Float)
  | text (cs : List Char)
  | regex (source : List Char)
  | name (text : String)
  /-- the name of a function -/
  | called (text : String)
  | builtin (text : String)
  | keyword (text : String)
  /-- output goes elsewhere -/
  | output (kind : OutputKind)
  /-- text that is no token, and what is wrong with it -/
  | broken (message : String)
  | ending
  deriving BEq

/-- a token as complaints show it -/
def Token.shown : Token → String
  | .newline => "end of line"
  | .sign word => word
  | .number _ => "number"
  | .text cs => "\"" ++ String.ofList cs ++ "\""
  | .regex cs => "/" ++ String.ofList cs ++ "/"
  | .name word => word
  | .called word => word
  | .builtin word => word
  | .keyword word => word
  | .output .file => ">"
  | .output .append => ">>"
  | .output .pipe => "|"
  | .broken message => message
  | .ending => "end of file"

/-! ### words -/

def keywords : List String :=
  ["BEGIN", "END", "break", "continue", "delete", "do", "else", "exit", "for", "function", "getline",
    "if", "in", "next", "nextfile", "print", "printf", "return", "while"]

/-- the functions of the language by their names -/
def builtinNames : List (String × Builtin) :=
  [("atan2", .arcTangent), ("close", .close), ("cos", .cosine), ("exp", .exponential),
    ("fflush", .flush), ("gsub", .replaceAll), ("index", .index), ("int", .whole),
    ("length", .length), ("log", .logarithm), ("match", .match), ("mktime", .timeOf),
    ("rand", .random), ("sin", .sine), ("split", .split), ("sprintf", .formatted),
    ("sqrt", .squareRoot), ("srand", .seed), ("strftime", .timeText), ("sub", .replaceFirst),
    ("substr", .part), ("system", .system), ("systime", .time), ("tolower", .lower),
    ("toupper", .upper)]

def isNameStart (c : Char) : Bool := c.isAlpha || c == '_'

def isNameChar (c : Char) : Bool := c.isAlphanum || c == '_'

/-! ### texts -/

/-- the text that a quoted one stands for; a backslash in front of a character without a meaning
stays -/
def unescaped : Nat → List Char → List Char
  | 0, _ => []
  | n + 1, cs =>
    match cs with
    | '\\' :: '"' :: cs => '"' :: unescaped n cs
    | '\\' :: '\\' :: cs => '\\' :: unescaped n cs
    | '\\' :: c :: cs =>
      match if c == 'o' || c == 'd' then none else Regex.letter? (c :: cs) with
      | some (x, rest) => x :: unescaped n rest
      | none =>
        if c == 'b' then '\x08' :: unescaped n cs
        else match octalEscape? .threeDigits (c :: cs) with
          | some (x, rest) => x :: unescaped n rest
          | none => '\\' :: c :: unescaped n cs
    | c :: cs => c :: unescaped n cs
    | [] => []

/-- a text with its escapes -/
def plainText (cs : List Char) : List Char := unescaped (cs.length + 1) cs

/-- the inside of a quoted text, what follows it and the number of lines that it goes on for; none if
it has no end -/
def quotedPart : List Char → List Char → Nat → Option (List Char × List Char × Nat)
  | '"' :: cs, seen, lines => some (seen.reverse, cs, lines)
  | '\\' :: '\n' :: cs, seen, lines => quotedPart cs seen (lines + 1)
  | '\\' :: c :: cs, seen, lines => quotedPart cs (c :: '\\' :: seen) lines
  | '\n' :: _, _, _ => none
  | c :: cs, seen, lines => quotedPart cs (c :: seen) lines
  | [], _, _ => none

/-- where the reader of an expression stands -/
inductive InBrackets where
  | outside
  /-- a closing bracket right at the start is a member -/
  | inside (isFirst : Bool)
  | inClass
  deriving DecidableEq, Repr

/-- the inside of an expression between slashes, and what follows it; none if it has no end -/
def regexPart : InBrackets → List Char → List Char → Option (List Char × List Char)
  | _, [], _ => none
  | _, '\n' :: _, _ => none
  | .outside, '/' :: cs, seen => some (seen.reverse, cs)
  | .outside, '\\' :: '/' :: cs, seen => regexPart .outside cs ('/' :: seen)
  | .outside, '\\' :: c :: cs, seen => regexPart .outside cs (c :: '\\' :: seen)
  | .outside, '[' :: '^' :: cs, seen => regexPart (.inside true) cs ('^' :: '[' :: seen)
  | .outside, '[' :: cs, seen => regexPart (.inside true) cs ('[' :: seen)
  | .inside _, '\\' :: '/' :: cs, seen => regexPart (.inside false) cs ('/' :: seen)
  | .inside _, '\\' :: c :: cs, seen => regexPart (.inside false) cs (c :: '\\' :: seen)
  | .inside true, ']' :: cs, seen => regexPart (.inside false) cs (']' :: seen)
  | .inside false, ']' :: cs, seen => regexPart .outside cs (']' :: seen)
  | .inside _, '[' :: ':' :: cs, seen => regexPart .inClass cs (':' :: '[' :: seen)
  | .inside _, c :: cs, seen => regexPart (.inside false) cs (c :: seen)
  | .inClass, ':' :: ']' :: cs, seen => regexPart (.inside false) cs (']' :: ':' :: seen)
  | .inClass, c :: cs, seen => regexPart .inClass cs (c :: seen)
  | .outside, c :: cs, seen => regexPart .outside cs (c :: seen)

/-! ### scanning -/

/-- where a scan stands -/
structure Scan where
  line : Nat
  /-- the token in front -/
  last : Token
  /-- parentheses that are open -/
  depth : Nat
  /-- `print` was read, and nothing that ends what is printed -/
  isPrinting : Bool
  /-- functions that were defined so far -/
  functions : List String

def Scan.start : Scan := ⟨1, .newline, 0, false, []⟩

/-- whether a slash behind a token divides -/
def Token.endsValue : Token → Bool
  | .number _ => true
  | .text _ => true
  | .name _ => true
  | .sign word => [")", "]", "++", "--", "$"].contains word
  | _ => false

/-- signs of more than one character -/
def longSigns : List String :=
  ["&&", "||", "==", "!=", "!~", "<=", ">=", "++", "--", "+=", "-=", "*=", "/=", "%=", "^="]

/-- signs of one character -/
def shortSigns : List Char := "\x7b\x7d()[];,+-*/%^!<>~?:=$|".toList

/-- the sign at the front of a text, and what follows it -/
def sign? (cs : List Char) : Option (String × List Char) :=
  match longSigns.find? fun word => word.toList.isPrefixOf cs with
  | some word => some (word, cs.drop word.length)
  | none => match cs with
    | c :: rest => if shortSigns.contains c then some (c.toString, rest) else none
    | [] => none

/-- the start of a text, as complaints about texts without an end show it -/
def firstPart (cs : List Char) : String :=
  String.ofList ((cs.takeWhile (· ≠ '\n')).take 10) ++ " ..."

/-- the least number that is kept with all its digits -/
def leastNumber : Float := (Floating.finite false 1 (-1022)).toFloat

/-- the next token behind blanks, with what follows it -/
def scanOne (s : Scan) (cs : List Char) : Token × List Char × Scan :=
  match cs with
  | [] => (.ending, [], s)
  | '\n' :: rest => (.newline, rest, { s with line := s.line + 1, isPrinting := false })
  | '"' :: rest =>
    match quotedPart rest [] 0 with
    | some (text, rest, lines) => (.text (plainText text), rest, { s with line := s.line + lines })
    | none => (.broken ("runaway string constant \"" ++ firstPart rest), [], s)
  | c :: rest =>
    if c.isDigit || (c == '.' && rest.head?.any Char.isDigit) then
      match Floating.decimal? cs with
      | some (n, e, rest) =>
        let x := (Floating.round 53 false (.scaled n 10 e)).toFloat
        let text := String.ofList (cs.take (cs.length - rest.length))
        if x.isInf then (.broken (text ++ " : decimal overflow"), [], s)
        else if x < leastNumber && n ≠ 0 then
          (.broken (text ++ (if x == 0 then " : decimal underflow" else " : decimal overflow")), [], s)
        else (.number x, rest, s)
      | none => (.broken "number", [], s)
    else if isNameStart c then
      let word := String.ofList (cs.takeWhile isNameChar)
      let rest := cs.drop word.length
      if keywords.contains word then
        let prints := word = "print" || word = "printf"
        (.keyword word, rest, { s with isPrinting := if prints then s.depth = 0 else s.isPrinting })
      else if (builtinNames.lookup word).isSome then (.builtin word, rest, s)
      else if s.last == .keyword "function" then
        (.called word, rest, { s with functions := word :: s.functions })
      else if rest.head? == some '(' || s.functions.contains word then (.called word, rest, s)
      else (.name word, rest, s)
    else if c == '/' && !s.last.endsValue then
      match regexPart .outside rest [] with
      | some (source, rest) => (.regex source, rest, s)
      | none => (.broken ("runaway regular expression /" ++ firstPart rest), [], s)
    else
      let directs := s.isPrinting && s.depth = 0
      match c, rest with
      | '>', '>' :: more => if directs then (.output .append, more, { s with isPrinting := false })
        else (.sign ">", rest, s)
      | _, _ =>
        match sign? cs with
        | none => (.broken s!"unexpected character '{c}'", [], s)
        | some (">", rest) => if directs then (.output .file, rest, { s with isPrinting := false })
          else (.sign ">", rest, s)
        | some (">=", more) =>
          if directs then (.output .file, rest, { s with isPrinting := false })
          else (.sign ">=", more, s)
        | some ("|", rest) => if directs then (.output .pipe, rest, { s with isPrinting := false })
          else (.sign "|", rest, s)
        | some ("(", rest) => (.sign "(", rest, { s with depth := s.depth + 1 })
        | some (")", rest) => (.sign ")", rest, { s with depth := s.depth - 1 })
        | some (text, rest) =>
          let ends := text = ";" || text = "\x7d"
          (.sign text, rest, { s with isPrinting := s.isPrinting && !ends })

/-- a text without the blanks and the comment in front -/
def skipBlanks : List Char → Nat → List Char × Nat
  | '\\' :: '\n' :: cs, line => skipBlanks cs (line + 1)
  | '\\' :: '\r' :: '\n' :: cs, line => skipBlanks cs (line + 1)
  | c :: cs, line =>
    if c == ' ' || c == '\t' || c == '\r' || c == '\x0b' || c == '\x0c' then skipBlanks cs line
    else if c == '#' then ((c :: cs).dropWhile (· ≠ '\n'), line)
    else (c :: cs, line)
  | [], line => ([], line)

/-- at most `n` tokens of a text, each with its line -/
def scanUpTo : Nat → Scan → List Char → List (Token × Nat)
  | 0, s, _ => [(.ending, s.line)]
  | n + 1, s, cs =>
    let (cs, line) := skipBlanks cs s.line
    let s := { s with line }
    let (token, rest, s') := scanOne s cs
    match token with
    | .ending => [(.ending, s.line)]
    | .broken message => [(.broken message, s.line)]
    | token => (token, s.line) :: scanUpTo n { s' with last := token } rest

/-- the tokens of a program -/
def scan (cs : List Char) : List (Token × Nat) := scanUpTo (cs.length + 1) .start cs

end PatternBuild.Shell.Records

/-!
## Readers of programs for records

A reader takes tokens from the front and notes what names stand for: a name stands for an array from
the first place on where it is used as one.
-/

namespace PatternBuild.Shell.Records

/-! ### the reader -/

/-- a name as an argument of a call -/
structure Passing where
  callee : String
  index : Nat
  /-- the function that calls, if the name is one of its parameters -/
  caller : Option String
  name : String
  line : Nat

/-- where a reader stands -/
structure Reading where
  tokens : List (Token × Nat)
  /-- the line of the last token -/
  line : Nat
  /-- parentheses and braces that are open -/
  parentheses : Nat
  braces : Nat
  /-- the function that is read, with its parameters -/
  function : Option String
  parameters : List (String × NameKind)
  /-- names of the whole program -/
  names : List (String × NameKind)
  /-- calls so far: the function, the number of its arguments and the line -/
  calls : List (String × Nat × Nat)
  passed : List Passing
  /-- loops around the action that is read -/
  loops : Nat
  /-- whether the action is done for records -/
  hasRecord : Bool

/-- a reader of some part of a program; it stops at the first fault, which it tells -/
abbrev Reader := StateT Reading (Except String)

namespace Reader

/-- stop with a complaint -/
def fail {α : Type} (message : String) : Reader α := throw message

/-- stop with a complaint about a line -/
def failAt {α : Type} (message : String) : Reader α := do
  let s ← get
  fail s!"line {s.line}: {message}"

def peek : Reader Token := do return ((← get).tokens.head?.map (·.1)).getD .ending

/-- the token after the next one -/
def peekSecond : Reader Token := do return (((← get).tokens.drop 1).head?.map (·.1)).getD .ending

def advance : Reader Token := do
  let s ← get
  match s.tokens with
  | (token, line) :: rest =>
    let parentheses := match token with
      | .sign "(" => s.parentheses + 1
      | .sign ")" => s.parentheses - 1
      | _ => s.parentheses
    let braces := match token with
      | .sign "\x7b" => s.braces + 1
      | .sign "\x7d" => s.braces - 1
      | _ => s.braces
    set { s with tokens := rest, line, parentheses, braces }
    return token
  | [] => return .ending

/-- stop because the next token cannot stand here -/
def unexpected {α : Type} : Reader α := do
  let token ← peek
  let s ← get
  let line := (s.tokens.head?.map (·.2)).getD s.line
  let closes := token == .sign ";" || token == .sign "\x7d" || token == .newline || token == .ending
  let last := if token == .ending then line + 1 else line
  match token with
  | .broken message =>
    if message.startsWith "unexpected" then fail s!"{line}: {message}"
    else fail s!"line {line}: {message}"
  | token =>
    let shown := token.shown
    if closes && 0 < s.parentheses then fail s!"line {last}: missing ) near {shown}"
    else if token == .ending && 0 < s.braces then fail s!"line {last}: missing \x7d near {shown}"
    else if token == .sign ")" && s.parentheses = 0 then fail s!"line {line}: extra ')'"
    else if token == .sign "\x7d" && s.braces = 0 then fail s!"line {line}: extra '\x7d'"
    else fail s!"line {last}: syntax error at or near {shown}"

/-- whether the next token is a sign -/
def isNext (word : String) : Reader Bool := do return (← peek) == .sign word

/-- take a sign, which must come next -/
def expect (word : String) : Reader Unit := do
  if ← isNext word then discard advance else unexpected

/-- take a sign if it comes next -/
def takes (word : String) : Reader Bool := do
  if ← isNext word then
    discard advance
    return true
  return false

/-- pass line ends -/
def skipLines : Reader Unit := do
  let s ← get
  let blank := s.tokens.takeWhile (·.1 == .newline)
  set { s with tokens := s.tokens.drop blank.length }

/-! ### names -/

/-- note what a name stands for -/
def noteKind (name : String) (kind : NameKind) (known : List (String × NameKind)) :
    List (String × NameKind) :=
  if known.any (·.1 = name) then
    known.map fun (n, k) => if n = name && k = .unknown then (n, kind) else (n, k)
  else (name, kind) :: known

/-- what a name stands for here, given how it is used -/
def useName (name : String) (kind : NameKind) : Reader (Option Nat) := do
  let s ← get
  let check (known : NameKind) : Reader Unit := do
    if known = .array && kind = .value then failAt s!"illegal reference to array {name}"
    if known = .value && kind = .array then failAt s!"illegal reference to variable {name}"
  match s.parameters.findIdx? (·.1 = name) with
  | some i =>
    check ((s.parameters.lookup name).getD .unknown)
    modify fun s => { s with parameters := noteKind name kind s.parameters }
    return some i
  | none =>
    check ((s.names.lookup name).getD .unknown)
    modify fun s => { s with names := noteKind name kind s.names }
    return none

/-- the term of a name that stands for a value -/
def valueNamed (name : String) : Reader Term := do
  match ← useName name .value with
  | some i => return .slot i
  | none => return if name = "NF" then .fieldCount else .variable name

/-- the array of a name -/
def arrayNamed (name : String) : Reader ArrayRef := do
  match ← useName name .array with
  | some i => return .slot i
  | none => return .shared name

/-- a name as an argument, of which nothing is known -/
def argumentNamed (name : String) : Reader Term := do
  let s ← get
  match s.parameters.findIdx? (·.1 = name) with
  | some i => return if s.parameters.lookup name = some .array then .array (.slot i) else .slot i
  | none =>
    if name = "NF" then return .fieldCount
    if s.names.lookup name = some .array then return .array (.shared name)
    modify fun s => { s with names := noteKind name .unknown s.names }
    return .variable name

/-- the name that an argument consists of -/
def bareName? (t : Term) : Reader (Option String) := do
  match t with
  | .variable name => return some name
  | .slot i => return ((← get).parameters[i]?).map (·.1)
  | .array (.shared name) => return some name
  | .array (.slot i) => return ((← get).parameters[i]?).map (·.1)
  | _ => return none

/-- note the names among the arguments of a call, which may stand for arrays -/
def notePassed (callee : String) (args : List Term) : Reader Unit := do
  for (a, index) in args.zipIdx do
    match ← bareName? a with
    | none => pure ()
    | some name =>
      modify fun s =>
        let caller := if s.parameters.any (·.1 = name) then s.function else none
        { s with passed := ⟨callee, index, caller, name, s.line⟩ :: s.passed }

/-- the expression of a text -/
def regexOf (source : List Char) : Reader Regex := do
  match readRegex source with
  | .ok r => return r
  | .error fault => failAt (regexComplaint source fault)

end Reader

end PatternBuild.Shell.Records
