import PatternBuild.Shell.Tool.Records.Reader

/-!
# From tokens to programs for records

Terms are read by the strength of their operators, and rules and actions around them.
-/

/-!
## Reading terms of programs for records

Terms that stand side by side are joined; such a chain binds more weakly than sums and more strongly
than comparisons.  Only the operand of a comparison, or of something weaker, can be assigned to.
-/

namespace PatternBuild.Shell.Records.Reader

/-! ### operators -/

/-- operators of two operands with their strength; those of one strength are applied from the left -/
def binary? : Token → Option (Nat × (Term → Term → Term))
  | .sign "||" => some (1, .either)
  | .sign "&&" => some (2, .both)
  | .sign "~" => some (4, .matches false)
  | .sign "!~" => some (4, .matches true)
  | .sign "==" => some (5, .compare .equal)
  | .sign "!=" => some (5, .compare .different)
  | .sign "<" => some (5, .compare .less)
  | .sign "<=" => some (5, .compare .atMost)
  | .sign ">" => some (5, .compare .greater)
  | .sign ">=" => some (5, .compare .atLeast)
  | .sign "+" => some (7, .compute .add)
  | .sign "-" => some (7, .compute .subtract)
  | .sign "*" => some (8, .compute .multiply)
  | .sign "/" => some (8, .compute .divide)
  | .sign "%" => some (8, .compute .remainder)
  | _ => none

/-- the strength of `in`, of matching and of standing side by side -/
def memberLevel : Nat := 3
def matchLevel : Nat := 4
def joinLevel : Nat := 6

/-- whether a term may start with a token when it stands behind another one -/
def startsJoined : Token → Bool
  | .number _ => true
  | .text _ => true
  | .regex _ => true
  | .name _ => true
  | .called _ => true
  | .builtin _ => true
  | .sign word => ["$", "!", "(", "++", "--"].contains word
  | .keyword "getline" => true
  | _ => false

/-- the operation of an assignment; the plain one has none -/
def assignment? : Token → Option (Option Operation)
  | .sign "=" => some none
  | .sign "+=" => some (some .add)
  | .sign "-=" => some (some .subtract)
  | .sign "*=" => some (some .multiply)
  | .sign "/=" => some (some .divide)
  | .sign "%=" => some (some .remainder)
  | .sign "^=" => some (some .power)
  | _ => none

/-- the numbers of arguments that a function takes -/
def argumentBounds : Builtin → Nat × Nat
  | .arcTangent => (2, 2)
  | .close => (1, 1)
  | .cosine => (1, 1)
  | .exponential => (1, 1)
  | .flush => (0, 1)
  | .replaceAll => (2, 3)
  | .index => (2, 2)
  | .whole => (1, 1)
  | .length => (0, 1)
  | .logarithm => (1, 1)
  | .match => (2, 2)
  | .timeOf => (1, 1)
  | .random => (0, 0)
  | .sine => (1, 1)
  | .split => (2, 3)
  | .formatted => (1, 1000)
  | .squareRoot => (1, 1)
  | .seed => (0, 1)
  | .timeText => (0, 3)
  | .replaceFirst => (2, 3)
  | .part => (2, 3)
  | .system => (1, 1)
  | .time => (0, 0)
  | .lower => (1, 1)
  | .upper => (1, 1)

/-- a term that is matched against; a text that is written out is a regular expression -/
def asRegex (t : Term) : Reader Term := do
  match t with
  | .text cs => return .regex (← regexOf cs)
  | t => return t

/-- a term that is assigned to -/
def asPlace (t : Term) : Reader Term := do
  if t.isPlace then return t else unexpected

/-- an argument of a function of the language, names being what it wants -/
def builtinArgument (f : Builtin) (index : Nat) (a : Term) : Reader Term := do
  match ← bareName? a with
  | none => return a
  | some name =>
    if f = .split && index = 1 then return Term.array (← arrayNamed name)
    else if f = .length then return a
    else valueNamed name

/-- the call of a function of the language -/
def builtinCall (name : String) (f : Builtin) (args : List Term) : Reader Term := do
  let (least, most) := argumentBounds f
  if args.length < least || most < args.length then
    failAt s!"wrong number of arguments in call to {name}"
  let args : List Term ← args.zipIdx.mapM fun (a, index) => builtinArgument f index a
  match f, args with
  | .split, _ :: .array _ :: _ => return .builtin f args
  | .split, _ => unexpected
  | .match, [a, b] => return .builtin f [a, ← asRegex b]
  | .replaceFirst, a :: b :: rest => return .builtin f ((← asRegex a) :: b :: (← rest.mapM asPlace))
  | .replaceAll, a :: b :: rest => return .builtin f ((← asRegex a) :: b :: (← rest.mapM asPlace))
  | _, args => return .builtin f args

/-! ### terms -/

mutual

/-- a term; inside a list that `in` ends, `in` is no operator -/
def term : Nat → Reader Term
  | 0 => failAt "program too long"
  | n + 1 => do
    let a ← operators n 1
    if !(← takes "?") then return a
    skipLines
    let b ← term n
    skipLines
    expect ":"
    skipLines
    let c ← term n
    return .choose a b c
termination_by structural n => n

/-- operands with operators that are at least so strong between them -/
def operators : Nat → Nat → Reader Term
  | 0, _ => failAt "program too long"
  | n + 1, level => do
    let first ← operand n level
    rest n level first
termination_by structural n => n

/-- what follows an operand: operators that are at least so strong, and assignments -/
def rest : Nat → Nat → Term → Reader Term
  | 0, _, _ => failAt "program too long"
  | n + 1, level, a => do
    let token ← peek
    match binary? token with
    | some (strength, f) =>
      if strength < level then return a
      discard advance
      if strength ≤ 2 then skipLines
      let b ← operators n (strength + 1)
      let b ← if strength = matchLevel then asRegex b else pure b
      rest n level (f a b)
    | none =>
      if token == .keyword "in" then
        if memberLevel < level then return a
        discard advance
        match ← advance with
        | .name name => rest n level (.member [a] (← arrayNamed name))
        | _ => unexpected
      else if startsJoined token && level ≤ joinLevel then
        let b ← operators n (joinLevel + 1)
        rest n level (.join a b)
      else return a
termination_by structural n => n

/-- an operand: a place that is assigned to, or something with a value -/
def operand : Nat → Nat → Reader Term
  | 0, _ => failAt "program too long"
  | n + 1, level => do
    let a ← signed n
    if a.isPlace && level ≤ joinLevel then
      match assignment? (← peek) with
      | some op =>
        discard advance
        skipLines
        let value ← term n
        match op with
        | none => return .assign a value
        | some op => return .update op a value
      | none => return a
    return a
termination_by structural n => n

/-- an operand with signs in front -/
def signed : Nat → Reader Term
  | 0 => failAt "program too long"
  | n + 1 => do
    match ← peek with
    | .sign "!" =>
      discard advance
      return .not (← signed n)
    | .sign "-" =>
      discard advance
      return .negative (← signed n)
    | .sign "+" =>
      discard advance
      return .positive (← signed n)
    | _ => piped n (← power n)
termination_by structural n => n

/-- the lines of a command that a term gives -/
def piped : Nat → Term → Reader Term
  | 0, _ => failAt "program too long"
  | n + 1, a => do
    if (← isNext "|") && (← peekSecond) == .keyword "getline" then
      discard advance
      discard advance
      let target ← place? n
      piped n (.readLine .command (some a) target)
    else return a
termination_by structural n => n

/-- an operand with its power -/
def power : Nat → Reader Term
  | 0 => failAt "program too long"
  | n + 1 => do
    let a ← stepped n
    if ← takes "^" then
      let b ← match ← peek with
        | .sign "-" => do
          discard advance
          pure (Term.negative (← power n))
        | .sign "+" => do
          discard advance
          pure (Term.positive (← power n))
        | .sign "!" => do
          discard advance
          pure (Term.not (← power n))
        | _ => power n
      return .compute .power a b
    return a
termination_by structural n => n

/-- an operand that is counted up or down -/
def stepped : Nat → Reader Term
  | 0 => failAt "program too long"
  | n + 1 => do
    let token ← peek
    if token == .sign "++" || token == .sign "--" then
      discard advance
      let a ← primary n
      if !a.isPlace then unexpected
      return .step (if token == .sign "++" then 1 else -1) true a
    let a ← primary n
    if a.isPlace then
      if ← takes "++" then return .step 1 false a
      if ← takes "--" then return .step (-1) false a
    return a
termination_by structural n => n

/-- a place behind `getline`, if there is one -/
def place? : Nat → Reader (Option Term)
  | 0 => failAt "program too long"
  | n + 1 => do
    match ← peek with
    | .name _ => some <$> primary n
    | .sign "$" => some <$> primary n
    | _ => return none
termination_by structural n => n

/-- an operand without operators -/
def primary : Nat → Reader Term
  | 0 => failAt "program too long"
  | n + 1 => do
    match ← peek with
    | .number x =>
      discard advance
      return .number x
    | .text cs =>
      discard advance
      return .text cs
    | .regex source =>
      discard advance
      return .regex (← regexOf source)
    | .name name =>
      discard advance
      if ← isNext "[" then
        let array ← arrayNamed name
        discard advance
        return .element array (← terms n "]")
      valueNamed name
    | .called name =>
      discard advance
      expect "("
      let args ← arguments n
      notePassed name args
      modify fun s => { s with calls := (name, args.length, s.line) :: s.calls }
      return .call name args
    | .builtin name =>
      discard advance
      let f := (builtinNames.lookup name).getD .length
      if f = .length && !(← isNext "(") then return .builtin .length []
      expect "("
      builtinCall name f (← arguments n)
    | .keyword "getline" =>
      discard advance
      let target ← place? n
      if ← takes "<" then
        return .readLine .file (some (← power n)) target
      return .readLine .records none target
    | .sign "$" =>
      discard advance
      let token ← peek
      let index ← if token == .sign "-" then do
          discard advance
          pure (Term.negative (← fieldIndex n))
        else fieldIndex n
      return .field index
    | .sign "(" =>
      discard advance
      let a ← term n
      if ← isNext "," then
        let more ← termsFrom n ")"
        discard advance
        match ← advance with
        | .name name => return .member (a :: more) (← arrayNamed name)
        | _ => unexpected
      expect ")"
      match a with
      | .field _ => return a
      | a => return .grouped a
    | _ => unexpected
termination_by structural n => n

/-- the number of a field: an operand that may be counted up in front -/
def fieldIndex : Nat → Reader Term
  | 0 => failAt "program too long"
  | n + 1 => do
    let token ← peek
    if token == .sign "++" || token == .sign "--" then
      discard advance
      let a ← primary n
      if !a.isPlace then unexpected
      return .step (if token == .sign "++" then 1 else -1) true a
    primary n
termination_by structural n => n

/-- terms up to a closing sign, with commas between them -/
def terms : Nat → String → Reader (List Term)
  | 0, _ => failAt "program too long"
  | n + 1, closer => do
    let a ← term n
    return a :: (← termsFrom n closer)
termination_by structural n => n

/-- the rest of terms up to a closing sign, each behind a comma -/
def termsFrom : Nat → String → Reader (List Term)
  | 0, _ => failAt "program too long"
  | n + 1, closer => do
    if ← takes "," then
      skipLines
      let a ← term n
      return a :: (← termsFrom n closer)
    expect closer
    return []
termination_by structural n => n

/-- the arguments of a call, from behind its opening parenthesis -/
def arguments : Nat → Reader (List Term)
  | 0 => failAt "program too long"
  | n + 1 => do
    if ← takes ")" then return []
    let a ← argument n
    if ← takes "," then
      skipLines
      if ← isNext ")" then unexpected
      return a :: (← arguments n)
    expect ")"
    return [a]
termination_by structural n => n

/-- an argument, which may be an array -/
def argument : Nat → Reader Term
  | 0 => failAt "program too long"
  | n + 1 => do
    match ← peek, ← peekSecond with
    | .name name, .sign "," =>
      discard advance
      argumentNamed name
    | .name name, .sign ")" =>
      discard advance
      argumentNamed name
    | _, _ => term n
termination_by structural n => n

end

end PatternBuild.Shell.Records.Reader

/-!
## Reading programs for records

`readProgram` reads the text of a program.  Afterwards it is settled which names stand for arrays:
what is known of a name that a call passes on is known of the parameter too, and the other way round.
-/

namespace PatternBuild.Shell.Records

namespace Reader

/-! ### actions -/

/-- the end of a simple action -/
def endAct : Reader Unit := do
  match ← peek with
  | .sign ";" =>
    discard advance
    skipLines
  | .newline => skipLines
  | .sign "\x7d" => return
  | .ending => return
  | _ => unexpected

/-- terms with commas between them -/
def list (n : Nat) : Nat → Reader (List Term)
  | 0 => failAt "program too long"
  | k + 1 => do
    let a ← term n
    if ← takes "," then
      skipLines
      return a :: (← list n k)
    return [a]

/-- what is printed: terms, which may stand in parentheses, and where it goes -/
def printed (n : Nat) : Reader (List Term × Option (OutputKind × Term)) := do
  let endsHere (token : Token) : Bool := match token with
    | .output _ => true
    | .newline => true
    | .ending => true
    | .sign ";" => true
    | .sign "\x7d" => true
    | _ => false
  let start ← get
  let grouped : Reader (Option (List Term)) := do
    if !(← takes "(") then return none
    let args ← list n n
    expect ")"
    if endsHere (← peek) then return some args else return none
  let args ← if endsHere (← peek) then pure [] else
    match grouped start with
    | .ok (some args, s) => do
      set s
      pure args
    | _ => list n n
  match ← peek with
  | .output kind =>
    discard advance
    return (args, some (kind, ← term n))
  | _ => return (args, none)

/-- a term before the end of an action, if there is one -/
def optional (n : Nat) : Reader (Option Term) := do
  match ← peek with
  | .newline => return none
  | .ending => return none
  | .sign ";" => return none
  | .sign "\x7d" => return none
  | _ => some <$> term n

/-- an action on a line -/
def simple (n : Nat) : Reader Act := do
  match ← peek with
  | .keyword "print" =>
    discard advance
    let (args, target) ← printed n
    return .print args target
  | .keyword "printf" =>
    discard advance
    let (args, target) ← printed n
    if args.isEmpty then failAt "no arguments in call to printf"
    return .printFormatted args target
  | .keyword "next" =>
    discard advance
    if !(← get).hasRecord then failAt "improper use of next"
    return .next
  | .keyword "nextfile" =>
    discard advance
    if !(← get).hasRecord then failAt "improper use of nextfile"
    return .nextFile
  | .keyword "break" =>
    discard advance
    if (← get).loops = 0 then failAt "break statement outside of loop"
    return .leave
  | .keyword "continue" =>
    discard advance
    if (← get).loops = 0 then failAt "continue statement outside of loop"
    return .goOn
  | .keyword "exit" =>
    discard advance
    return .exit (← optional n)
  | .keyword "return" =>
    discard advance
    if (← get).function.isNone then failAt "return outside function body"
    return .return (← optional n)
  | .keyword "delete" =>
    discard advance
    match ← advance with
    | .name name =>
      let array ← arrayNamed name
      if ← takes "[" then
        let index ← terms n "]"
        return .delete array index
      return .clear array
    | _ => unexpected
  | _ => .term <$> term n

mutual

/-- an action -/
def act : Nat → Reader Act
  | 0 => failAt "program too long"
  | n + 1 => do
    match ← peek with
    | .sign "\x7b" => .block <$> block n
    | .sign ";" =>
      discard advance
      skipLines
      return .block []
    | .newline =>
      skipLines
      return .block []
    | .keyword "if" =>
      discard advance
      expect "("
      let condition ← term n
      expect ")"
      skipLines
      let first ← act n
      skipLines
      if (← peek) == .keyword "else" then
        discard advance
        skipLines
        let second ← act n
        return .choose condition [first] [second]
      return .choose condition [first] []
    | .keyword "while" =>
      discard advance
      expect "("
      let condition ← term n
      expect ")"
      if ← takes ";" then
        skipLines
        return .while condition []
      skipLines
      return .while condition [← looped n]
    | .keyword "do" =>
      discard advance
      skipLines
      let body ← looped n
      skipLines
      if (← peek) != .keyword "while" then unexpected
      discard advance
      expect "("
      let condition ← term n
      expect ")"
      endAct
      return .doWhile [body] condition
    | .keyword "for" => for_ n
    | .keyword "function" => unexpected
    | _ =>
      let a ← simple n
      endAct
      return a
termination_by structural n => n

/-- the action of a loop -/
def looped : Nat → Reader Act
  | 0 => failAt "program too long"
  | n + 1 => do
    modify fun s => { s with loops := s.loops + 1 }
    let a ← act n
    modify fun s => { s with loops := s.loops - 1 }
    return a
termination_by structural n => n

/-- a loop over numbers or keys -/
def for_ : Nat → Reader Act
  | 0 => failAt "program too long"
  | n + 1 => do
    discard advance
    expect "("
    let keys? : Option (String × String) := match (← get).tokens with
      | (.name a, _) :: (.keyword "in", _) :: (.name b, _) :: (.sign ")", _) :: _ => some (a, b)
      | _ => none
    match keys? with
    | some (place, array) =>
      modify fun s => { s with tokens := s.tokens.drop 3 }
      expect ")"
      let array ← arrayNamed array
      let place ← valueNamed place
      skipLines
      return .forKeys place array [← looped n]
    | none =>
      let first ← if ← isNext ";" then pure [] else do pure [← simple n]
      expect ";"
      skipLines
      let condition ← if ← isNext ";" then pure none else some <$> term n
      expect ";"
      skipLines
      let next ← if ← isNext ")" then pure [] else do pure [← simple n]
      expect ")"
      if ← takes ";" then
        skipLines
        return .for first condition next []
      skipLines
      return .for first condition next [← looped n]
termination_by structural n => n

/-- actions in braces -/
def block : Nat → Reader (List Act)
  | 0 => failAt "program too long"
  | n + 1 => do
    expect "\x7b"
    skipLines
    acts n
termination_by structural n => n

/-- actions up to a closing brace -/
def acts : Nat → Reader (List Act)
  | 0 => failAt "program too long"
  | n + 1 => do
    if ← takes "\x7d" then return []
    let a ← act n
    return a :: (← acts n)
termination_by structural n => n

end

/-! ### programs -/

/-- the parameters of a function, from behind the opening parenthesis -/
def parameters : Nat → List String → Reader (List String)
  | 0, _ => failAt "program too long"
  | n + 1, seen => do
    match ← peek with
    | .name name =>
      discard advance
      if seen.contains name then failAt s!"{name} is duplicated in argument list"
      if ← takes "," then
        skipLines
        if ← isNext ")" then unexpected
        return name :: (← parameters n (name :: seen))
      expect ")"
      return [name]
    | .sign ")" =>
      discard advance
      return []
    | _ => unexpected

/-- the end of an item of a program -/
def endItem : Reader Unit := do
  discard (takes ";")
  skipLines

/-- a function -/
def function (n : Nat) : Reader (String × Function) := do
  discard advance
  match ← advance with
  | .called name =>
    let s ← get
    if (s.names.lookup name).isSome then failAt s!"illegal reference to variable {name}"
    expect "("
    let names ← parameters n []
    skipLines
    modify fun s => { s with parameters := names.map (·, .unknown), function := some name,
                             hasRecord := false }
    let body ← block n
    let found := (← get).parameters
    modify fun s => { s with parameters := [], function := none }
    return (name, ⟨found, body⟩)
  | _ => unexpected

/-- the items of a program, at most `n` of them -/
def items (depth : Nat) : Nat → Program → Reader Program
  | 0, p => return p
  | n + 1, p => do
    match ← peek with
    | .ending => return p
    | .keyword "BEGIN" =>
      discard advance
      modify fun s => { s with hasRecord := false }
      let body ← block depth
      endItem
      items depth n { p with begins := p.begins ++ [body] }
    | .keyword "END" =>
      discard advance
      modify fun s => { s with hasRecord := false }
      let body ← block depth
      endItem
      items depth n { p with ends := p.ends ++ [body] }
    | .keyword "function" =>
      let (name, f) ← function depth
      endItem
      items depth n { p with functions := p.functions ++ [(name, f)] }
    | .sign "\x7b" =>
      modify fun s => { s with hasRecord := true }
      let body ← block depth
      endItem
      items depth n { p with rules := p.rules ++ [(.always, body)] }
    | _ =>
      modify fun s => { s with hasRecord := true }
      let first ← term depth
      let condition ← if ← takes "," then do
          skipLines
          pure (Condition.between first (← term depth))
        else pure (Condition.holds first)
      let body ← if ← isNext "\x7b" then block depth
        else do
          match ← peek with
          | .newline => pure ()
          | .sign ";" => pure ()
          | .ending => pure ()
          | _ => unexpected
          pure [Act.print [] none]
      endItem
      items depth n { p with rules := p.rules ++ [(condition, body)] }

end Reader

/-! ### names that stand for arrays -/

/-- what a passed name stands for, as far as it is known -/
def Passing.kind (q : Passing) (p : Program) (names : List (String × NameKind)) : NameKind :=
  match q.caller with
  | some f => ((p.functions.lookup f).bind (·.parameters.lookup q.name)).getD .unknown
  | none => (names.lookup q.name).getD .unknown

/-- what the parameter stands for that a name is passed as -/
def Passing.wanted (q : Passing) (p : Program) : NameKind :=
  match (p.functions.lookup q.callee).bind (·.parameters[q.index]?) with
  | some (_, kind) => kind
  | none => .unknown

/-- a function whose parameter of some name stands for something -/
def Function.withKind (f : Function) (name : String) (kind : NameKind) : Function :=
  { f with parameters := Reader.noteKind name kind f.parameters }

/-- let what is known of a name and of the parameter that it is passed as be known of both -/
def Passing.settle (q : Passing) (found : Program × List (String × NameKind)) :
    Program × List (String × NameKind) :=
  let (p, names) := found
  let onFunction (name : String) (g : Function → Function) : Program :=
    { p with functions := p.functions.map fun (n, f) => if n = name then (n, g f) else (n, f) }
  match q.kind p names, q.wanted p with
  | .unknown, .unknown => found
  | .unknown, kind =>
    match q.caller with
    | some f => (onFunction f (·.withKind q.name kind), names)
    | none => (p, Reader.noteKind q.name kind names)
  | kind, .unknown =>
    let parameter? := (p.functions.lookup q.callee).bind (·.parameters[q.index]?)
    match parameter? with
    | some (name, _) => (onFunction q.callee (·.withKind name kind), names)
    | none => found
  | _, _ => found

/-- a program in which it is known what names stand for, or what is wrong with them -/
def settleNames (p : Program) (s : Reading) : Except String Program := do
  let passed := s.passed.reverse
  let (p, names) := (List.range (passed.length + 1)).foldl
    (fun found _ => passed.foldl (fun found q => q.settle found) found) (p, s.names)
  for q in passed do
    let (kind, wanted) := (q.kind p names, q.wanted p)
    if kind ≠ .unknown && wanted ≠ .unknown && kind ≠ wanted then
      let index := q.index + 1
      throw s!"line {q.line}: type error in arg({index}) in call to {q.callee}"
  for (name, count, line) in s.calls.reverse do
    match p.functions.lookup name with
    | none =>
      let last := s.line + 1
      throw s!"line {last}: function {name} never defined"
    | some f =>
      if f.parameters.length < count then
        throw s!"line {line}: too many arguments in call to {name}"
  return { p with arrays := (names.filter (·.2 = .array)).map (·.1) }

/-! ### the whole -/

/-- a deepest nesting of terms and actions that no program reaches -/
def depthOf (tokens : List (Token × Nat)) : Nat := 16 * tokens.length + 64

/-- names that the language gives a meaning -/
def knownNames : List (String × NameKind) :=
  [("ENVIRON", .array), ("ARGV", .array)] ++
    (["ARGC", "CONVFMT", "FILENAME", "FNR", "FS", "NF", "NR", "OFMT", "OFS", "ORS", "RLENGTH", "RS",
      "RSTART", "SUBSEP"].map (·, .value))

/-- the program that a text writes, or what is wrong with it -/
def readProgram (text : List Char) : Except String Program := do
  let tokens := scan text
  let start : Reading := ⟨tokens, 1, 0, 0, none, [], knownNames, [], [], 0, false⟩
  let (p, s) ← (Reader.skipLines *> Reader.items (depthOf tokens) (tokens.length + 1)
    ⟨[], [], [], [], []⟩) start
  settleNames p s

end PatternBuild.Shell.Records
