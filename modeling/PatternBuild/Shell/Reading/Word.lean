import PatternBuild.Shell.Reading.Source
import PatternBuild.Shell.Escape

/-!
# Reading words

The readers here take one for commands, which expansions may hold.  They count down a bound that no
text reaches: every call but the first goes past a character or comes from one that did.
-/

namespace PatternBuild.Shell

namespace Reading

/-- the parameters named by one character -/
def isSpecialParam (c : Char) : Bool := "@*#?-$!".toList.contains c

/-- the text of a backquoted command, and how many characters it takes with its closing quote -/
def backquoted (inDouble : Bool) : List Char → Option (List Char × Nat)
  | [] => none
  | '`' :: _ => some ([], 1)
  | '\\' :: c :: cs =>
    let escaped := c == '$' || c == '`' || c == '\\' || (inDouble && c == '"')
    (backquoted inDouble cs).map fun (text, n) =>
      (if escaped then c :: text else '\\' :: c :: text, n + 2)
  | c :: cs => (backquoted inDouble cs).map fun (text, n) => (c :: text, n + 1)

/-- the use that is written after the name of a parameter, and the number of its characters -/
def paramUse (extended : Bool) : List Char → ParamUse × Nat
  | '}' :: _ => (.value, 0)
  | ':' :: '-' :: _ => (.default true, 2)
  | '-' :: _ => (.default false, 1)
  | ':' :: '=' :: _ => (.assign true, 2)
  | '=' :: _ => (.assign false, 1)
  | ':' :: '?' :: _ => (.demand true, 2)
  | '?' :: _ => (.demand false, 1)
  | ':' :: '+' :: _ => (.alternative true, 2)
  | '+' :: _ => (.alternative false, 1)
  | '%' :: '%' :: _ => (.cut true true, 2)
  | '%' :: _ => (.cut true false, 1)
  | '#' :: '#' :: _ => (.cut false true, 2)
  | '#' :: _ => (.cut false false, 1)
  | cs => if extended then moreUses cs else (.unknown, 0)
where
  /-- the uses that the plain language lacks -/
  moreUses : List Char → ParamUse × Nat
    | ':' :: _ => (.slice, 1)
    | '/' :: '/' :: _ => (.replace .all, 2)
    | '/' :: '#' :: _ => (.replace .atStart, 2)
    | '/' :: '%' :: _ => (.replace .atEnd, 2)
    | '/' :: _ => (.replace .first, 1)
    | '^' :: '^' :: _ => (.recase .upper true, 2)
    | '^' :: _ => (.recase .upper false, 1)
    | ',' :: ',' :: _ => (.recase .lower true, 2)
    | ',' :: _ => (.recase .lower false, 1)
    | '~' :: '~' :: _ => (.recase .swapped true, 2)
    | '~' :: _ => (.recase .swapped false, 1)
    | '@' :: c :: _ => (.transform c, 2)
    | _ => (.unknown, 0)

/-- how many characters a subscript takes up to its closing bracket, if it has one -/
def subscriptWidth? : Nat → Nat → List Char → Option Nat
  | 0, _, _ => none
  | _ + 1, _, [] => none
  | n + 1, depth, c :: cs =>
    if c == ']' then
      match depth with
      | 0 => some 0
      | depth + 1 => (subscriptWidth? n depth cs).map (· + 1)
    else if c == '[' then (subscriptWidth? n (depth + 1) cs).map (· + 1)
    else if c == '\n' then none
    else if c == '\'' || c == '"' then
      let inside := cs.takeWhile (· ≠ c)
      (subscriptWidth? n depth (cs.drop (inside.length + 1))).map (· + inside.length + 2)
    else (subscriptWidth? n depth cs).map (· + 1)

/-- an element that is assigned: its name, the width of its subscript, and whether the value is
appended -/
def elementHead? (cs : List Char) : Option (List Char × Nat × Bool) := do
  let name := cs.takeWhile isNameChar
  match cs.drop name.length with
  | '[' :: inside =>
    if !(name.isEmpty || isName name) then none
    let width ← subscriptWidth? (inside.length + 1) 0 inside
    match inside.drop (width + 1) with
    | '=' :: _ => some (name, width, false)
    | '+' :: '=' :: _ => some (name, width, true)
    | _ => none
  | _ => none

/-- whether so many parentheses and one more are closed in a text, outside quotes -/
def closes (quote : Option Char) : Nat → List Char → Bool
  | _, [] => false
  | depth, c :: cs =>
    match quote with
    | some '\\' => closes none depth cs
    | some q => closes (if c == q then none else some q) depth cs
    | none =>
      if c == '\\' || c == '\'' || c == '"' then closes (some c) depth cs
      else if c == '(' then closes none (depth + 1) cs
      else if c == ')' then
        match depth with
        | 0 => true
        | depth + 1 => closes none depth cs
      else closes none depth cs

/-- characters that start a pattern in parentheses -/
def startsGroup (c : Char) : Bool := "?*+@!".toList.contains c

/-- whether a word stops in front of some characters; a group or a process does not stop it -/
def stopsAt (stops : Char → Bool) (s : Source) : Bool :=
  match s.rest with
  | [] => true
  | c :: more => stops c && !(s.isExtended && (c == '<' || c == '>') && more.head? == some '(')

/-- the name of a parameter; without one it is empty -/
def paramName : Reading String := do
  match ← peek with
  | c :: _ =>
    if isNameStart c then takeRun isNameChar
    else if c.isDigit then takeRun Char.isDigit
    else if isSpecialParam c then
      skip 1
      return c.toString
    else return ""
  | [] => return ""

variable (commands : Reading Command)

mutual

/-- the pieces of a word outside quotes, up to a character that stops it -/
def wordPieces (stops : Char → Bool) : Nat → Reading Word
  | 0 => fail .tooDeep
  | n + 1 => do
    let s ← get
    match s.rest with
    | [] => return []
    | '\\' :: '\n' :: _ =>
      skip 2
      wordPieces stops n
    | ['\\'] =>
      skip 1
      return [.quoted "\\"]
    | '\\' :: c :: _ =>
      skip 2
      return .quoted c.toString :: (← wordPieces stops n)
    | '\'' :: cs =>
      let inside := cs.takeWhile (· ≠ '\'')
      if inside.length = cs.length then failAtEnd "'"
      skip (inside.length + 2)
      return .quoted (String.ofList inside) :: (← wordPieces stops n)
    | '"' :: _ =>
      let inside ← doubleQuoted n
      return inside :: (← wordPieces stops n)
    | '$' :: _ =>
      let pieces ← expansion false n
      return pieces ++ (← wordPieces stops n)
    | '`' :: _ =>
      let piece ← backquote false n
      return piece :: (← wordPieces stops n)
    | c :: more =>
      if stopsAt stops s then return []
      if s.isExtended && (c == '<' || c == '>') && more.head? == some '(' then
        let start := s.rest.length
        skip 2
        let inner ← inParentheses do
          let inner ← commands
          closeParenthesis n
          return inner
        rewrite start (String.ofList [c, '('] ++ Rendering.ofOutput s.bound inner ++ ")")
        return .process (c == '<') inner :: (← wordPieces stops n)
      if s.hasGroups && startsGroup c && more.head? == some '(' then
        skip 2
        let inside ← group n
        return .plain (String.ofList [c, '(']) :: inside ++ .plain ")" :: (← wordPieces stops n)
      let isEnd (c : Char) : Bool := stops c || isActive c
      let run := s.rest.takeWhile fun c => !isEnd c && !(s.hasGroups && startsGroup c)
      if run.isEmpty then
        skip 1
        return .plain c.toString :: (← wordPieces stops n)
      skip run.length
      return .plain (String.ofList run) :: (← wordPieces stops n)

/-- the inside of a pattern in parentheses, and the closing one -/
def group : Nat → Reading Word
  | 0 => fail .tooDeep
  | n + 1 => do
    let inside ← wordPieces (fun c => c == '(' || c == ')') n
    match ← peek with
    | '(' :: _ =>
      skip 1
      let inner ← group n
      return inside ++ .plain "(" :: inner ++ .plain ")" :: (← group n)
    | ')' :: _ =>
      skip 1
      return inside
    | _ => fail (.unclosed ")")

/-- the closing parenthesis after a command -/
def closeParenthesis : Nat → Reading Unit
  | 0 => fail .tooDeep
  | n + 1 => do
    match ← token (wordPieces endsWord n) with
    | .operator ")" => pure ()
    | t => refuse t (some ")")

/-- what stands between double quotes -/
def doubleQuoted : Nat → Reading Piece
  | 0 => fail .tooDeep
  | n + 1 => do
    let line := (← get).line
    skip 1
    let inside ← quotedPieces (· == '"') (fun c => isActiveInDouble c) n
    if (← peek).isEmpty then failFrom line (.unclosed "\"")
    skip 1
    return .double inside

/-- pieces whose plain text is quoted, up to a character that stops them; a backslash quotes the
characters that it escapes -/
def quotedPieces (stops escaped : Char → Bool) : Nat → Reading Word
  | 0 => fail .tooDeep
  | n + 1 => do
    match ← peek with
    | [] => return []
    | '\\' :: '\n' :: _ =>
      skip 2
      quotedPieces stops escaped n
    | '\\' :: c :: _ =>
      let taken := if escaped c then 2 else 1
      skip taken
      let text := if escaped c then c.toString else "\\"
      return .quoted text :: (← quotedPieces stops escaped n)
    | '$' :: _ =>
      let pieces ← expansion true n
      return pieces ++ (← quotedPieces stops escaped n)
    | '`' :: _ =>
      let piece ← backquote true n
      return piece :: (← quotedPieces stops escaped n)
    | c :: _ =>
      if stops c then return []
      if c == '"' && escaped '"' then
        let piece ← doubleQuoted n
        return piece :: (← quotedPieces stops escaped n)
      skip 1
      let run ← takeRun fun c => !stops c && !isActiveInDouble c
      return .quoted (c.toString ++ run) :: (← quotedPieces stops escaped n)

/-- an expression, up to the two parentheses that end it, or the bracket -/
def arithmeticPieces (inBrackets : Bool) (depth : Nat) : Nat → Reading Word
  | 0 => fail .tooDeep
  | n + 1 => do
    let opening := if inBrackets then '[' else '('
    let closing := if inBrackets then ']' else ')'
    let end_ : List Char := if inBrackets then [']'] else [')', ')']
    match ← peek with
    | [] => if inBrackets then failAtEnd "]" else fail (.unclosed "))")
    | '\\' :: '\n' :: _ =>
      skip 2
      arithmeticPieces inBrackets depth n
    | '"' :: _ =>
      skip 1
      arithmeticPieces inBrackets depth n
    | '$' :: _ =>
      let pieces ← expansion true n
      return pieces ++ (← arithmeticPieces inBrackets depth n)
    | '`' :: _ =>
      let piece ← backquote true n
      return piece :: (← arithmeticPieces inBrackets depth n)
    | c :: cs =>
      if c == opening then
        skip 1
        return .quoted c.toString :: (← arithmeticPieces inBrackets (depth + 1) n)
      if c == closing then
        match depth with
        | 0 =>
          if !end_.isPrefixOf (c :: cs) then
            if ← isExtended then fail (.unclosed "))")
            skip 1
            return .quoted ")" :: (← arithmeticPieces inBrackets depth n)
          skip end_.length
          return []
        | depth + 1 =>
          skip 1
          return .quoted c.toString :: (← arithmeticPieces inBrackets depth n)
      skip 1
      let run ← takeRun fun c => !(isActiveInDouble c || c == opening || c == closing)
      return .quoted (c.toString ++ run) :: (← arithmeticPieces inBrackets depth n)

/-- what a dollar sign starts -/
def expansion (inDouble : Bool) : Nat → Reading Word
  | 0 => fail .tooDeep
  | n + 1 => do
    let extended ← isExtended
    let s ← get
    let start := s.rest.length
    let output : Reading Word := do
      skip 2
      let c ← inParentheses do
        let c ← commands
        closeParenthesis n
        return c
      rewrite start ("$(" ++ Rendering.ofOutput s.bound c ++ ")")
      return [.output c]
    let lone : Piece := if inDouble then .quoted "$" else .plain "$"
    match (← peek).drop 1 with
    | '(' :: '(' :: _ =>
      let expression : Reading Word := do
        skip 3
        arithmeticPieces false 0 n
      if extended then
        match ← attempt? expression with
        | some pieces => return [.arithmetic pieces]
        | none =>
          if !closes none 0 ((← peek).drop 2) then failFrom s.line (.unclosed ")")
          output
      else return [.arithmetic (← expression)]
    | '(' :: _ => output
    | '{' :: _ =>
      skip 2
      return [← braced inDouble n]
    | '[' :: _ =>
      if extended then
        skip 2
        return [.arithmetic (← blaming s.line "]" (arithmeticPieces true 0 n))]
      else
        skip 1
        return [lone]
    | '\'' :: cs =>
      if extended && !inDouble then
        match quotedEscapes cs with
        | some (text, width) =>
          skip (width + 3)
          rewrite start (inSingleQuotes (String.ofList text))
          return [.quoted (String.ofList text)]
        | none => failAtEnd "'"
      else
        skip 1
        return [lone]
    | '"' :: _ =>
      skip 1
      rewrite start (if extended && !inDouble then "" else "$")
      if extended && !inDouble then return [← doubleQuoted n] else return [lone]
    | c :: _ =>
      if isNameStart c then
        skip 1
        return [.param (← takeRun isNameChar) none false .value []]
      else if c.isDigit || isSpecialParam c then
        skip 2
        return [.param c.toString none false .value []]
      else
        skip 1
        return [lone]
    | [] =>
      skip 1
      return [lone]

/-- a parameter between braces -/
def braced (inDouble : Bool) : Nat → Reading Piece
  | 0 => fail .tooDeep
  | n + 1 => do
    let extended ← isExtended
    match ← peek with
    | '#' :: c :: cs =>
      let isLength := c != '}' && (isNameChar c || isSpecialParam c) &&
        !(isSpecialParam c && extended && cs.head? != some '}')
      if isLength then
        skip 1
        let name ← paramName
        let index ← subscript n
        match ← peek with
        | '}' :: _ =>
          skip 1
          return .param name index false .length []
        | _ => closeBrace name index false .unknown inDouble n
      else usedParam false inDouble n
    | '!' :: c :: _ =>
      if extended && (isNameChar c || c == '#' || c == '@' || c == '*') then
        skip 1
        usedParam true inDouble n
      else usedParam false inDouble n
    | _ => usedParam false inDouble n

/-- the subscript of an element, if there is one -/
def subscript : Nat → Reading (Option Word)
  | 0 => fail .tooDeep
  | n + 1 => do
    let s ← get
    match s.isExtended, s.rest with
    | true, '[' :: inside =>
      match subscriptWidth? (inside.length + 1) 0 inside with
      | some width =>
        let word ← within (inside.take width) (wordPieces (fun _ => false) n)
        skip (width + 2)
        return some word
      | none => return none
    | _, _ => return none

/-- a parameter between braces from its name on -/
def usedParam (isIndirect inDouble : Bool) : Nat → Reading Piece
  | 0 => fail .tooDeep
  | n + 1 => do
    let name ← paramName
    let index ← subscript n
    let rest ← peek
    let asks (text : String) : Bool := isIndirect && (text == "@" || text == "*")
    let special : Option Piece := match index, rest with
      | none, c :: '}' :: _ =>
        if asks c.toString then some (.param name (some [.plain c.toString]) false .names [])
        else none
      | some [.plain i], '}' :: _ => if asks i then some (.param name index false .keys []) else none
      | _, _ => none
    match special with
    | some piece =>
      skip (if index.isNone then 2 else 1)
      return piece
    | none =>
      let (use, width) := paramUse (← isExtended) rest
      skip width
      closeBrace name index isIndirect (if name.isEmpty then .unknown else use) inDouble n

/-- the words after the name and use of a parameter, and the closing brace -/
def closeBrace (name : String) (index : Option Word) (isIndirect : Bool) (use : ParamUse)
    (inDouble : Bool) : Nat → Reading Piece
  | 0 => fail .tooDeep
  | n + 1 => do
    let start ← get
    let quotedWord : Reading Word :=
      quotedPieces (· == '}') (fun c => isActiveInDouble c || c == '}') n
    let word ← match use with
      | .cut _ _ => wordPieces (· == '}') n
      | .recase _ _ => wordPieces (· == '}') n
      | .slice => quotedPieces (fun c => c == '}' || c == ':') isActiveInDouble n
      | .replace _ => wordPieces (fun c => c == '}' || c == '/') n
      | .unknown =>
        let _ ← wordPieces (· == '}') n
        let size := start.rest.length - (← peek).length
        pure [.plain (String.ofList (start.rest.take size))]
      | _ => if inDouble then quotedWord else wordPieces (· == '}') n
    let more ← match use, ← peek with
      | .slice, ':' :: _ => do
        skip 1
        some <$> quotedPieces (· == '}') isActiveInDouble n
      | .replace _, '/' :: _ => do
        skip 1
        some <$> wordPieces (· == '}') n
      | _, _ => pure none
    if (← peek).isEmpty then
      let isCut := match use with
        | .cut _ _ => true
        | _ => false
      failFrom start.line (.unclosed (if inDouble && !isCut && !start.isExtended then "\"" else "\x7d"))
    skip 1
    return .param name index isIndirect use (if word.isEmpty && more.isNone then [] else
      word :: more.toList)

/-- a command between backquotes -/
def backquote (inDouble : Bool) : Nat → Reading Piece
  | 0 => fail .tooDeep
  | n + 1 => do
    match backquoted inDouble ((← peek).drop 1) with
    | none => failAtEnd "`"
    | some (text, width) =>
      let c ← within text do
        let c ← commands
        match ← token (wordPieces endsWord n) with
        | .finish => return c
        | t => if !(← isExtended) && isCloser t then return c else refuse t none
      skip (width + 1)
      return .output c

end

/-- a whole word; an element that is assigned may start it -/
def word : Reading Word := rawly do
  let s ← get
  let head := if s.isExtended then elementHead? s.rest else none
  match head with
  | some (name, width, isAppended) =>
    let text := (s.rest.drop (name.length + 1)).take width
    let index ← within text (wordPieces commands (fun _ => false) s.bound)
    skip (name.length + width + 2 + if isAppended then 2 else 1)
    let more ← wordPieces commands endsWord s.bound
    return .element (String.ofList name) index isAppended :: more
  | none => wordPieces commands endsWord s.bound

end Reading

end PatternBuild.Shell
