import PatternBuild.Shell.Reading.Word

/-!
# Reading commands

`nextLine` reads the commands of one line, or of as many lines as the commands that start on it
take, so a script runs up to the first line that cannot be read.  Every function here counts down
a bound that no text reaches.
-/

namespace PatternBuild.Shell

namespace Reading

/-- the first command, then the second -/
def inSequence : Command → Command → Command
  | .nothing, c => c
  | c, .nothing => c
  | a, b => .sequence a b

/-- whether a token is a certain word of the language itself -/
def isKeyword (name : String) : Token → Bool
  | .word w => plainText? w == some name
  | _ => false

/-- whether a token starts a compound command -/
def startsCompound : Token → Bool
  | .operator op => op = "("
  | .word w =>
    match plainText? w with
    | some text => ["\x7b", "[[", "case", "for", "if", "select", "until", "while"].contains text
    | none => false
  | _ => false

/-- the assignment that a word writes, if it does -/
def assignment? (extended : Bool) : Word → Option Assignment
  | .element name index isAppended :: value =>
    if name.isEmpty then none else some (.mk name (some index) isAppended value)
  | .plain text :: more =>
    let cs := text.toList
    let name := cs.takeWhile isNameChar
    let withValue (isAppended : Bool) (value : List Char) : Option Assignment :=
      if isName name then
        some (.mk (String.ofList name) none isAppended
          (if value.isEmpty then more else .plain (String.ofList value) :: more))
      else none
    match cs.drop name.length with
    | '=' :: value => withValue false value
    | '+' :: '=' :: value => if extended then withValue true value else none
    | _ => none
  | _ => none

/-- builtins whose arguments are assignments -/
def declarations : List String := ["declare", "export", "local", "readonly", "typeset"]

/-- the text of the delimiter of an inline text, and whether it was quoted -/
def delimiter (w : Word) : List Char × Bool :=
  w.foldl (fun (text, isQuoted) piece =>
    match piece with
    | .plain s => (text ++ s.toList, isQuoted)
    | .quoted s => (text ++ s.toList, true)
    | .double [.quoted s] => (text ++ s.toList, true)
    | .param name none false .value [] => (text ++ '$' :: name.toList, isQuoted)
    | _ => (text, true)) ([], false)

/-- operators of conditions that compare two words -/
def comparisons : List String :=
  ["=", "==", "!=", "=~", "-eq", "-ne", "-lt", "-le", "-gt", "-ge", "-nt", "-ot", "-ef"]

/-- whether a text asks something of one word -/
def isUnaryTest (text : String) : Bool :=
  match text.toList with
  | ['-', c] => "abcdefghknoprstuvwxzGLNORS".toList.contains c
  | _ => false

/-- what is told besides what is printed goes the same way -/
def tellingToo (isRaw : Bool) : Redirect :=
  .mk (.number 2) .duplicate (if isRaw then [.plain "2>&1"] else [.quoted "1"])

/-- the body of a function, whose redirections belong to the line where the function starts -/
def startingAt (line : Nat) : Command → Command
  | .redirected _ c rs => .redirected line c rs
  | c => c

/-- a pattern that is matched with a part of a word -/
def regexStops (c : Char) : Bool := isBlankChar c || c == '\n'

/-- how a token is named in the faults of conditions; most words are not -/
def tokenText? : Token → Option String
  | .operator text => some text
  | .newline => some "newline"
  | .finish => some "EOF"
  | .word w => (plainText? w).filter (· = "]]")
  | .descriptor _ => none

/-- the word in front of some place in a line, as far as it can be told from the text alone -/
def wordBefore (line : List Char) (place : Nat) : String :=
  let text := line ++ ['\n']
  let isGap (c : Char) : Bool := isBlankChar c || c == '\n'
  let seen := (text.take (place + 1)).reverse.dropWhile isGap
  if seen.length ≤ 1 then String.ofList (text.take 1)
  else
    let word := match seen with
      | c :: cs => if isGap c || ";|&".toList.contains c then [c]
          else c :: cs.takeWhile fun c => !(isGap c || ";|&".toList.contains c)
      | [] => []
    String.ofList word.reverse

/-- refuse a condition at a token -/
def failCondition {α : Type} (t : Token) (reasons : List (Nat × String)) : Reading α := do
  let s ← get
  match t with
  | .finish => fail (.badCondition reasons none)
  | t =>
    let isNewline := match t with
      | .newline => true
      | _ => false
    let s := if isNewline then { s with line := s.tokenLine, lineStart := s.tokenLineStart } else s
    set s
    let line := s.lineStart.takeWhile (· ≠ '\n')
    fail (.badCondition reasons (some (wordBefore line (s.lineStart.length - s.rest.length))))

/-- read a part of a condition whose faults have another reason besides -/
def withReason {α : Type} (reason : Nat × String) (r : Reading α) : Reading α := fun s =>
  match r.run s with
  | .error f => .error (match f.problem with
    | .badCondition reasons near => { f with problem := .badCondition (reasons ++ [reason]) near }
    | _ => f)
  | done => done

/-- refuse a token after a condition -/
def refuseCondition (line : Nat) (t : Token) : Reading Unit :=
  match t, tokenText? t with
  | .finish, _ => failCondition t [(line, "unexpected EOF while looking for \x60]]'")]
  | _, some text =>
    failCondition t [(line, s!"syntax error in conditional expression: unexpected token \x60{text}'")]
  | _, none => failCondition t [(line, "syntax error in conditional expression")]

/-- refuse a token in the place of what an operator is applied to -/
def refuseOperand {α : Type} (kind : String) (t : Token) : Reading α := do
  let s ← get
  match t, tokenText? t with
  | .newline, _ =>
    failCondition t [(s.tokenLine, s!"unexpected argument \x60newline' to conditional {kind} operator")]
  | .finish, _ => failCondition t [(s.line, s!"unexpected argument to conditional {kind} operator")]
  | _, some text =>
    failCondition t [(s.line, s!"unexpected argument \x60{text}' to conditional {kind} operator")]
  | _, none => failCondition t [(s.line, s!"unexpected argument to conditional {kind} operator")]

mutual

-- tokens in context

def nextToken : Nat → Reading Token
  | 0 => fail .tooDeep
  | n + 1 => token (word (list n))
termination_by structural n => n

/-- the next token, which stays in front -/
def peekToken : Nat → Reading Token
  | 0 => fail .tooDeep
  | n + 1 => do
    let t ← nextToken n
    putBack t
    return t
termination_by structural n => n

/-- the next token where a command may start: an alias there gives way to its text -/
def commandToken : Nat → Reading Token
  | 0 => fail .tooDeep
  | n + 1 => do
    let t ← nextToken n
    match t with
    | .word w => if ← replaceAlias w then commandToken n else return t
    | _ => return t
termination_by structural n => n

/-- the next token among the words of a command: an alias gives way to its text only behind one that
ends in a blank -/
def argumentToken : Nat → Reading Token
  | 0 => fail .tooDeep
  | n + 1 => do
    let t ← nextToken n
    match t with
    | .word w =>
      if !(← followsBlank) then return t
      if ← replaceAlias w then commandToken n else return t
    | _ => return t
termination_by structural n => n

def expectOperator (op : String) : Nat → Reading Unit
  | 0 => fail .tooDeep
  | n + 1 => do
    match ← nextToken n with
    | .operator text => if text ≠ op then refuse (.operator text) (some op)
    | t => refuse t (some op)
termination_by structural n => n

/-- a word of the language itself -/
def expectWord (name : String) : Nat → Reading Unit
  | 0 => fail .tooDeep
  | n + 1 => do
    let t ← nextToken n
    if !(isKeyword name t) then refuse t (some name)
termination_by structural n => n

def skipNewlines : Nat → Reading Unit
  | 0 => fail .tooDeep
  | n + 1 => do
    match ← nextToken n with
    | .newline => skipNewlines n
    | t => putBack t
termination_by structural n => n

-- commands

/-- commands up to a token that ends them; there may be none -/
def list : Nat → Reading Command
  | 0 => fail .tooDeep
  | n + 1 => do
    skipNewlines n
    if isCloser (← peekToken n) then return .nothing
    let before ← get
    let c ← andOr n
    match ← nextToken n with
    | .newline =>
      let isRaw := (← get).isRaw
      match ← list n with
      | .nothing => return c
      | rest => return inSequence c (if isRaw then .sequence .nothing rest else rest)
    | .operator ";" => return inSequence c (← list n)
    | .operator "&" =>
      let shown := ((← rawFrom? before (andOr n)).map (Rendering.ofCommand n)).getD ""
      return inSequence (.background shown c) (← list n)
    | t =>
      putBack t
      return c
termination_by structural n => n

/-- commands of which there is at least one, with a token that must follow -/
def filledList (closer : String) : Nat → Reading Command
  | 0 => fail .tooDeep
  | n + 1 => do
    skipNewlines n
    let t ← peekToken n
    match t with
    | .finish => refuse t (some closer)
    | _ =>
      if isCloser t then refuse t none
      list n
termination_by structural n => n

/-- what follows a command on its line, which was in front of the reader in another state -/
def restOfLine (before : Source) (c : Command) : Nat → Reading Command
  | 0 => fail .tooDeep
  | n + 1 => do
    let goOn (c : Command) : Reading Command := do
      match ← nextToken n with
      | .newline => return c
      | .finish => return c
      | t =>
        putBack t
        let next ← get
        return inSequence c (← restOfLine next (← andOr n) n)
    match ← nextToken n with
    | .newline => return c
    | .finish => return c
    | .operator ";" => goOn c
    | .operator "&" =>
      let shown := ((← rawFrom? before (andOr n)).map (Rendering.ofCommand n)).getD ""
      goOn (.background shown c)
    | t => refuse t none
termination_by structural n => n

def andOr : Nat → Reading Command
  | 0 => fail .tooDeep
  | n + 1 => do moreAndOr (← pipeline n) n
termination_by structural n => n

def moreAndOr (c : Command) : Nat → Reading Command
  | 0 => fail .tooDeep
  | n + 1 => do
    match ← nextToken n with
    | .operator "&&" =>
      skipNewlines n
      moreAndOr (.andThen c (← pipeline n)) n
    | .operator "||" =>
      skipNewlines n
      moreAndOr (.orElse c (← pipeline n)) n
    | t =>
      putBack t
      return c
termination_by structural n => n

def pipeline : Nat → Reading Command
  | 0 => fail .tooDeep
  | n + 1 => do
    let t ← commandToken n
    if isKeyword "!" t then
      if !(← isExtended) then return .negated (← unnegated n)
      match ← peekToken n with
      | .newline => return .negated .nothing
      | .finish => return .negated .nothing
      | .operator ";" => return .negated .nothing
      | _ => return .negated (← pipeline n)
    if (← isExtended) && isKeyword "time" t then
      let next ← nextToken n
      let isPlain := isKeyword "-p" next
      if !isPlain then putBack next
      let next ← nextToken n
      let isPlain := isPlain || isKeyword "--" next
      if !(isKeyword "--" next) then putBack next
      match ← peekToken n with
      | .newline => return .timed isPlain .nothing
      | .finish => return .timed isPlain .nothing
      | .operator ";" => return .timed isPlain .nothing
      | _ => return .timed isPlain (← pipeline n)
    putBack t
    unnegated n
termination_by structural n => n

/-- commands that pipes join -/
def unnegated : Nat → Reading Command
  | 0 => fail .tooDeep
  | n + 1 => do
    let first ← command n
    match ← nextToken n with
    | .operator "|" => return .pipeline (first :: (← stages n))
    | .operator "|&" =>
      let s ← get
      return .pipeline (.redirected s.line first [tellingToo s.isRaw] :: (← stages n))
    | t =>
      putBack t
      return first
termination_by structural n => n

/-- the commands after the first pipe -/
def stages : Nat → Reading (List Command)
  | 0 => fail .tooDeep
  | n + 1 => do
    skipNewlines n
    let c ← command n
    match ← nextToken n with
    | .operator "|" => return c :: (← stages n)
    | .operator "|&" =>
      let s ← get
      return .redirected s.line c [tellingToo s.isRaw] :: (← stages n)
    | t =>
      putBack t
      return [c]
termination_by structural n => n

/-- a command; one whose text is told is read with its text first -/
def command : Nat → Reading Command
  | 0 => fail .tooDeep
  | n + 1 => do
    let t ← commandToken n
    putBack t
    match ← rawAhead? (commandFrom n) with
    | some raw => return (← commandFrom n).withText (Rendering.ofHead n raw)
    | none => commandFrom n
termination_by structural n => n

/-- a command from a token on that no alias replaces -/
def commandFrom : Nat → Reading Command
  | 0 => fail .tooDeep
  | n + 1 => do
    let t ← nextToken n
    let s ← get
    let line := s.line
    let compound (c : Command) : Reading Command := do
      let last := (← get).line
      match ← redirects n with
      | [] => return c
      | rs => return .redirected (if s.isExtended then last else line) c rs
    let other : Reading Command := do
      if isCloser t then refuse t none
      putBack t
      simple line [] [] [] n
    match t with
    | .operator "(" =>
      let computed ← if s.isExtended && s.rest.head? == some '(' then attempt? do
          skip 1
          expressionPieces n
        else pure none
      match computed with
      | some pieces => compound (.compute line "" pieces)
      | none =>
        if s.isExtended && s.rest.head? == some '(' && !closes none 0 (s.rest.drop 1) then
          failFrom line (.unclosed ")")
        let c ← filledList ")" n
        expectOperator ")" n
        compound (.subshell c)
    | .word w =>
      match plainText? w with
      | some "\x7b" =>
        let c ← filledList "\x7d" n
        expectWord "\x7d" n
        compound (.group c)
      | some "if" => compound (← choice n)
      | some "while" => compound (← loop false n)
      | some "until" => compound (← loop true n)
      | some "for" => compound (← forEach line n)
      | some "case" => compound (← select line n)
      | some "[[" =>
        if s.isExtended then
          let test ← eitherTest n
          let closing ← nextToken n
          if !(isKeyword "]]" closing) then refuseCondition line closing
          compound (.condition line "" test)
        else other
      | some "!" => refuse t none
      | some "in" => if s.isExtended then other else refuse t none
      | some "function" => if s.isExtended then namedFunction n else other
      | some "select" => if s.isExtended then compound (← menu n) else other
      | some "coproc" => if s.isExtended then coprocess n else other
      | _ => other
    | _ =>
      putBack t
      simple line [] [] [] n
termination_by structural n => n

/-- an expression and the two parentheses that end it -/
def expressionPieces : Nat → Reading Word
  | 0 => fail .tooDeep
  | n + 1 => do
    let s ← get
    match ← rawly (arithmeticPieces (list n) false 0 s.bound), s.isRaw with
    | [.plain text], true => return [.plain (String.ofList (text.toList.take (text.length - 2)))]
    | w, _ => return w
termination_by structural n => n

/-- the parts of a simple command, in reverse order as far as they are read -/
def simple (line : Nat) (assigns : List Assignment) (words : List Word)
    (rs : List Redirect) : Nat → Reading Command
  | 0 => fail .tooDeep
  | n + 1 => do
    let t ← if words.isEmpty then commandToken n else argumentToken n
    match t with
    | .word w =>
      let s ← get
      -- the language with extensions counts the line where the second part ends
      let isSecond := assigns.length + words.length + rs.length = 1
      let line := if s.isExtended && isSecond then s.line else line
      let found := assignment? s.isExtended w
      let declares := (words.getLast?.bind plainText?).any declarations.contains
      match found with
      | some (.mk name index isAppended []) =>
        if s.isExtended && s.rest.head? == some '(' && (words.isEmpty || declares) then
          skip 1
          let items ← elements s.line n
          if words.isEmpty then
            simple line (.mk name index isAppended [.elements items] :: assigns) words rs n
          else simple line assigns ((w ++ [.elements items]) :: words) rs n
        else if words.isEmpty then simple line (.mk name index isAppended [] :: assigns) words rs n
        else simple line assigns (w :: words) rs n
      | some a =>
        if words.isEmpty then simple line (a :: assigns) words rs n
        else simple line assigns (w :: words) rs n
      | none => simple line assigns (w :: words) rs n
    | .operator "(" =>
      match assigns, words, rs with
      | [], [w], [] =>
        expectOperator ")" n
        skipNewlines n
        let s ← get
        match plainText? w with
        | some name =>
          if s.isExtended || isName name.toList then functionBody line name n
          else fail (.badFunctionName name)
        | none => fail (.badFunctionName "")
      | _, _, _ => refuse t none
    | _ =>
      putBack t
      match ← redirects n with
      | [] =>
        if assigns.isEmpty && words.isEmpty && rs.isEmpty then refuse t none
        return .simple line "" assigns.reverse words.reverse rs.reverse
      | more => simple line assigns words (more.reverse ++ rs) n
termination_by structural n => n

/-- the body of a function of a name -/
def functionBody (line : Nat) (name : String) : Nat → Reading Command
  | 0 => fail .tooDeep
  | n + 1 => do
    let t ← peekToken n
    if (← isExtended) && !startsCompound t then
      discard (nextToken n)
      refuse t none
    let shown ← match ← rawAhead? (command n) with
      | some raw => pure (Rendering.ofFunction n name raw)
      | none => pure ""
    return .function name shown (startingAt line (← command n))
termination_by structural n => n

/-- the elements of an array, and the parenthesis after them -/
def elements (line : Nat) : Nat → Reading (List Word)
  | 0 => fail .tooDeep
  | n + 1 => do
    match ← nextToken n with
    | .word w => return w :: (← elements line n)
    | .newline => elements line n
    | .operator ")" => return []
    | .finish => failFrom line .unclosedElements
    | t => refuse t (some ")")
termination_by structural n => n

def redirects : Nat → Reading (List Redirect)
  | 0 => fail .tooDeep
  | n + 1 => do
    let t ← nextToken n
    match t with
    | .descriptor fd =>
      match ← nextToken n with
      | .operator op =>
        match ← redirect (some fd) op n with
        | some r => return r :: (← redirects n)
        | none => refuse (.operator op) none
      | t => refuse t none
    | .operator op =>
      match ← redirect none op n with
      | some r => return r :: (← redirects n)
      | none =>
        putBack t
        return []
    | _ =>
      putBack t
      return []
termination_by structural n => n

/-- the redirection that an operator starts, if it does; a raw one is a plain piece -/
def redirect (fd : Option DescriptorName) (op : String) : Nat → Reading (Option Redirect)
  | 0 => fail .tooDeep
  | n + 1 => do
    let s ← get
    match ← anyRedirect fd op n, s.isRaw with
    | some (.mk name kind w), true => return some (.mk name kind (Rendering.redirectWord fd op w))
    | r, _ => return r
termination_by structural n => n

/-- the redirection that an operator starts, if it does -/
def anyRedirect (fd : Option DescriptorName) (op : String) : Nat → Reading (Option Redirect)
  | 0 => fail .tooDeep
  | n + 1 => do
    let s ← get
    let reading := fd.getD (.number 0)
    let writing := fd.getD (.number 1)
    let target : Reading Word := do
      match ← nextToken n with
      | .word w => return w
      | t => refuse t none
    let number : Reading Word := do
      let w ← target
      match plainText? w with
      | some text =>
        if !s.isExtended && text ≠ "-" && !text.toList.all Char.isDigit then fail .badDescriptor
      | none => pure ()
      return w
    let inline (strip : Bool) : Reading Redirect := do
      modify fun s => { s with isRaw := false }
      let (stop, isQuoted) := delimiter (← target)
      modify fun s' => { s' with isRaw := s.isRaw }
      let text ← takeInline stop strip
      if s.isRaw then
        let name := String.ofList stop
        return .mk reading .text
          [.plain (if isQuoted then inSingleQuotes name else name), .quoted (String.ofList (text ++ stop))]
      let body ← if isQuoted then pure [.quoted (String.ofList text)]
        else
          let escaped (c : Char) : Bool := c == '\\' || c == '$' || c == '`'
          within text (quotedPieces (list n) (fun _ => false) escaped (s.bound + 16 * text.length))
      return .mk reading .text body
    match op with
    | "<" => return some (.mk reading .input (← target))
    | ">" => return some (.mk writing .output (← target))
    | ">|" => return some (.mk writing .replace (← target))
    | ">>" => return some (.mk writing .append (← target))
    | "<>" => return some (.mk reading .both (← target))
    | "<&" => return some (.mk reading .duplicate (← number))
    | ">&" =>
      let w ← number
      let isFile := s.isExtended && fd.isNone && match plainText? w with
        | some text => text ≠ "-" && !text.toList.all Char.isDigit
        | none => false
      return some (if isFile then .mk writing .outputAll w else .mk writing .duplicate w)
    | "<<" => return some (← inline false)
    | "<<-" => return some (← inline true)
    | "<<<" =>
      let w ← target
      return some (.mk reading .text (if s.isRaw then w else w ++ [.quoted "\n"]))
    | "&>" => return some (.mk (.number 1) .outputAll (← target))
    | "&>>" => return some (.mk (.number 1) .appendAll (← target))
    | _ => return none
termination_by structural n => n

-- compound commands

/-- what follows `if` or `elif` -/
def choice : Nat → Reading Command
  | 0 => fail .tooDeep
  | n + 1 => do
    let condition ← filledList "then" n
    expectWord "then" n
    let yes ← filledList "fi" n
    let t ← nextToken n
    if isKeyword "elif" t then return .choice condition yes (← choice n)
    else if isKeyword "else" t then
      let no ← filledList "fi" n
      expectWord "fi" n
      return .choice condition yes no
    else if isKeyword "fi" t then return .choice condition yes .nothing
    else refuse t (some "fi")
termination_by structural n => n

/-- the body of a loop -/
def loopBody : Nat → Reading Command
  | 0 => fail .tooDeep
  | n + 1 => do
    let t ← nextToken n
    if (← isExtended) && isKeyword "\x7b" t then
      let body ← filledList "\x7d" n
      expectWord "\x7d" n
      return body
    putBack t
    expectWord "do" n
    let body ← filledList "done" n
    expectWord "done" n
    return body
termination_by structural n => n

/-- what follows `while` or `until` -/
def loop (ending : Bool) : Nat → Reading Command
  | 0 => fail .tooDeep
  | n + 1 => do
    let condition ← filledList "do" n
    expectWord "do" n
    let body ← filledList "done" n
    expectWord "done" n
    return .loop ending condition body
termination_by structural n => n

/-- the name and the words of a loop -/
def loopHead : Nat → Reading (String × Option (List Word))
  | 0 => fail .tooDeep
  | n + 1 => do
    let name ← match ← nextToken n with
      | .word w =>
        match plainText? w with
        | some name => if isName name.toList then pure name else fail (.badLoopName name)
        | none => fail (.badLoopName "")
      | t => if ← isExtended then refuse t none else fail (.badLoopName "")
    skipNewlines n
    let t ← nextToken n
    let words ← if isKeyword "in" t then some <$> loopWords n
      else do
        match t with
        | .operator ";" => pure ()
        | _ => putBack t
        pure none
    skipNewlines n
    return (name, words)
termination_by structural n => n

/-- what follows `for` -/
def forEach (line : Nat) : Nat → Reading Command
  | 0 => fail .tooDeep
  | n + 1 => do
    let s ← get
    let isCounting := s.isExtended && (blanks s.rest |> s.rest.drop).take 2 == ['(', '(']
    if isCounting then
      skip (blanks s.rest + 2)
      if !closes none 0 (← peek) then failFrom s.line (.unclosed ")")
      let part : Reading Word := do
        let w ← rawly (quotedPieces (list n) (· == ';') isActiveInDouble s.bound)
        skip 1
        return w
      let start ← part
      let test ← part
      let step ← expressionPieces n
      match ← nextToken n with
      | .operator ";" => pure ()
      | t => putBack t
      skipNewlines n
      return .counting line start test step (← loopBody n)
    else
      let (name, words) ← loopHead n
      return .forEach line "" name words (← loopBody n)
termination_by structural n => n

/-- what follows `select` -/
def menu : Nat → Reading Command
  | 0 => fail .tooDeep
  | n + 1 => do
    let (name, words) ← loopHead n
    return .menu name words (← loopBody n)
termination_by structural n => n

/-- what follows `coproc`: a name may stand in front of a compound command -/
def coprocess : Nat → Reading Command
  | 0 => fail .tooDeep
  | n + 1 => do
    let before ← get
    match ← nextToken n with
    | .word w =>
      let next ← peekToken n
      if startsCompound next && !startsCompound (.word w) then
        return .coprocess "" ((plainText? w).getD "") (← command n)
      set before
      return .coprocess "" "COPROC" (← command n)
    | t =>
      putBack t
      return .coprocess "" "COPROC" (← command n)
termination_by structural n => n

/-- words up to the end of the line or a semicolon -/
def loopWords : Nat → Reading (List Word)
  | 0 => fail .tooDeep
  | n + 1 => do
    match ← nextToken n with
    | .word w => return w :: (← loopWords n)
    | .newline => return []
    | .operator ";" => return []
    | t => refuse t none
termination_by structural n => n

/-- what follows `case` -/
def select (line : Nat) : Nat → Reading Command
  | 0 => fail .tooDeep
  | n + 1 => do
    match ← nextToken n with
    | .word w =>
      skipNewlines n
      expectWord "in" n
      return .select line "" w (← arms n)
    | t => refuseForWord t
termination_by structural n => n

def arms : Nat → Reading (List (List Word × Command × ArmEnd))
  | 0 => fail .tooDeep
  | n + 1 => do
    skipNewlines n
    let t ← nextToken n
    match t with
    | .operator "(" => pure ()
    | .word w =>
      if plainText? w = some "esac" then return []
      putBack t
    | _ => putBack t
    let patterns ← armPatterns n
    let body ← list n
    match ← nextToken n with
    | .operator ";;" => return (patterns, body, .leave) :: (← arms n)
    | .operator ";&" => return (patterns, body, .fallThrough) :: (← arms n)
    | .operator ";;&" => return (patterns, body, .goOn) :: (← arms n)
    | .word w =>
      if plainText? w = some "esac" then return [(patterns, body, .leave)]
      else refuse (.word w) (some ";;")
    | t => refuse t (some ";;")
termination_by structural n => n

/-- the patterns of an arm, and the parenthesis after them -/
def armPatterns : Nat → Reading (List Word)
  | 0 => fail .tooDeep
  | n + 1 => do
    match ← nextToken n with
    | .word w =>
      match ← nextToken n with
      | .operator "|" => return w :: (← armPatterns n)
      | .operator ")" => return [w]
      | t => refuse t (some ")")
    | t =>
      if ← isExtended then refuse t none
      -- the plain language takes anything for a pattern, and looks at what follows
      match t with
      | .finish => refuse t (some ")")
      | _ => refuse (← nextToken n) (some ")")
termination_by structural n => n

/-- what follows `function` -/
def namedFunction : Nat → Reading Command
  | 0 => fail .tooDeep
  | n + 1 => do
    match ← nextToken n with
    | .word w =>
      let name := (plainText? w).getD ""
      match ← nextToken n with
      | .operator "(" => expectOperator ")" n
      | t => putBack t
      skipNewlines n
      functionBody (← get).line name n
    | t => refuse t none
termination_by structural n => n

-- conditions

/-- conditions of which one must hold -/
def eitherTest : Nat → Reading Condition
  | 0 => fail .tooDeep
  | n + 1 => do
    let a ← bothTests n
    match ← nextToken n with
    | .operator "||" => return .either a (← eitherTest n)
    | t =>
      putBack t
      return a
termination_by structural n => n

/-- conditions that must all hold -/
def bothTests : Nat → Reading Condition
  | 0 => fail .tooDeep
  | n + 1 => do
    let a ← oneTest n
    match ← nextToken n with
    | .operator "&&" => return .both a (← bothTests n)
    | t =>
      putBack t
      return a
termination_by structural n => n

/-- a condition in parentheses, from a line on -/
def groupedTest (line : Nat) : Nat → Reading Condition
  | 0 => fail .tooDeep
  | n + 1 => do
    let c ← withReason (line, "expected \x60)'") (eitherTest n)
    match ← nextToken n with
    | .operator ")" =>
      skipNewlines n
      return .grouped c
    | t =>
      match tokenText? t with
      | some text => failCondition t [(line, s!"unexpected token \x60{text}', expected \x60)'")]
      | none => failCondition t [(line, "expected \x60)'")]
termination_by structural n => n

def oneTest : Nat → Reading Condition
  | 0 => fail .tooDeep
  | n + 1 => do
    skipNewlines n
    let t ← nextToken n
    let line := (← get).line
    if isKeyword "!" t then return .negated (← oneTest n)
    if isKeyword "]]" t then failCondition t []
    match t with
    | .operator "(" => groupedTest line n
    | .word w =>
      match (plainText? w).filter isUnaryTest with
      | some op =>
        match ← nextToken n with
        | .word operand =>
          if plainText? operand = some "]]" then
            refuseOperand "unary" (.word operand)
          skipNewlines n
          return .unary op operand
        | t => refuseOperand "unary" t
      | none => testWith w n
    | t =>
      let text := (tokenText? t).getD ""
      failCondition t [(line, s!"unexpected token \x60{text}' in conditional command")]
termination_by structural n => n

/-- a condition that starts with a word -/
def testWith (left : Word) : Nat → Reading Condition
  | 0 => fail .tooDeep
  | n + 1 => do
    let operand (hasGroups : Bool) : Reading Word := do
      let s ← get
      set { s with hasGroups }
      let t ← nextToken n
      modify fun s' => { s' with hasGroups := s.hasGroups }
      match t with
      | .word w =>
        if plainText? w = some "]]" then refuseOperand "binary" t
        return w
      | t => refuseOperand "binary" t
    let binary (op : String) (right : Word) : Reading Condition := do
      skipNewlines n
      return .binary op left right
    let t ← nextToken n
    let s ← get
    match t, tokenText? t with
    | .operator "<", _ => binary "<" (← operand false)
    | .operator ">", _ => binary ">" (← operand false)
    | .word w, _ =>
      match plainText? w with
      | some "=~" =>
        let right ← regexOperand n
        if right.isEmpty then refuseOperand "binary" (← nextToken n)
        if plainText? right = some "]]" then refuseOperand "binary" (.word right)
        binary "=~" right
      | some "]]" =>
        putBack t
        return .unary "-n" left
      | some op =>
        if comparisons.contains op then binary op (← operand true)
        else failCondition t [(s.line, "conditional binary operator expected")]
      | none => failCondition t [(s.line, "conditional binary operator expected")]
    | .newline, _ =>
      failCondition t [(s.tokenLine, "unexpected token \x60newline', conditional binary operator expected")]
    | t, text? =>
      let ends := match t with
        | .operator "&&" => true
        | .operator "||" => true
        | .operator ")" => true
        | _ => false
      if ends then
        putBack t
        return .unary "-n" left
      let text := text?.getD ""
      failCondition t [(s.line, s!"unexpected token \x60{text}', conditional binary operator expected")]
termination_by structural n => n

/-- a regular expression: blanks in its parentheses belong to it -/
def regexOperand : Nat → Reading Word
  | 0 => fail .tooDeep
  | n + 1 => do
    skip (blanks (← peek))
    rawly (regexPieces n)
termination_by structural n => n

/-- the pieces of a regular expression -/
def regexPieces : Nat → Reading Word
  | 0 => fail .tooDeep
  | n + 1 => do
    let s ← get
    let w ← wordPieces (list n) (fun c => regexStops c || c == '(') s.bound
    match ← peek with
    | '(' :: _ =>
      skip 1
      let inside ← group (list n) s.bound
      return w ++ .plain "(" :: inside ++ .plain ")" :: (← regexPieces n)
    | _ => return w
termination_by structural n => n

end

/-- a number of calls that reading a text never needs -/
def bound (length : Nat) : Nat := 16 * length + 64

/-- the commands of the next line; none at the end of the text -/
def line : Reading (Option Command) := do
  let n := (← get).bound
  match ← nextToken n with
  | .finish => return none
  | .newline => return some .nothing
  | t =>
    putBack t
    let before ← get
    return some (← restOfLine before (← andOr n) n)

end Reading

/-- a source that starts with a line of the given number -/
def Source.ofText (text : List Char) (line : Nat) (isExtended : Bool) : Source :=
  -- the last line of the language with extensions always has an end
  let isOpen := isExtended && (text.getLast?.any fun c => c ≠ '\n' && c ≠ '\\')
  let complete := if isOpen then text ++ ['\n'] else text
  {
  rest := complete
  line := line
  lineStart := complete
  removed := 0
  ahead := none
  tokenStart := complete
  tokenLine := line
  tokenLineStart := complete
  endless := []
  isRaw := false
  rewritten := []
  isExtended := isExtended
  hasGroups := false
  aliases := []
  replacing := []
  afterBlank := none
  bound := Reading.bound complete.length }

/-- read the commands of the next line; what is left starts on the line after it -/
def nextLine (s : Source) : Except ScriptFault (Option (Command × Source)) := do
  match ← Reading.line.run { s with bound := Reading.bound s.rest.length, endless := [] } with
  | (some c, s) => return some (c, s)
  | (none, _) => return none

end PatternBuild.Shell
