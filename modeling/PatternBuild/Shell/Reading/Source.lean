import PatternBuild.Shell.Rendering
import PatternBuild.Text.Blank

/-!
# Where scripts are read from

The text that is still to be read, and what is told where it makes no sense.
-/

/-!
## Sources: the text of a script while it is read

A source is the text that is still to be read with the number of its first line.  `token` splits
blanks and operators off; the pieces of a word are read by the function it is given.
-/

namespace PatternBuild.Shell

/-- why a text is no script -/
inductive ScriptProblem where
  | unexpected (what : String) (expected : Option String)
  /-- the text ends before something that it opened -/
  | unclosed (what : String)
  /-- the text ends inside the elements of an array -/
  | unclosedElements
  /-- a condition is wrong for some reasons, each with its line; the text near which it was found is
  missing at the end of the script -/
  | badCondition (reasons : List (Nat × String)) (near : Option String)
  | badSubstitution
  | badDescriptor
  | badLoopName (name : String)
  | badFunctionName (name : String)
  | tooDeep
  deriving DecidableEq, Repr

/-- a problem and the line where it was found -/
structure ScriptFault where
  line : Nat
  problem : ScriptProblem
  /-- the text of that line -/
  text : String
  deriving DecidableEq, Repr

/-- a unit of the text of a script -/
inductive Token where
  | operator (text : String)
  | word (word : Word)
  /-- the descriptor before a redirection -/
  | descriptor (name : DescriptorName)
  | newline
  | finish

/-- what is still to be read -/
structure Source where
  rest : List Char
  /-- the number of the line where the rest starts -/
  line : Nat
  /-- the text from the start of that line on -/
  lineStart : List Char
  /-- how many lines were taken out from behind the current one -/
  removed : Nat
  /-- a token read ahead -/
  ahead : Option Token
  /-- the text from the start of the last token on, with the line of that and its text from its start on -/
  tokenStart : List Char
  tokenLine : Nat
  tokenLineStart : List Char
  /-- whether words are kept as they are written -/
  isRaw : Bool
  /-- parts of a raw word that are written in another way, the latest first: how much text was left in
  front of each, what is left behind it, and its new text -/
  rewritten : List (Nat × List Char × String)
  /-- whether the language has its extensions -/
  isExtended : Bool
  /-- whether patterns in parentheses belong to words -/
  hasGroups : Bool
  /-- texts in place of command names -/
  aliases : List (String × String)
  /-- aliases in whose text the reader is, each with the length of what follows that text -/
  replacing : List (String × Nat)
  /-- the length of what follows the text of an alias that ends in a blank -/
  afterBlank : Option Nat
  /-- inline texts without an end: the last line, the line where each starts, and what would end it -/
  endless : List (Nat × Nat × String)
  /-- a number of calls that reading never needs -/
  bound : Nat

/-- a reader of a source -/
abbrev Reading := StateT Source (Except ScriptFault)

namespace Reading

/-- stop reading -/
def fail {α : Type} (p : ScriptProblem) : Reading α := do
  let s ← get
  throw ⟨s.line, p, String.ofList (s.lineStart.takeWhile (· ≠ '\n'))⟩

/-- stop reading because something that starts at a line has no end -/
def failFrom {α : Type} (line : Nat) (p : ScriptProblem) : Reading α := do
  let s ← get
  throw ⟨if s.isExtended then line else s.line, p, String.ofList (s.lineStart.takeWhile (· ≠ '\n'))⟩

/-- read something whose missing end is blamed on the line where it starts, by the language with
extensions -/
def blaming {α : Type} (line : Nat) (closer : String) (r : Reading α) : Reading α := fun s =>
  match r.run s with
  | .error f => .error (if s.isExtended && f.problem = .unclosed closer then { f with line } else f)
  | done => done

/-- read commands in parentheses: for the language with extensions it is those that have no end -/
def inParentheses {α : Type} (r : Reading α) : Reading α := fun s =>
  match r.run s with
  | .error f =>
    let isEnd := match f.problem with
      | .unexpected what _ => what = "end of file"
      | _ => false
    .error (if s.isExtended && isEnd then { f with problem := .unclosed ")" } else f)
  | done => done

/-- the text in front of the reader -/
def peek : Reading (List Char) := do return (← get).rest

def isExtended : Reading Bool := do return (← get).isExtended

/-- the text from the start of the line on that is reached after some characters -/
def lineAfter : Nat → List Char → List Char → List Char
  | n + 1, '\n' :: cs, _ => lineAfter n cs cs
  | n + 1, _ :: cs, start => lineAfter n cs start
  | _, _, start => start

/-- go past some characters -/
def skip (n : Nat) : Reading Unit := modify fun s =>
  let newlines := (s.rest.take n).count '\n'
  let removed := if newlines = 0 then 0 else s.removed
  { s with
    rest := s.rest.drop n
    line := s.line + newlines + removed
    lineStart := if newlines = 0 then s.lineStart else lineAfter n s.rest s.lineStart
    removed := s.removed - removed }

/-- take the characters in front that satisfy `p` -/
def takeRun (p : Char → Bool) : Reading String := do
  let run := (← peek).takeWhile p
  skip run.length
  return String.ofList run

/-- note that what was read since there were so many characters left is written in another way -/
def rewrite (start : Nat) (text : String) : Reading Unit := modify fun s =>
  if s.isRaw then { s with rewritten := (start, s.rest, text) :: s.rewritten } else s

/-- the text of a raw word in front of the last `stop` characters, with its parts written anew -/
def rawText (stop : Nat) : List Char → List (Nat × List Char × String) → List Char
  | cs, [] => cs.take (cs.length - stop)
  | cs, (start, rest, text) :: more =>
    cs.take (cs.length - start) ++ text.toList ++ rawText stop rest more

/-- read a word; one that is kept as it is written is a plain piece -/
def rawly (r : Reading Word) : Reading Word := do
  let s ← get
  if !s.isRaw then r
  else
    set { s with rewritten := [] }
    discard r
    let after ← get
    set { after with rewritten := s.rewritten }
    let text := rawText after.rest.length s.rest after.rewritten.reverse
    return if text.isEmpty then [] else [.plain (String.ofList text)]

/-- what is read where the reader was in another state, kept as it is written; the reader stays where
it is -/
def rawFrom? {α : Type} (s : Source) (r : Reading α) : Reading (Option α) := do
  if s.isRaw || !s.isExtended then return none
  let start := if s.ahead.isSome then { s with rest := s.tokenStart, ahead := none } else s
  match r.run { start with isRaw := true, rewritten := [] } with
  | .ok (a, _) => return some a
  | .error _ => return none

/-- what is in front of the reader, kept as it is written -/
def rawAhead? {α : Type} (r : Reading α) : Reading (Option α) := do rawFrom? (← get) r

/-- read another text, then go on with the source -/
def within {α : Type} (text : List Char) (r : Reading α) : Reading α := do
  let outer ← get
  set { outer with rest := text, lineStart := text, removed := 0, ahead := none }
  let a ← r
  set outer
  return a

/-- read, but go back to where it started if that fails -/
def attempt? {α : Type} (r : Reading α) : Reading (Option α) := do
  let s ← get
  match r.run s with
  | .ok (a, s) =>
    set s
    return some a
  | .error _ => return none

/-! ### characters with a meaning -/

def isBlankChar (c : Char) : Bool := c == ' ' || c == '\t'

/-- whether a character outside quotes ends a word -/
def endsWord (c : Char) : Bool := isBlankChar c || "\n;&|<>()".toList.contains c

/-- whether a character outside quotes is more than itself -/
def isActive (c : Char) : Bool := "\\'\"$`".toList.contains c

/-- whether a character between double quotes is more than itself -/
def isActiveInDouble (c : Char) : Bool := "\\\"$`".toList.contains c

/-- the operators, longer ones first -/
def operators : List String :=
  ["<<-", "<<", "<&", "<>", "<", ">>", ">&", ">|", ">", "&&", "&", "||", "|", ";;", ";", "(", ")"]

/-- the operators of the language with extensions -/
def moreOperators : List String :=
  ["&>>", "&>", "<<<", "|&", ";;&", ";&"] ++ operators

/-- how many characters in front of a token mean nothing -/
def blanks : List Char → Nat
  | '\\' :: '\n' :: cs => blanks cs + 2
  | '#' :: cs => (cs.takeWhile (· ≠ '\n')).length + 1
  | c :: cs => if isBlankChar c then blanks cs + 1 else 0
  | [] => 0

/-! ### tokens -/

/-- the descriptor in front of a redirection, and how many characters name it -/
def descriptor? (extended : Bool) (cs : List Char) : Option (DescriptorName × Nat) :=
  let leads (cs : List Char) : Bool := match cs with
    | c :: _ => c == '<' || c == '>'
    | [] => false
  let digits := cs.takeWhile Char.isDigit
  if !digits.isEmpty && leads (cs.drop digits.length) then
    some (.number ((String.ofList digits).toNat?.getD 0), digits.length)
  else if extended && cs.head? == some '\x7b' then
    let name := (cs.drop 1).takeWhile isNameChar
    match cs.drop (name.length + 1) with
    | '\x7d' :: after =>
      if isName name && leads after then some (.variable (String.ofList name), name.length + 2)
      else none
    | _ => none
  else none

/-- read a token; words are read by `word` -/
def token (word : Reading Word) : Reading Token := do
  match (← get).ahead with
  | some t =>
    modify fun s => { s with ahead := none }
    return t
  | none =>
    skip (blanks (← peek))
    modify fun s => { s with tokenStart := s.rest, tokenLine := s.line, tokenLineStart := s.lineStart }
    let s ← get
    let cs := s.rest
    let wholeWord : Reading Token := do
      let w ← word
      modify fun after => { after with tokenStart := cs }
      return .word w
    match cs with
    | [] => return .finish
    | '\n' :: _ =>
      skip 1
      return .newline
    | c :: more =>
      if s.isExtended && (c == '<' || c == '>') && more.head? == some '(' then
        return ← wholeWord
      let known := if s.isExtended then moreOperators else operators
      match known.find? (fun op => op.toList.isPrefixOf cs) with
      | some op =>
        skip op.length
        return .operator op
      | none =>
        match descriptor? s.isExtended cs with
        | some (name, width) =>
          skip width
          return .descriptor name
        | none => wholeWord

/-- put a token back -/
def putBack (t : Token) : Reading Unit := modify fun s => { s with ahead := some t }

/-- the words of the language itself -/
def reserved : List String :=
  ["!", "case", "do", "done", "elif", "else", "esac", "fi", "for", "if", "in", "then", "until",
    "while", "\x7b", "\x7d"]

def inDoubleQuotes (text : String) : String := "\"" ++ text ++ "\""

/-- words that end a list of commands -/
def closers : List String := ["then", "else", "elif", "fi", "do", "done", "esac", "\x7d"]

/-- operators that end a list of commands -/
def closingOperators : List String := [")", ";;", ";&", ";;&"]

/-- whether a token ends a list of commands -/
def isCloser : Token → Bool
  | .finish => true
  | .operator op => closingOperators.contains op
  | .word w =>
    match plainText? w with
    | some text => closers.contains text
    | none => false
  | _ => false

/-- how a token is named in a fault -/
def Token.describe (extended : Bool) : Token → String
  | .operator text =>
    if extended then text
    else if text.startsWith "<" || text.startsWith ">" then "redirection" else inDoubleQuotes text
  | .word w =>
    match plainText? w with
    | some text =>
      if extended then text
      else if reserved.contains text then inDoubleQuotes text else "word"
    | none => "word"
  | .descriptor _ => "redirection"
  | .newline => "newline"
  | .finish => "end of file"

/-- refuse a token where something else is expected; the end of a line belongs to that line for the
language with extensions -/
def refuseFor {α : Type} (t : Token) (expected : Option String) : Reading α := do
  match ← isExtended, t with
  | true, .newline => modify fun s => { s with line := s.tokenLine, lineStart := s.tokenLineStart }
  | _, _ => pure ()
  fail (.unexpected (Token.describe (← isExtended) t) expected)

/-- refuse a token -/
def refuse {α : Type} (t : Token) (expected : Option String) : Reading α :=
  refuseFor t (expected.map inDoubleQuotes)

/-- refuse a token in the place of a word -/
def refuseForWord {α : Type} (t : Token) : Reading α := refuseFor t (some "word")

/-- stop reading because the text ends too soon -/
def failAtEnd {α : Type} (what : String) : Reading α := do
  let line := (← get).line
  skip (← peek).length
  failFrom line (.unclosed what)

/-! ### aliases -/

/-- put the text of an alias in place of a word that was just read, if there is one -/
def replaceAlias (w : Word) : Reading Bool := do
  let s ← get
  let length := s.rest.length
  let replacing := s.replacing.filter fun (_, after) => after ≤ length
  match plainText? w with
  | none => return false
  | some name =>
    match s.aliases.lookup name with
    | none => return false
    | some text =>
      if replacing.any (·.1 = name) then return false
      let afterBlank := if text.toList.getLast?.any isBlankChar then some length else s.afterBlank
      set { s with rest := text.toList ++ s.rest, replacing := (name, length) :: replacing, afterBlank,
                   bound := s.bound + 16 * text.length }
      return true

/-- whether the last token comes right behind the text of an alias that ends in a blank; it is asked
once -/
def followsBlank : Reading Bool := do
  let s ← get
  match s.afterBlank with
  | some length =>
    if s.tokenStart.length ≤ length then
      set { s with afterBlank := none }
      return true
    else return false
  | none => return false

/-! ### inline texts -/

/-- the lines up to the delimiter, without it, and how many lines were passed -/
def linesUntil (delimiter : List Char) (strip : Bool) :
    List (List Char) → List (List Char) × Nat
  | [] => ([], 0)
  | l :: ls =>
    let l := if strip then l.dropWhile (· = '\t') else l
    if l = delimiter then ([], 1)
    else
      let (body, n) := linesUntil delimiter strip ls
      (l :: body, n + 1)

/-- take the lines after the current one, up to the delimiter, out of the source -/
def takeInline (delimiter : List Char) (strip : Bool) : Reading (List Char) := do
  let s ← get
  let current := s.rest.takeWhile (· ≠ '\n')
  let after := s.rest.drop (current.length + 1)
  let endlessAt (line : Nat) : List (Nat × Nat × String) :=
    s.endless ++ [(line, s.line, String.ofList delimiter)]
  if after.isEmpty then
    set { s with endless := endlessAt (s.line + s.removed) }
    return []
  let ls := Text.splitOn (· == '\n') after
  let (body, n) := linesUntil delimiter strip ls
  let remaining := ls.drop n
  let isEndless := n = body.length
  let lines := if isEndless ∧ body.getLast? = some [] then body.dropLast else body
  set { s with
    rest := current ++ '\n' :: List.intercalate ['\n'] remaining
    removed := s.removed + n
    endless := if isEndless then endlessAt (s.line + s.removed + lines.length) else s.endless }
  let text := (lines.map (· ++ ['\n'])).flatten
  -- a text that ends without the delimiter still ends its last line for the language with extensions
  return if isEndless && lines.length = body.length && !s.isExtended then text.dropLast else text

end Reading

end PatternBuild.Shell

/-!
## Faults of scripts in words
-/

namespace PatternBuild.Shell

/-- a problem in the words of the plain language -/
def ScriptProblem.plainMessage : ScriptProblem → String
  | .unexpected what none => s!"{what} unexpected"
  | .unexpected what (some e) => s!"{what} unexpected (expecting {e})"
  | .unclosed what =>
    if what = "\x60" then "EOF in backquote substitution"
    else if what = "\x7d" then "Missing '\x7d'"
    else if what = "))" then "Missing '))'"
    else "Unterminated quoted string"
  | .unclosedElements => "Unterminated quoted string"
  | .badCondition _ _ => "Bad condition"
  | .badSubstitution => "Bad substitution"
  | .badDescriptor => "Bad fd number"
  | .badLoopName _ => "Bad for loop variable"
  | .badFunctionName _ => "Bad function name"
  | .tooDeep => "nested too deeply"

/-- a fault in the words of the language with extensions; `origin` tells where the script is from -/
def ScriptFault.wideMessage (origin : String) (f : ScriptFault) : String :=
  let head := s!"{origin}: line {f.line}: "
  match f.problem with
  | .unexpected "end of file" _ => head ++ "syntax error: unexpected end of file\n"
  | .unexpected what _ =>
    head ++ s!"syntax error near unexpected token \x60{what}'\n" ++ head ++ s!"\x60{f.text}'\n"
  | .unclosed what => head ++ s!"unexpected EOF while looking for matching \x60{what}'\n"
  | .unclosedElements => head ++ "unexpected EOF while looking for matching \x60)'\n"
  | .badCondition reasons near =>
    let told := reasons.map fun (line, reason) => s!"{origin}: line {line}: {reason}\n"
    String.join told ++ match near with
      | some word => head ++ s!"syntax error near \x60{word}'\n" ++ head ++ s!"\x60{f.text}'\n"
      | none => head ++ "syntax error: unexpected end of file\n"
  | .badLoopName name => head ++ s!"\x60{name}': not a valid identifier\n"
  | .badFunctionName name => head ++ s!"\x60{name}': not a valid identifier\n"
  | .badSubstitution => head ++ "bad substitution\n"
  | .badDescriptor => head ++ "bad file descriptor\n"
  | .tooDeep => head ++ "syntax error\n"

end PatternBuild.Shell
