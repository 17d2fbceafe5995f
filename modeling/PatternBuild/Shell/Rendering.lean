import PatternBuild.Shell.Script

/-!
# Texts and commands written for a shell to read
-/

/-!
## Quoting: texts that a shell can read back

The plain language knows one way to quote a text, in single quotes.  The language with extensions
quotes with backslashes, single or double quotes, and texts with control characters behind a dollar
sign.
-/

namespace PatternBuild.Shell

/-- the quotes in front of a text between double quotes, and the others between single quotes -/
def inSingles : Nat → List Char → List Char
  | 0, _ => []
  | n + 1, cs =>
    let run := cs.takeWhile (· ≠ '\'')
    let rest := cs.drop run.length
    let quotes := rest.takeWhile (· = '\'')
    let after := rest.drop quotes.length
    '\'' :: run ++ ['\''] ++ (if quotes.isEmpty then [] else '"' :: quotes ++ ['"']) ++
      if after.isEmpty then [] else inSingles n after

/-- a text in quotes, as the plain language shows it -/
def inQuotes (text : String) : String :=
  String.ofList (inSingles (text.length + 1) text.toList)

/-- whether a character has to be spelled to be shown -/
def isHidden (c : Char) : Bool := c.toNat < 32 || 127 ≤ c.toNat

/-- an octet by three octal digits -/
def octalDigits (n : Nat) : List Char :=
  [n / 64, n / 8 % 8, n % 8].map fun d => Char.ofNat ('0'.toNat + d)

/-- a character as it is spelled behind a dollar sign -/
def spelled (c : Char) : List Char :=
  match c.toNat with
  | 7 => ['\\', 'a']
  | 8 => ['\\', 'b']
  | 9 => ['\\', 't']
  | 10 => ['\\', 'n']
  | 11 => ['\\', 'v']
  | 12 => ['\\', 'f']
  | 13 => ['\\', 'r']
  | 27 => ['\\', 'E']
  | n =>
    if c == '\'' || c == '\\' then ['\\', c]
    else if isHidden c then '\\' :: octalDigits n
    else [c]

/-- a text behind a dollar sign -/
def behindDollar (text : String) : String :=
  "$'" ++ String.ofList (text.toList.flatMap spelled) ++ "'"

/-- a text in single quotes -/
def inSingleQuotes (text : String) : String :=
  "'" ++ "'\\''".intercalate (text.splitOn "'") ++ "'"

/-- a text in quotes, as the language with extensions shows it -/
def inWideQuotes (text : String) : String :=
  if text.toList.any isHidden then behindDollar text else inSingleQuotes text

/-- a text between double quotes -/
def inWideDoubleQuotes (text : String) : String :=
  if text.toList.any isHidden then behindDollar text
  else
    let escaped (c : Char) : List Char :=
      if c == '"' || c == '\\' || c == '$' || c == '\x60' then ['\\', c] else [c]
    "\"" ++ String.ofList (text.toList.flatMap escaped) ++ "\""

/-- characters that have a meaning in scripts -/
def specialChars : List Char := " \t\n'\"\\|&;()<>!\x7b\x7d*[]?^$\x60".toList

/-- a text with backslashes in front of the characters that have a meaning -/
def withBackslashes (text : String) : String :=
  if text = "" then "''"
  else if text.toList.any isHidden then behindDollar text
  else
    let cs := text.toList
    let escaped (c : Char) : List Char :=
      if specialChars.contains c || c == ',' then ['\\', c] else [c]
    let isMarked := cs.head? == some '~' || cs.head? == some '#'
    String.ofList ((if isMarked then ['\\'] else []) ++ cs.flatMap escaped)

/-- a text in quotes if it needs them -/
def asNeeded (text : String) : String :=
  if text.toList.any isHidden then behindDollar text
  else if text.toList.any specialChars.contains || text.toList.head? == some '~' ||
      text.toList.head? == some '#' then inSingleQuotes text
  else text

end PatternBuild.Shell

/-!
## Rendering: commands as text

The language with extensions shows commands in a form of its own, whatever they were written like.
It is made from raw commands, which are read with their words as they are written: such a word is one
plain piece, and so is a redirection, behind whose piece the body of an inline text may follow.
-/

namespace PatternBuild.Shell

/-- a text in the making -/
structure Rendering where
  /-- what is there, the last character first -/
  done : List Char
  indentation : Nat
  /-- by how much parts of commands are indented -/
  indentStep : Nat
  /-- how many of the next commands go on with the line -/
  skips : Nat
  /-- inline texts that wait for the end of the line -/
  waiting : List String
  /-- an inline text was shown -/
  wasInline : Bool
  /-- how many commands are open that join others -/
  joins : Nat
  inFunction : Bool
  /-- what is shown stands for what a command prints -/
  inOutput : Bool

/-- makes a text -/
abbrev Renders := StateM Rendering Unit

namespace Rendering

def none : Rendering := ⟨[], 0, 4, 0, [], false, 0, false, false⟩

def text (r : Rendering) : String := String.ofList r.done.reverse

/-- add a text -/
def emit (text : String) : Renders := modify fun r => { r with done := text.toList.reverse ++ r.done }

/-- start a command, on a line of its own unless the line goes on -/
def startCommand : Renders := modify fun r =>
  if r.skips = 0 then { r with done := List.replicate r.indentation ' ' ++ r.done }
  else { r with skips := r.skips - 1 }

def goOn : Renders := modify fun r => { r with skips := r.skips + 1 }

def indent : Renders := modify fun r => { r with indentation := r.indentation + r.indentStep }

def unindent : Renders := modify fun r => { r with indentation := r.indentation - r.indentStep }

/-- start a line -/
def newline (text : String) : Renders := do
  modify fun r => { r with done := List.replicate r.indentation ' ' ++ '\n' :: r.done }
  emit text

/-- a semicolon, where one may stand -/
def semicolon : Renders := modify fun r =>
  match r.done with
  | '&' :: _ => r
  | '\n' :: _ => r
  | done => { r with done := ';' :: done }

/-- show inline texts -/
def inlineTexts (bodies : List String) : Renders := do
  emit "\n"
  for body in bodies do emit (body ++ "\n")
  modify fun r => { r with wasInline := true }

/-- show a separator, and the inline texts that wait for it -/
def flush (separator : String) : Renders := do
  let isShown := separator ≠ "" && separator ≠ ";"
  if isShown then emit separator
  let bodies := (← get).waiting
  if !bodies.isEmpty then
    inlineTexts bodies
    if isShown then emit " "
    modify fun r => { r with waiting := [] }

/-- show the inline texts that wait -/
def settle : Renders := do if !(← get).waiting.isEmpty then flush ""

/-- a word as it is written -/
def wordText (w : Word) : String := (plainText? w).getD ""

def wordsText (ws : List Word) : String := " ".intercalate (ws.map wordText)

/-- an assignment as it is written -/
def assignmentText : Assignment → String
  | .mk name _ isAppended value =>
    let text := match value with
      | [.elements items] => "(" ++ wordsText items ++ ")"
      | value => wordText value
    name ++ (if isAppended then "+=" else "=") ++ text

/-- an argument as it is written -/
def argumentText (w : Word) : String :=
  match w with
  | [.plain text, .elements items] => text ++ "(" ++ wordsText items ++ ")"
  | w => wordText w

/-- the word of a raw redirection: all of it as it is shown, and the body of an inline text -/
def redirectWord (name : Option DescriptorName) (op : String) (w : Word) : Word :=
  let usual : Nat := if op.startsWith ">" || op = "<>" then 1 else 0
  let isCopy := op = "<&" || op = ">&"
  let isInline := op = "<<" || op = "<<-"
  let target := wordText (w.take 1)
  let isFile := op = ">&" && name.isNone && target.toList.head?.any fun c =>
    c ≠ '-' && !c.isDigit && c ≠ '$' && c ≠ '\x60'
  let front := match name with
    | some (.variable x) => "\x7b" ++ x ++ "\x7d"
    | some (.number n) => if isCopy || n ≠ usual then toString n else ""
    | Option.none => if op = "<>" then "0" else if isCopy && !isFile then toString usual else ""
  let op := if op = "<&" && target = "-" then ">&" else op
  let shown := front ++ op ++ (if isCopy || isInline then "" else " ") ++ target
  .plain shown :: w.drop 1

/-- redirections; their inline texts wait if commands are joined -/
def redirections (rs : List Redirect) : Renders := do
  modify fun r => { r with wasInline := false }
  let heads := rs.map fun
    | .mk _ _ (.plain text :: _) => text
    | _ => ""
  let bodies := rs.filterMap fun
    | .mk _ _ [_, .quoted body] => some body
    | _ => Option.none
  emit (" ".intercalate heads)
  if !bodies.isEmpty then
    if 0 < (← get).joins then modify fun r => { r with waiting := bodies } else inlineTexts bodies

/-- what stands behind a command in a list -/
inductive Connector where
  | ending
  | semicolon
  | newline
  | background
  deriving DecidableEq, Repr

/-- the commands of a list, each with what stands behind it -/
def partsOf : Command → List (Command × Connector)
  | .sequence a b =>
    let (rest, isLine) := match b with
      | .sequence .nothing b => (partsOf b, true)
      | b => (partsOf b, false)
    match a with
    | .background _ a => (a, .background) :: rest
    | a => (a, if isLine then .newline else .semicolon) :: rest
  | .background _ a => [(a, .background)]
  | c => [(c, .ending)]

/-- a condition as it is shown -/
def conditionText : Condition → String
  | .unary op word => op ++ " " ++ wordText word
  | .binary op left right => wordText left ++ " " ++ op ++ " " ++ wordText right
  | .negated c => "! " ++ conditionText c
  | .both a b => conditionText a ++ " && " ++ conditionText b
  | .either a b => conditionText a ++ " || " ++ conditionText b
  | .grouped c => "( " ++ conditionText c ++ " )"

/-- the head of a loop over words -/
def loopHead (start name : String) (words : Option (List Word)) : String :=
  start ++ " " ++ name ++ " in " ++ (words.map wordsText).getD "\"$@\""

/-- words of the language itself, which name a function only behind another one -/
def isReservedName (name : String) : Bool :=
  ["!", "case", "coproc", "do", "done", "elif", "else", "esac", "fi", "for", "function", "if", "in", "select",
    "then", "time", "until", "while", "\x7b", "\x7d", "[[", "]]"].contains name

mutual

/-- a command, which may start a line -/
def command : Nat → Command → Renders
  | 0, _ => pure ()
  | _ + 1, .nothing => pure ()
  | n + 1, c => do
    startCommand
    body n c
termination_by structural n => n

/-- a command from its first word on -/
def body : Nat → Command → Renders
  | 0, _ => pure ()
  | n + 1, c => do
    match c with
    | .nothing => pure ()
    | .simple _ _ assigns words rs =>
      let shown := assigns.map assignmentText ++ words.map argumentText
      emit (" ".intercalate shown)
      if !rs.isEmpty then
        if !shown.isEmpty then emit " "
        redirections rs
    | .pipeline stages =>
      modify fun r => { r with joins := r.joins + 1 }
      stagesText n stages
      modify fun r => { r with joins := r.joins - 1 }
    | .negated c =>
      emit "! "
      body n c
    | .timed isPlain c =>
      emit (if isPlain then "time -p " else "time ")
      body n c
    | .andThen a b => joined n a " && " b
    | .orElse a b => joined n a " || " b
    | .sequence _ _ => list n (partsOf c)
    | .background _ _ => list n (partsOf c)
    | .choice test yes no =>
      emit "if "
      goOn
      command n test
      settle
      semicolon
      emit " then\n"
      indent
      command n yes
      settle
      unindent
      match no with
      | .nothing => pure ()
      | no =>
        semicolon
        newline "else\n"
        indent
        command n no
        settle
        unindent
      semicolon
      newline "fi"
    | .loop ending test inner =>
      emit (if ending then "until " else "while ")
      goOn
      command n test
      settle
      semicolon
      emit " do\n"
      indent
      command n inner
      settle
      unindent
      semicolon
      newline "done"
    | .forEach _ _ name words inner =>
      emit (loopHead "for" name words ++ ";")
      loopBody n inner
    | .counting _ start test step inner =>
      let part (w : Word) : String :=
        let text := String.ofList ((wordText w).toList.dropWhile fun c => c == ' ' || c == '\t')
        if text = "" then "1" else text
      emit ("for ((" ++ part start ++ "; " ++ part test ++ "; " ++ part step ++ "))")
      loopBody n inner
    | .menu name words inner =>
      emit (loopHead "select" name words ++ ";")
      loopBody n inner
    | .select _ _ word arms =>
      emit ("case " ++ wordText word ++ " in ")
      indent
      armsText n arms
      unindent
      newline "esac"
    | .subshell c =>
      emit "( "
      goOn
      command n c
      settle
      emit " )"
    | .group c =>
      emit "\x7b "
      let isLong := (← get).inFunction
      if isLong then
        emit "\n"
        indent
      else goOn
      command n c
      settle
      if isLong then
        unindent
        newline ""
      else
        semicolon
        emit " "
      emit "\x7d"
    | .coprocess _ name c =>
      emit s!"coproc {name} "
      goOn
      command n c
    | .redirected _ c rs =>
      body n c
      emit " "
      redirections rs
    | .function name _ c =>
      emit s!"function {name} () \n"
      modify fun r => { r with done := List.replicate r.indentation ' ' ++ r.done }
      emit "\x7b \n"
      functionBody n c
    | .condition _ _ test => emit ("[[ " ++ conditionText test ++ " ]]")
    | .compute _ _ expression => emit ("((" ++ wordText expression ++ "))")
termination_by structural n => n

/-- the body of a function behind its opening brace -/
def functionBody : Nat → Command → Renders
  | 0, _ => pure ()
  | n + 1, c => do
    let isInner := (← get).inFunction
    modify fun r => { r with inFunction := true }
    indent
    let (inner, rs) := match c with
      | .group c => (c, [])
      | .redirected _ (.group c) rs => (c, rs)
      | c => (c, [])
    command n inner
    settle
    unindent
    modify fun r => { r with inFunction := isInner }
    if rs.isEmpty then newline "\x7d"
    else
      newline "\x7d "
      redirections rs
termination_by structural n => n

/-- the commands of a list -/
def list : Nat → List (Command × Connector) → Renders
  | 0, _ => pure ()
  | n + 1, parts => do
    modify fun r => { r with joins := r.joins + 1 }
    goOn
    listParts n parts true
    modify fun r => { r with joins := r.joins - 1 }
termination_by structural n => n

/-- commands with what stands behind them -/
def listParts : Nat → List (Command × Connector) → Bool → Renders
  | 0, _, _ => pure ()
  | _ + 1, [], _ => pure ()
  | n + 1, (c, connector) :: rest, isFirst => do
    command n c
    if !isFirst then settle
    match connector with
    | .ending => pure ()
    | .background =>
      flush " &"
      if !rest.isEmpty then
        emit " "
        goOn
    | connector =>
      let r ← get
      let isLine := connector = .newline && r.inOutput
      let wasLine := isLine && r.waiting.isEmpty && !r.wasInline
      if !r.waiting.isEmpty then flush (if r.inFunction then "" else ";")
      else if !r.wasInline then emit (if isLine then "\n" else ";")
      else modify fun r => { r with wasInline := false }
      if r.inFunction then emit "\n"
      else if isLine && !wasLine then emit "\n"
      else
        if !isLine then emit " "
        goOn
    listParts n rest false
termination_by structural n => n

/-- two commands of which the second depends on the first -/
def joined : Nat → Command → String → Command → Renders
  | 0, _, _, _ => pure ()
  | n + 1, a, separator, b => do
    modify fun r => { r with joins := r.joins + 1 }
    goOn
    command n a
    flush separator
    goOn
    command n b
    settle
    modify fun r => { r with joins := r.joins - 1 }
termination_by structural n => n

/-- commands joined by pipes -/
def stagesText : Nat → List Command → Renders
  | 0, _ => pure ()
  | _ + 1, [] => pure ()
  | n + 1, c :: rest => do
    goOn
    command n c
    if !rest.isEmpty then
      flush " |"
      emit " "
      stagesText n rest
    else settle
termination_by structural n => n

/-- the body of a loop -/
def loopBody : Nat → Command → Renders
  | 0, _ => pure ()
  | n + 1, c => do
    newline "do\n"
    indent
    command n c
    settle
    semicolon
    unindent
    newline "done"
termination_by structural n => n

/-- the arms of a selection -/
def armsText : Nat → List (List Word × Command × ArmEnd) → Renders
  | 0, _ => pure ()
  | _ + 1, [] => pure ()
  | n + 1, (patterns, inner, ending) :: rest => do
    newline ""
    emit (" | ".intercalate (patterns.map wordText) ++ ")\n")
    indent
    command n inner
    unindent
    settle
    newline (match ending with
      | .leave => ";;"
      | .fallThrough => ";&"
      | .goOn => ";;&")
    armsText n rest
termination_by structural n => n

end

/-- a raw command as text; `n` bounds how deep its parts are nested -/
def ofCommand (n : Nat) (c : Command) : String := (((command n c).run none).2).text

/-- a raw command whose output is asked for, as text -/
def ofOutput (n : Nat) (c : Command) : String :=
  let text := (((command n c).run { none with inOutput := true }).2).text
  if text.startsWith "(" then " " ++ text else text

/-- a function with a raw body, as text of several lines -/
def ofFunction (n : Nat) (name : String) (c : Command) : String :=
  let start := (if isReservedName name then "function " else "") ++ name ++ " () \n\x7b \n"
  (((do emit start; functionBody n c : Renders).run none).2).text

/-- the text of a raw command that is told while it runs: all of a simple one, the head of others -/
def ofHead (n : Nat) : Command → String
  | .forEach _ _ name words _ => loopHead "for" name words
  | .select _ _ word _ => "case " ++ wordText word ++ " in "
  | .menu name words _ => loopHead "select" name words
  | .redirected _ (.simple a b c d e) _ => ofCommand n (.simple a b c d e)
  | .redirected _ c _ => ofHead n c
  | .simple a b c d e => ofCommand n (.simple a b c d e)
  | .condition a b c => ofCommand n (.condition a b c)
  | .compute a b c => ofCommand n (.compute a b c)
  | .coprocess a b c => ofCommand n (.coprocess a b c)
  | _ => ""

end Rendering

end PatternBuild.Shell
