import PatternBuild.Shell.Regex

/-!
# Editing scripts

A script is a list of instructions, each with a selector that says for which lines it is carried out.
Blocks and jumps are kept as places in the list: a block knows where it ends, and a jump where its
label stands.  `Script.read` reads a script from its text.
-/

namespace PatternBuild.Shell.Editor

/-! ## instructions -/

/-- an expression with the flags that are written behind it -/
structure LinePattern where
  regex : Regex
  ignoresCase : Bool
  isMultiline : Bool
  deriving Repr

/-- a condition on a line -/
inductive LineAddress where
  | number (n : Nat)
  /-- every so many lines, from the first one on -/
  | every (first step : Nat)
  | last
  /-- lines that match an expression; without one, the last that was used -/
  | matching (pattern : Option LinePattern)
  deriving Repr

/-- where a range of lines ends -/
inductive RangeEnd where
  | address (a : LineAddress)
  /-- so many lines after its start -/
  | after (n : Nat)
  /-- the next line whose number is a multiple -/
  | multiple (n : Nat)
  deriving Repr

/-- the lines that an instruction is for -/
structure Selector where
  first : Option LineAddress
  stop : Option RangeEnd
  isNegated : Bool
  deriving Repr

/-- how letters are changed -/
inductive CaseChange where
  | upper
  | lower
  | nextUpper
  | nextLower
  | none
  deriving DecidableEq, Repr

/-- a part of what is put in the place of a match -/
inductive ReplacementPart where
  | text (cs : List Char)
  | group (n : Nat)
  | recase (change : CaseChange)
  deriving Repr

/-- a replacement of matches -/
structure Substitution where
  pattern : Option LinePattern
  parts : List ReplacementPart
  /-- the number of the match from which on matches are replaced, and whether others follow -/
  number : Nat
  isGlobal : Bool
  prints : Bool
  evaluates : Bool
  target : Option String
  deriving Repr

/-- what is done with a line -/
inductive EditAction where
  /-- the start of a block, with the place behind its end -/
  | block (stop : Nat)
  | blockEnd
  | label (name : String)
  | printNumber
  | append (text : List Char)
  | insert (text : List Char)
  | change (text : List Char)
  | jump (label : String) (stop : Nat)
  /-- a jump that depends on whether something was replaced -/
  | jumpIf (isReplaced : Bool) (label : String) (stop : Nat)
  | delete
  | deleteFirst
  | evaluate (command : Option (List Char))
  | fileName
  | get
  | getAppend
  | hold
  | holdAppend
  | exchange
  | list (width : Option Nat)
  | next
  | nextAppend
  | print
  | printFirst
  | quit (code : Nat) (prints : Bool)
  | readFile (path : String)
  | readLine (path : String)
  | substitute (s : Substitution)
  | transliterate (pairs : List (Char × Char))
  | write (path : String) (firstOnly : Bool)
  | clear
  | nothing
  deriving Repr

structure Instruction where
  selector : Selector
  action : EditAction
  deriving Repr

abbrev Script := Array Instruction

/-- the files that an instruction writes -/
def EditAction.targets : EditAction → List String
  | .write path _ => [path]
  | .substitute s => s.target.toList
  | _ => []

/-! ## texts between marks -/

/-- a value that was read, and what follows it -/
abbrev Rest (α : Type) := α × List Char

def isBlank (c : Char) : Bool := c == ' ' || c == '\t'

def skipBlanks (cs : List Char) : List Char := cs.dropWhile isBlank

/-- the text up to the bracket that closes a set, with it -/
def setText (cs : List Char) : Option (List Char × List Char) :=
  let rec go : Nat → List Char → Option (List Char × List Char)
    | 0, _ => none
    | _ + 1, [] => none
    | _ + 1, ']' :: rest => some ([']'], rest)
    | n + 1, '[' :: k :: rest =>
      if k == ':' || k == '.' || k == '=' then
        -- a class inside of the set
        let inner := classText k rest
        match inner with
        | some (text, after) => (go n after).map fun (a, b) => ('[' :: k :: text ++ a, b)
        | none => (go n (k :: rest)).map fun (a, b) => ('[' :: a, b)
      else (go n (k :: rest)).map fun (a, b) => ('[' :: a, b)
    | n + 1, c :: rest => (go n rest).map fun (a, b) => (c :: a, b)
  let (head, rest) := match cs with
    | '^' :: ']' :: rest => (['^', ']'], rest)
    | '^' :: rest => (['^'], rest)
    | ']' :: rest => ([']'], rest)
    | rest => ([], rest)
  (go (rest.length + 1) rest).map fun (a, b) => (head ++ a, b)
where
  /-- the text of a class up to its end -/
  classText (k : Char) : List Char → Option (List Char × List Char)
    | c :: ']' :: rest =>
      if c == k then some ([c, ']'], rest)
      else (classText k (']' :: rest)).map fun (a, b) => (c :: a, b)
    | c :: rest => if c == '\n' then none else (classText k rest).map fun (a, b) => (c :: a, b)
    | [] => none

/-- the text up to a mark that no backslash stands before, and what follows; the mark counts as
itself inside of the sets of an expression -/
def upToMark (mark : Char) (isRegex : Bool) : Nat → List Char → Option (List Char × List Char)
  | 0, _ => none
  | _ + 1, [] => none
  | n + 1, c :: cs =>
    if c == mark then some ([], cs)
    else if c == '\\' then
      match cs with
      | [] => none
      | x :: rest =>
        let kept : List Char :=
          if x == mark then (if !isRegex && x == '&' then ['\\', x] else [x])
          else if x == 'n' && isRegex then ['\n']
          else if x == '\n' && isRegex then ['\n']
          else ['\\', x]
        (upToMark mark isRegex n rest).map fun (a, b) => (kept ++ a, b)
    else if c == '\n' && isRegex then none
    else if c == '[' && isRegex then
      match setText cs with
      | some (inner, rest) => (upToMark mark isRegex n rest).map fun (a, b) => ('[' :: inner ++ a, b)
      | none => none
    else (upToMark mark isRegex n cs).map fun (a, b) => (c :: a, b)

/-- the number in front of a text -/
def readNumber (cs : List Char) : Option Nat × List Char :=
  let digits := cs.takeWhile Char.isDigit
  (numeral? 10 digits, cs.drop digits.length)

/-- the exit code that a number means, of which 32 bits count; all of them being set means none -/
def exitCode (n : Nat) : Nat := if n % 4294967296 = 4294967295 then 0 else n % 256

/-- the expression that a text writes; an empty text means the last one that was used -/
def readPattern (isExtended : Bool) (text : List Char) (ignoresCase isMultiline : Bool) :
    Except String (Option LinePattern) :=
  if text.isEmpty then .ok none
  else match Regex.read (.editor isExtended) text with
    | .ok regex => .ok (some ⟨regex, ignoresCase, isMultiline⟩)
    | .error fault => .error fault.message

/-! ## addresses -/

/-- the flags behind an expression of an address -/
def addressFlags : List Char → Bool × Bool × List Char
  | 'I' :: cs =>
    let (_, m, rest) := addressFlags cs
    (true, m, rest)
  | 'M' :: cs =>
    let (i, _, rest) := addressFlags cs
    (i, true, rest)
  | cs => (false, false, cs)

/-- an address, if there is one -/
def readAddress (isExtended : Bool) (cs : List Char) : Except String (Rest (Option LineAddress)) := do
  let matching (mark : Char) (rest : List Char) : Except String (Rest (Option LineAddress)) := do
    match upToMark mark true (rest.length + 1) rest with
    | none => throw "unterminated address regex"
    | some (text, rest) =>
      let (i, m, rest) := addressFlags rest
      return (some (.matching (← readPattern isExtended text i m)), rest)
  match cs with
  | '$' :: rest => return (some .last, rest)
  | '/' :: rest => matching '/' rest
  | '\\' :: mark :: rest => matching mark rest
  | cs =>
    match readNumber cs with
    | (none, cs) => return (none, cs)
    | (some n, rest) =>
      match skipBlanks rest with
      | '~' :: more =>
        let (step, rest) := readNumber (skipBlanks more)
        return (some (.every n (step.getD 0)), rest)
      | _ => return (some (.number n), rest)

/-- the selector in front of an instruction -/
def readSelector (isExtended : Bool) (cs : List Char) : Except String (Rest Selector) := do
  let (first, cs) ← readAddress isExtended cs
  let cs := skipBlanks cs
  let (stop, cs) ← (match first, cs with
    | some _, ',' :: rest =>
      match skipBlanks rest with
      | '+' :: rest =>
        match readNumber rest with
        | (some n, rest) => Except.ok (some (RangeEnd.after n), rest)
        | (none, _) => .error "expected number"
      | '~' :: rest =>
        match readNumber rest with
        | (some n, rest) => .ok (some (.multiple n), rest)
        | (none, _) => .error "expected number"
      | rest => do
        match ← readAddress isExtended rest with
        | (some a, rest) => return (some (.address a), rest)
        | (none, _) => throw "unexpected \x60,'"
    | none, ',' :: _ => .error "unexpected \x60,'"
    | _, cs => .ok (none, cs) : Except String (Rest (Option RangeEnd)))
  match first, stop with
  | some (.number 0), some (.address (.matching _)) => pure ()
  | some (.number 0), _ => throw "invalid usage of line address 0"
  | _, _ => pure ()
  let cs := skipBlanks cs
  match cs with
  | '!' :: rest =>
    let rest := skipBlanks rest
    if rest.head? == some '!' then throw "multiple \x60!'s"
    return (⟨first, stop, true⟩, rest)
  | cs => return (⟨first, stop, false⟩, cs)

/-! ## texts of instructions -/

/-- a text that is added: up to a line feed without a backslash in front -/
def readText : Nat → List Char → List Char × List Char
  | 0, cs => ([], cs)
  | _ + 1, [] => (['\n'], [])
  | _ + 1, '\n' :: cs => (['\n'], cs)
  | n + 1, '\\' :: cs =>
    match cs with
    | [] => (['\n'], [])
    | '\n' :: rest =>
      let (a, b) := readText n rest
      ('\n' :: a, b)
    | cs =>
      match Regex.letter? cs with
      | some (c, rest) =>
        let (a, b) := readText n rest
        (c :: a, b)
      | none =>
        let (a, b) := readText n (cs.drop 1)
        (cs.take 1 ++ a, b)
  | n + 1, c :: cs =>
    let (a, b) := readText n cs
    (c :: a, b)

/-- the text behind `a`, `i` or `c` -/
def readAdded (cs : List Char) : Except String (List Char × List Char) :=
  let text (cs : List Char) : List Char × List Char := readText (cs.length + 1) cs
  match skipBlanks cs with
  | [] => .error "expected \\ after \x60a', \x60c' or \x60i'"
  | ['\\'] => .ok ([], [])
  | '\\' :: rest =>
    match skipBlanks rest with
    | '\n' :: more => .ok (if more.isEmpty then ([], []) else text more)
    | _ => .ok (text rest)
  | '\n' :: _ => .error "expected \\ after \x60a', \x60c' or \x60i'"
  | rest => .ok (text rest)

/-- the name up to the end of a line -/
def readName (cs : List Char) : String × List Char :=
  let name := (skipBlanks cs).takeWhile (· ≠ '\n')
  (String.ofList name, (skipBlanks cs).drop name.length)

/-- the label behind a jump -/
def readLabel (cs : List Char) : String × List Char :=
  let cs := skipBlanks cs
  let name := cs.takeWhile fun c => !(isBlank c || c == '\n' || c == ';')
  (String.ofList name, cs.drop name.length)

/-- the parts of a replacement -/
def replacementParts : Nat → List Char → List ReplacementPart
  | 0, _ => []
  | _ + 1, [] => []
  | n + 1, '&' :: cs => .group 0 :: replacementParts n cs
  | n + 1, '\\' :: c :: cs =>
    if c.isDigit then .group (c.toNat - 48) :: replacementParts n cs
    else match c with
      | 'U' => .recase .upper :: replacementParts n cs
      | 'L' => .recase .lower :: replacementParts n cs
      | 'u' => .recase .nextUpper :: replacementParts n cs
      | 'l' => .recase .nextLower :: replacementParts n cs
      | 'E' => .recase .none :: replacementParts n cs
      | c =>
        match Regex.letter? (c :: cs) with
        | some (x, rest) => .text [x] :: replacementParts n rest
        | none => .text [c] :: replacementParts n cs
  | n + 1, c :: cs =>
    let run := (c :: cs).takeWhile fun c => c != '&' && c != '\\'
    if run.isEmpty then .text [c] :: replacementParts n cs
    else .text run :: replacementParts n ((c :: cs).drop run.length)

/-- the flags of a substitution -/
structure SubstitutionFlags where
  number : Option Nat
  isGlobal : Bool
  prints : Bool
  evaluates : Bool
  ignoresCase : Bool
  isMultiline : Bool
  target : Option String

def readFlags : Nat → List Char → SubstitutionFlags → Except String (Rest SubstitutionFlags)
  | 0, cs, f => .ok (f, cs)
  | n + 1, cs, f =>
    match cs with
    | 'g' :: cs =>
      if f.isGlobal then .error "multiple \x60g' options to \x60s' command"
      else readFlags n cs { f with isGlobal := true }
    | 'p' :: cs =>
      if f.prints then .error "multiple \x60p' options to \x60s' command"
      else readFlags n cs { f with prints := true }
    | 'e' :: cs => readFlags n cs { f with evaluates := true }
    | 'i' :: cs => readFlags n cs { f with ignoresCase := true }
    | 'I' :: cs => readFlags n cs { f with ignoresCase := true }
    | 'm' :: cs => readFlags n cs { f with isMultiline := true }
    | 'M' :: cs => readFlags n cs { f with isMultiline := true }
    | 'w' :: cs =>
      let (name, rest) := readName cs
      if name = "" then .error "missing filename in r/R/w/W commands"
      else .ok ({ f with target := some name }, rest)
    | c :: _ =>
      if c.isDigit then
        match readNumber cs with
        | (some 0, _) => .error "number option to \x60s' command may not be zero"
        | (some k, rest) =>
          if f.number.isSome then .error "multiple number options to \x60s' command"
          else readFlags n rest { f with number := some k }
        | (none, rest) => .ok (f, rest)
      else if isBlank c || c == '\n' || c == ';' || c == '}' || c == '#' then .ok (f, cs)
      else .error "unknown option to \x60s'"
    | [] => .ok (f, [])

/-- a substitution -/
def readSubstitution (isExtended : Bool) (cs : List Char) : Except String (Rest EditAction) := do
  match cs with
  | [] => throw "unterminated \x60s' command"
  | mark :: cs =>
    if mark == '\n' || mark == '\\' then throw "unterminated \x60s' command"
    match upToMark mark true (cs.length + 1) cs with
    | none => throw "unterminated \x60s' command"
    | some (pattern, rest) =>
      match upToMark mark false (rest.length + 1) rest with
      | none => throw "unterminated \x60s' command"
      | some (replacement, rest) =>
        let (f, rest) ← readFlags (rest.length + 1) rest ⟨none, false, false, false, false, false, none⟩
        let p ← readPattern isExtended pattern f.ignoresCase f.isMultiline
        let parts := replacementParts (replacement.length + 1) replacement
        let groups := (p.map fun p => p.regex.groupCount).getD 9
        let used := parts.filterMap fun
          | .group n => some n
          | _ => none
        match used.find? (groups < ·) with
        | some n => throw s!"invalid reference \\{n} on \x60s' command's RHS"
        | none => pure ()
        return (.substitute ⟨p, parts, f.number.getD 1, f.isGlobal, f.prints, f.evaluates, f.target⟩, rest)

/-- the characters of one side of `y` -/
def readChars : List Char → List Char
  | '\\' :: '\\' :: cs => '\\' :: readChars cs
  | '\\' :: 'n' :: cs => '\n' :: readChars cs
  | '\\' :: 't' :: cs => '\t' :: readChars cs
  | c :: cs => c :: readChars cs
  | [] => []

def readTransliteration (cs : List Char) : Except String (Rest EditAction) := do
  match cs with
  | [] => throw "unterminated \x60y' command"
  | mark :: cs =>
    match upToMark mark false (cs.length + 1) cs with
    | none => throw "unterminated \x60y' command"
    | some (before, rest) =>
      match upToMark mark false (rest.length + 1) rest with
      | none => throw "unterminated \x60y' command"
      | some (after, rest) =>
        let (before, after) := (readChars before, readChars after)
        if before.length ≠ after.length then
          throw "strings for \x60y' command are different lengths"
        return (.transliterate (before.zip after), rest)

/-! ## scripts -/

/-- what may follow an instruction on its line -/
def endOfInstruction (cs : List Char) : Except String (List Char) :=
  match skipBlanks cs with
  | [] => .ok []
  | '\n' :: rest => .ok rest
  | ';' :: rest => .ok rest
  | '}' :: rest => .ok ('}' :: rest)
  | '#' :: rest => .ok ('#' :: rest)
  | _ => .error "extra characters after command"

/-- one instruction without its selector -/
def readAction (isExtended : Bool) (selector : Selector) (cs : List Char) : Except String (Rest EditAction) := do
  let plain (action : EditAction) (rest : List Char) : Except String (Rest EditAction) := do
    return (action, ← endOfInstruction rest)
  let named (f : String → EditAction) (rest : List Char) : Except String (Rest EditAction) :=
    let (name, rest) := readName rest
    if name = "" then .error "missing filename in r/R/w/W commands" else .ok (f name, rest.drop 1)
  match cs with
  | [] => throw "missing command"
  | '{' :: rest => return (.block 0, rest)
  | '}' :: rest =>
    if selector.first.isSome then throw "unexpected \x60\x7d'" else plain .blockEnd rest
  | '=' :: rest => plain .printNumber rest
  | 'a' :: rest => do
    let (text, rest) ← readAdded rest
    return (.append text, rest)
  | 'i' :: rest => do
    let (text, rest) ← readAdded rest
    return (.insert text, rest)
  | 'c' :: rest => do
    let (text, rest) ← readAdded rest
    return (.change text, rest)
  | ':' :: rest =>
    if selector.first.isSome then throw ": doesn't want any addresses"
    let (name, rest) := readLabel rest
    if name = "" then throw "\":\" lacks a label"
    return (.label name, rest.dropWhile fun c => isBlank c || c == ';')
  | 'b' :: rest =>
    let (name, rest) := jumpLabel rest
    return (.jump name 0, ← endOfInstruction rest)
  | 't' :: rest =>
    let (name, rest) := jumpLabel rest
    return (.jumpIf true name 0, ← endOfInstruction rest)
  | 'T' :: rest =>
    let (name, rest) := jumpLabel rest
    return (.jumpIf false name 0, ← endOfInstruction rest)
  | 'd' :: rest => plain .delete rest
  | 'D' :: rest => plain .deleteFirst rest
  | 'e' :: rest =>
    let (command, rest) := readName rest
    return (.evaluate (if command = "" then none else some command.toList), rest.drop 1)
  | 'F' :: rest => plain .fileName rest
  | 'g' :: rest => plain .get rest
  | 'G' :: rest => plain .getAppend rest
  | 'h' :: rest => plain .hold rest
  | 'H' :: rest => plain .holdAppend rest
  | 'x' :: rest => plain .exchange rest
  | 'l' :: rest =>
    let (width, rest) := readNumber (skipBlanks rest)
    plain (.list width) rest
  | 'n' :: rest => plain .next rest
  | 'N' :: rest => plain .nextAppend rest
  | 'p' :: rest => plain .print rest
  | 'P' :: rest => plain .printFirst rest
  | 'q' :: rest =>
    if selector.stop.isSome then throw "command only uses one address"
    let (code, rest) := readNumber (skipBlanks rest)
    plain (.quit (exitCode (code.getD 0)) true) rest
  | 'Q' :: rest =>
    if selector.stop.isSome then throw "command only uses one address"
    let (code, rest) := readNumber (skipBlanks rest)
    plain (.quit (exitCode (code.getD 0)) false) rest
  | 'r' :: rest => named .readFile rest
  | 'R' :: rest => named .readLine rest
  | 'w' :: rest => named (.write · false) rest
  | 'W' :: rest => named (.write · true) rest
  | 's' :: rest => do
    let (action, rest) ← readSubstitution isExtended rest
    match action with
    | .substitute s => if s.target.isSome then return (action, rest.drop 1)
    | _ => pure ()
    return (action, ← endOfInstruction rest)
  | 'y' :: rest => do
    let (action, rest) ← readTransliteration rest
    return (action, ← endOfInstruction rest)
  | 'z' :: rest => plain .clear rest
  | 'v' :: rest => return (.nothing, (readName rest).2)
  | c :: _ => throw s!"unknown command: \x60{c}'"
where
  /-- the label of a jump, which ends in front of a closing brace too -/
  jumpLabel (cs : List Char) : String × List Char :=
    let (name, rest) := readLabel cs
    let name' := name.toList.takeWhile (· ≠ '}')
    (String.ofList name', (name.toList.drop name'.length) ++ rest)

/-- instructions one after the other -/
def readInstructions (isExtended : Bool) : Nat → List Char → Except String (List Instruction)
  | 0, _ => .error "script too long"
  | n + 1, cs =>
    match cs with
    | [] => .ok []
    | c :: rest =>
      if isBlank c || c == '\n' || c == ';' then readInstructions isExtended n rest
      else if c == '#' then readInstructions isExtended n (rest.dropWhile (· ≠ '\n'))
      else do
        let (selector, cs) ← readSelector isExtended (c :: rest)
        match cs with
        | '#' :: _ => throw "comments don't accept any addresses"
        | cs =>
          let (action, cs) ← readAction isExtended selector cs
          return ⟨selector, action⟩ :: (← readInstructions isExtended n cs)

/-- the place behind the end of the block that starts in front of some instructions -/
def blockStop (at_ : Nat) : Nat → List Instruction → Option Nat
  | _, [] => none
  | depth, i :: rest =>
    match i.action, depth with
    | .blockEnd, 0 => some (at_ + 1)
    | .blockEnd, depth + 1 => blockStop (at_ + 1) depth rest
    | .block _, depth => blockStop (at_ + 1) (depth + 1) rest
    | _, depth => blockStop (at_ + 1) depth rest

/-- whether a block ends that has not started -/
def endsTooOften : Nat → List Instruction → Bool
  | _, [] => false
  | depth, i :: rest =>
    match i.action, depth with
    | .blockEnd, 0 => true
    | .blockEnd, depth + 1 => endsTooOften depth rest
    | .block _, depth => endsTooOften (depth + 1) rest
    | _, depth => endsTooOften depth rest

/-- why a script cannot be read: a message, and whether it is about a jump -/
abbrev ScriptProblem := String × Bool

/-- put the places of labels and ends of blocks into instructions -/
def resolve (all : List Instruction) : Except ScriptProblem Script := do
  if endsTooOften 0 all then throw ("-e expression #1, char 0: unexpected \x60\x7d'", false)
  let labels := all.zipIdx.filterMap fun (i, at_) =>
    match i.action with
    | .label name => some (name, at_)
    | _ => none
  let target (name : String) : Except ScriptProblem Nat :=
    if name = "" then .ok all.length
    else match labels.lookup name with
      | some at_ => .ok at_
      | none => .error (s!"can't find label for jump to \x60{name}'", true)
  let resolved ← all.zipIdx.mapM fun (i, at_) => do
    match i.action with
    | .block _ =>
      match blockStop (at_ + 1) 0 (all.drop (at_ + 1)) with
      | some stop => return { i with action := .block stop }
      | none => throw ("-e expression #1, char 0: unmatched \x60\x7b'", false)
    | .jump name _ => return { i with action := .jump name (← target name) }
    | .jumpIf r name _ => return { i with action := .jumpIf r name (← target name) }
    | _ => return i
  return resolved.toArray

/-- read a script -/
def Script.read (isExtended : Bool) (text : List Char) : Except ScriptProblem Script :=
  match readInstructions isExtended (text.length + 2) text with
  | .ok all => resolve all
  | .error message => .error (s!"-e expression #1, char {text.length}: {message}", false)

end PatternBuild.Shell.Editor
