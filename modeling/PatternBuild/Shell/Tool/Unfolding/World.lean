import Std.Data.HashMap
import PatternBuild.Shell.Format
import PatternBuild.Shell.Regex
import PatternBuild.Shell.Tool.Basic

/-!
# Text that is unfolded

The text still to be unfolded, what is known meanwhile, and what is made of texts on the way.
-/

/-!
## Feed: text that is still to be unfolded

The feed is a stack of texts: files, and texts that stand for words found before.  `nextToken` cuts it
into words, quoted texts, comments and single characters.  A quoted text comes without its outer quotes.
-/

namespace PatternBuild.Shell.Tool.Unfolding

/-- a part of the feed -/
inductive Block where
  /-- the rest of a file, and the number of its next line -/
  | file (origin : String) (line : Nat) (text : List Char)
  /-- text that stands for a word, and the place of that word -/
  | text (origin : String) (line : Nat) (text : List Char)
  /-- the meaning of a word that is built in -/
  | builtin (name : String)

/-- the texts to come, and the place of what was read last -/
structure Feed where
  blocks : List Block
  origin : String
  line : Nat

/-- what is read from the feed -/
inductive Sign where
  | char (c : Char)
  | builtin (name : String)
  deriving DecidableEq, Repr

namespace Feed

/-- the next sign of some blocks, what is left, and the place of the sign -/
def nextOf : List Block → Option (Sign × List Block × Option (String × Nat))
  | [] => none
  | .builtin name :: rest => some (.builtin name, rest, none)
  | .file _ _ [] :: rest => nextOf rest
  | .file origin line (c :: cs) :: rest =>
    some (.char c, .file origin (if c == '\n' then line + 1 else line) cs :: rest, some (origin, line))
  | .text _ _ [] :: rest => nextOf rest
  | .text origin line (c :: cs) :: rest => some (.char c, .text origin line cs :: rest, some (origin, line))

/-- the next sign; at the end there is no place any more -/
def next (f : Feed) : Option Sign × Feed :=
  match nextOf f.blocks with
  | none => (none, ⟨[], "", 0⟩)
  | some (s, blocks, some (origin, line)) => (some s, ⟨blocks, origin, line⟩)
  | some (s, blocks, none) => (some s, { f with blocks })

/-- the next character without reading it -/
def peek? (f : Feed) : Option Char :=
  match nextOf f.blocks with
  | some (.char c, _, _) => some c
  | _ => none

/-- the feed behind a text, if it starts with it -/
def after? (f : Feed) : List Char → Option Feed
  | [] => some f
  | c :: cs =>
    match f.next with
    | (some (.char d), f) => if c == d then after? f cs else none
    | _ => none

/-- put text in front -/
def push (f : Feed) (cs : List Char) : Feed :=
  if cs.isEmpty then f else { f with blocks := .text f.origin f.line cs :: f.blocks }

end Feed

/-! ### tokens -/

/-- what marks quoted text and comments; an empty mark marks nothing -/
structure Marks where
  openQuote : List Char
  closeQuote : List Char
  openComment : List Char
  closeComment : List Char

namespace Marks

def usual : Marks := ⟨['\x60'], ['\''], ['#'], ['\n']⟩

/-- a text in quotes -/
def quote (m : Marks) (cs : List Char) : List Char := m.openQuote ++ cs ++ m.closeQuote

end Marks

inductive Token where
  | word (cs : List Char)
  /-- text that is quoted, or a comment with its marks -/
  | text (cs : List Char)
  | char (c : Char)
  | builtin (name : String)
  | ended
  deriving DecidableEq, Repr

/-- the feed behind a mark that starts with a character that was read -/
def markAfter? (mark : List Char) (c : Char) (f : Feed) : Option Feed :=
  match mark with
  | d :: more => if c == d then f.after? more else none
  | [] => none

def isWordStart (c : Char) : Bool := c.isAlpha || c == '_'

/-- the rest of a word -/
def readWord : Nat → List Char → Feed → List Char × Feed
  | 0, seen, f => (seen.reverse, f)
  | n + 1, seen, f =>
    match f.peek? with
    | some c => if Regex.isWordChar c then readWord n (c :: seen) f.next.2 else (seen.reverse, f)
    | none => (seen.reverse, f)

/-- the rest of a comment, with its end; nothing if that is missing -/
def readComment (m : Marks) : Nat → List Char → Feed → Option (List Char × Feed)
  | 0, _, _ => none
  | n + 1, seen, f =>
    match f.next with
    | (some (.char c), f) =>
      match markAfter? m.closeComment c f with
      | some f => some (seen.reverse ++ m.closeComment, f)
      | none => readComment m n (c :: seen) f
    | (some (.builtin _), f) => readComment m n seen f
    | (none, _) => none

/-- the rest of a quoted text inside of so many quotes, without its end; nothing if that is missing -/
def readQuoted (m : Marks) : Nat → Nat → List Char → Feed → Option (List Char × Feed)
  | 0, _, _, _ => none
  | n + 1, depth, seen, f =>
    match f.next with
    | (some (.char c), f) =>
      match markAfter? m.closeQuote c f with
      | some f =>
        if depth ≤ 1 then some (seen.reverse, f)
        else readQuoted m n (depth - 1) (m.closeQuote.reverse ++ seen) f
      | none =>
        match markAfter? m.openQuote c f with
        | some f => readQuoted m n (depth + 1) (m.openQuote.reverse ++ seen) f
        | none => readQuoted m n depth (c :: seen) f
    | (some (.builtin _), f) => readQuoted m n depth seen f
    | (none, _) => none

/-- what is missing at the end of the feed, and the place where it started -/
structure OpenEnd where
  what : String
  origin : String
  line : Nat

/-- the next token and the line that it starts on; `n` is more than the number of signs in the feed -/
def nextToken (m : Marks) (n : Nat) (f : Feed) : Except OpenEnd (Token × Nat × Feed) :=
  match f.next with
  | (none, f) => .ok (.ended, 0, f)
  | (some (.builtin name), f) => .ok (.builtin name, f.line, f)
  | (some (.char c), f) =>
    let place := f.line
    match markAfter? m.openComment c f with
    | some inner =>
      match readComment m n [] inner with
      | some (cs, f) => .ok (.text (m.openComment ++ cs), place, f)
      | none => .error ⟨"comment", f.origin, f.line⟩
    | none =>
      if isWordStart c then
        let (cs, f) := readWord n [c] f
        .ok (.word cs, place, f)
      else
        match markAfter? m.openQuote c f with
        | none => .ok (.char c, place, f)
        | some inner =>
          match readQuoted m n 1 [] inner with
          | some (cs, f) => .ok (.text cs, place, f)
          | none => .error ⟨"string", f.origin, f.line⟩

/-- the character that a token would be if it is one, without reading it -/
def startsGroup (m : Marks) (f : Feed) : Bool :=
  f.peek? == some '(' && m.openQuote.head? != some '(' && m.openComment.head? != some '('

end PatternBuild.Shell.Tool.Unfolding

/-!
## What is known while text is unfolded

A word can have several meanings, of which the latest counts.  Text that is neither quoted nor unfolded is
put out, or kept apart under a number until it is asked for.
-/

namespace PatternBuild.Shell.Tool.Unfolding

open Activity

/-- what a word stands for -/
inductive Meaning where
  | text (cs : List Char)
  | builtin (name : String)
  deriving DecidableEq, Repr

/-- the text of a meaning, which an argument is too; one that is built in has none -/
def Meaning.content : Meaning → List Char
  | .text cs => cs
  | .builtin _ => []

/-- what is told about words that are watched -/
structure Watching where
  /-- letters of what is told -/
  letters : List Char
  words : List String
  /-- whether it is told at all, and the descriptor -/
  target : Option Nat

/-- what is settled from the start -/
structure Setting where
  programs : Programs
  /-- where files are looked for -/
  dirs : List String
  /-- nothing but what every such program knows -/
  isPlain : Bool
  isQuiet : Bool
  /-- how often complaints were said to be faults -/
  strictness : Nat

structure World where
  feed : Feed
  marks : Marks
  meanings : Std.HashMap String (List Meaning)
  /-- texts to be read at the end, the latest first -/
  wrapped : List Block
  /-- where text goes: 0 is the output, and a negative number nowhere -/
  target : Int
  /-- the texts that are kept apart, the latest piece first -/
  kept : List (Nat × List (List Char))
  /-- the outcome of the last command -/
  status : Nat
  hasFailed : Bool
  watching : Watching
  /-- how deep words are in arguments of others -/
  depth : Nat
  /-- lines are told where they come from -/
  marksLines : Bool
  /-- the line that the output seems to stem from, and whether it is at the start of one -/
  outLine : Int
  isAtStart : Bool

/-- work on text that can end with a code -/
abbrev Unfolder := ReaderT Setting (StateT World (ExceptT Nat Activity))

/-! ### complaints -/

/-- tell something with the place in front -/
def report (origin : String) (line : Nat) (message : String) : Unfolder Unit := do
  discard (flush : Activity _)
  let place := if line = 0 then "" else s!"{origin}:{line}:"
  (tell s!"m4:{place} {message}\n" : Activity _)

/-- tell something with the current place in front -/
def complain (message : String) : Unfolder Unit := do
  let f := (← get).feed
  report f.origin f.line message
  let strictness := (← read).strictness
  if 0 < strictness then modify fun w => { w with hasFailed := true }
  if 1 < strictness then throw 1

/-- tell something unless all is to be quiet -/
def warn (message : String) : Unfolder Unit := do
  if !(← read).isQuiet then complain s!"Warning: {message}"

/-! ### meanings -/

def meaning? (name : String) : Unfolder (Option Meaning) := return ((← get).meanings[name]?).bind List.head?

/-- give a word a meaning, on top of those that it has or in the place of the latest -/
def define (isKept : Bool) (name : String) (m : Meaning) : Unfolder Unit :=
  modify fun w =>
    let old := (w.meanings[name]?).getD []
    { w with meanings := w.meanings.insert name (m :: if isKept then old else old.drop 1) }

/-- take the latest meaning of a word away, or all -/
def undefine (isAll : Bool) (name : String) : Unfolder Unit :=
  modify fun w =>
    match if isAll then [] else ((w.meanings[name]?).getD []).drop 1 with
    | [] => { w with meanings := w.meanings.erase name }
    | rest => { w with meanings := w.meanings.insert name rest }

/-! ### output -/

/-- put text where it belongs at the moment -/
def putRaw (cs : List Char) : Unfolder Unit := do
  let w ← get
  if w.target = 0 then Tool.out cs
  else if 0 < w.target then
    let n := w.target.toNat
    let old := (w.kept.lookup n).getD []
    set { w with kept := (n, cs :: old) :: w.kept.filter fun (k, _) => k ≠ n }

/-- the lines that tell where text comes from, put between its lines -/
def linesMarked (w : World) (line : Nat) (cs : List Char) : List Char × World :=
  let step (found : List Char × World) (c : Char) : List Char × World :=
    let (seen, w) := found
    let w := if w.isAtStart then { w with isAtStart := false, outLine := w.outLine + 1 } else w
    (c :: seen, { w with isAtStart := c == '\n' })
  let start : List Char × World :=
    if !w.isAtStart then ([], w)
    else
      let next := w.outLine + 1
      let w := { w with isAtStart := false, outLine := next }
      if next = line then ([], w)
      else
        let name := if next < 1 && w.feed.origin ≠ "" then s!" \"{w.feed.origin}\"" else ""
        ((s!"#line {line}{name}\n").toList.reverse, { w with outLine := line })
  let (seen, w) := cs.foldl step start
  (seen.reverse, w)

/-- put text that comes from a line where it belongs at the moment -/
def put (line : Nat) (cs : List Char) : Unfolder Unit := do
  if cs.isEmpty then return
  let w ← get
  if w.marksLines && 0 ≤ w.target then
    let (cs, w) := linesMarked w line cs
    set w
    putRaw cs
  else putRaw cs

/-- put out text that was kept apart -/
def bringBack (n : Nat) : Unfolder Unit := do
  let w ← get
  if n = 0 || (n : Int) = w.target then return
  match w.kept.lookup n with
  | none => return
  | some pieces =>
    set { w with kept := w.kept.filter fun (k, _) => k ≠ n }
    putRaw pieces.reverse.flatten

/-- put out all that was kept apart, by its numbers -/
def bringAllBack : Unfolder Unit := do
  let numbers := ((← get).kept.map (·.1)).mergeSort fun a b => decide (a ≤ b)
  for n in numbers do bringBack n

/-! ### reading -/

/-- the next token and its line -/
def take : Unfolder (Token × Nat) := do
  let w ← get
  match nextToken w.marks endless w.feed with
  | .ok (t, line, feed) =>
    let hasMoved := w.marksLines && feed.origin ≠ w.feed.origin
    modify fun w => { w with feed, outLine := if hasMoved then -1 else w.outLine }
    return (t, line)
  | .error e =>
    report e.origin e.line s!"ERROR: end of file in {e.what}"
    throw 1

/-- leave out the rest of a line -/
def skipLine : Nat → Unfolder Unit
  | 0 => return
  | n + 1 => do
    let f := (← get).feed
    match f.next with
    | (none, next) =>
      warnAt f "end of file treated as newline"
      modify fun w => { w with feed := next }
    | (some s, next) =>
      modify fun w => { w with feed := next }
      if s ≠ .char '\n' then skipLine n
where
  warnAt (f : Feed) (message : String) : Unfolder Unit := do
    if !(← read).isQuiet then report f.origin f.line s!"Warning: {message}"

/-- a file by its name, in the running directory or in those that are searched -/
def contentFrom (name : String) : Unfolder (Except DiskFault (String × List Char)) := do
  match ← (contentOf name : Activity _) with
  | .ok cs => return .ok (name, cs)
  | .error f =>
    if name.startsWith "/" then return .error f
    for dir in (← read).dirs do
      let path := s!"{dir}/{name}"
      if let .ok cs ← (contentOf path : Activity _) then return .ok (path, cs)
    return .error f

/-! ### watching -/

/-- tell something about a word that is watched -/
def watch (message : String) : Unfolder Unit := do
  match (← get).watching.target with
  | none => return
  | some fd =>
    discard (flush : Activity _)
    discard (write fd message.toList : Activity _)

/-- the start of what is told about a word -/
def watchHead : Unfolder String := do
  let w ← get
  let has (c : Char) : Bool := w.watching.letters.contains c
  let origin := if has 'f' then s!"{w.feed.origin}:" else ""
  let line := if has 'l' then s!"{w.feed.line}:" else ""
  return s!"m4trace:{origin}{line} -{w.depth}- "

end PatternBuild.Shell.Tool.Unfolding

/-!
## Work on texts that words are unfolded to

Ranges of characters, the parts of a text that an expression matches, and texts printed by a format.
-/

namespace PatternBuild.Shell.Tool.Unfolding

/-! ### characters -/

/-- the characters of a set in which a dash stands for those between its neighbours -/
def spread : Nat → Option Char → List Char → List Char
  | 0, _, _ => []
  | n + 1, before, cs =>
    match before, cs with
    | _, [] => []
    | some a, '-' :: b :: rest =>
      let between : List Char :=
        if a.toNat ≤ b.toNat then (List.range (b.toNat - a.toNat)).map fun k => Char.ofNat (a.toNat + 1 + k)
        else (List.range (a.toNat - b.toNat)).map fun k => Char.ofNat (a.toNat - 1 - k)
      between ++ spread n (some b) rest
    | some _, ['-'] => ['-']
    | _, c :: rest => c :: spread n (some c) rest

/-- put characters in the place of others; those without a counterpart are left out -/
def exchanged (from_ to_ cs : List Char) : List Char :=
  let pairs := from_.zip (to_.map some ++ List.replicate (from_.length - to_.length) none)
  cs.flatMap fun c => match pairs.lookup c with
    | some (some d) => [d]
    | some none => []
    | none => [c]

/-- the place of a text in another -/
def placeOf? (needle : List Char) : Nat → List Char → Option Nat
  | i, [] => if needle.isEmpty then some i else none
  | i, c :: cs => if needle.isPrefixOf (c :: cs) then some i else placeOf? needle (i + 1) cs

/-! ### expressions -/

/-- where a character of an expression stands -/
inductive Spot where
  /-- where there is nothing to repeat -/
  | start
  | inside
  /-- in a set, behind its bracket, behind the sign that negates it, or further on -/
  | setStart
  | setFirst
  | set
  deriving DecidableEq, Repr

/-- an expression in which signs for repeats stand alone, in the spelling where they have a backslash in
front -/
def respelled : Spot → List Char → List Char
  | _, [] => []
  | .setStart, '^' :: cs => '^' :: respelled .setFirst cs
  | .setStart, c :: cs => c :: respelled .set cs
  | .setFirst, c :: cs => c :: respelled .set cs
  | .set, c :: cs => c :: respelled (if c == ']' then .inside else .set) cs
  | _, '\\' :: c :: cs =>
    if c == '+' || c == '?' then c :: respelled .inside cs
    else if c == '{' || c == '}' then '[' :: c :: ']' :: respelled .inside cs
    else '\\' :: c :: respelled (if c == '(' || c == '|' then .start else .inside) cs
  | spot, c :: cs =>
    if c == '[' then c :: respelled .setStart cs
    else if (c == '+' || c == '?') && spot ≠ .start then '\\' :: c :: respelled .inside cs
    else c :: respelled (if c == '^' && spot = .start then .start else .inside) cs

/-- an expression whose sets and point take the end of a line too -/
def acrossLines : Regex → Regex
  | .any => .oneOf false [.range '\x00' '\xff']
  | .oneOf true sets =>
    let left := (List.range 256).map Char.ofNat |>.filter fun c => !sets.any (Wildcard.hasChar · c)
    .oneOf false (left.map fun c => .range c c)
  | .group n r => .group n (acrossLines r)
  | .append a b => .append (acrossLines a) (acrossLines b)
  | .either a b => .either (acrossLines a) (acrossLines b)
  | .repeated r least most => .repeated (acrossLines r) least most
  | r => r

/-- the expression that a text writes -/
def expression (cs : List Char) : Except RegexFault Regex :=
  (Regex.read .basic (respelled .start cs)).map acrossLines

/-- a text with what stands for parts of a match put in, and what is wrong with it -/
def filledIn (r : Regex) (s : Regex.Subject) (found : Regex.Spans) : List Char → List Char × List String
  | [] => ([], [])
  | ['\\'] => ([], ["Warning: trailing \\ ignored in replacement"])
  | '\\' :: c :: cs =>
    let (rest, problems) := filledIn r s found cs
    if c == '&' then (Regex.groupText s found 0 ++ rest, problems)
    else if c == '0' then
      (Regex.groupText s found 0 ++ rest,
        "Warning: \\0 will disappear, use \\& instead in replacements" :: problems)
    else if c.isDigit then
      let k := c.toNat - 48
      if r.groupCount < k then (rest, s!"Warning: sub-expression {k} not present" :: problems)
      else (Regex.groupText s found k ++ rest, problems)
    else (c :: rest, problems)
  | c :: cs =>
    let (rest, problems) := filledIn r s found cs
    (c :: rest, problems)

/-- put a text in the place of all matches from a place on -/
def substituted (r : Regex) (s : Regex.Subject) (text : List Char) : Nat → Nat → List Char × List String
  | 0, _ => ([], [])
  | n + 1, at_ =>
    if s.text.size < at_ then ([], [])
    else
      match r.find? s true at_ with
      | none => (s.slice at_ s.text.size, [])
      | some found =>
        let (i, j) := (found.lookup 0).getD (at_, at_)
        let (new, problems) := filledIn r s found text
        let skipped := if i = j then s.slice j (j + 1) else []
        let (rest, more) := substituted r s text n (if i = j then j + 1 else j)
        (s.slice at_ i ++ new ++ skipped ++ rest, problems ++ more)

/-! ### numbers -/

/-- a whole number with blanks and a sign perhaps in front: its value as 32 bits keep it, or how much of
the text is one -/
def leadingNumber (cs : List Char) : Int × List Char :=
  let start := cs.dropWhile fun c => c == ' ' || ('\t' ≤ c && c ≤ '\r')
  let (isNegative, rest) := match start with
    | '-' :: rest => (true, rest)
    | '+' :: rest => (false, rest)
    | rest => (false, rest)
  let digits := rest.takeWhile Char.isDigit
  match (String.ofList digits).toNat? with
  | none => (0, cs)
  | some n =>
    let n : Int := if isNegative then -(n : Int) else n
    let n := max (-9223372036854775808) (min 9223372036854775807 n)
    (Int.bmod n 4294967296, rest.drop digits.length)

/-! ### formats -/

/-- print arguments by a format; the second part are complaints -/
def formatted : Nat → List Char → List (List Char) → List Char × List String
  | 0, _, _ => ([], [])
  | _, [], [] => ([], [])
  | _, [], _ :: _ => ([], [])
  | n + 1, '%' :: '%' :: rest, args =>
    let (text, problems) := formatted n rest args
    ('%' :: text, problems)
  | n + 1, '%' :: rest, args =>
    let (d, after) := readDirective allFlags true rest
    let number (args : List (List Char)) : Int × List (List Char) × List String :=
      match args with
      | [] => (0, [], [])
      | a :: more =>
        let (k, left) := leadingNumber a
        if a.isEmpty then (0, more, ["empty string treated as 0"])
        else (k, more, if left.isEmpty then [] else [s!"non-numeric argument {String.ofList a}"])
    let (width, args, p1) : Int × List (List Char) × List String := match d.width with
      | some .argument => number args
      | some (.fixed k) => (k, args, [])
      | none => (0, args, [])
    let (precision, args, p2) : Option Int × List (List Char) × List String := match d.precision with
      | some .argument =>
        let (k, args, p) := number args
        (some k, args, p)
      | some (.fixed k) => (some k, args, [])
      | none => (none, args, [])
    match d.conversion with
    | some c =>
      let shape := d.directive width precision c
      if "di".toList.contains c || "ouxX".toList.contains c then
        let (k, args, p) := number args
        let k := if "di".toList.contains c then k else k % 4294967296
        let (text, more) := formatted n after args
        (shape.whole k ++ text, p1 ++ p2 ++ p ++ more)
      else if c == 'c' then
        let (k, args, p) := number args
        let (text, more) := formatted n after args
        ({ shape with precision := none }.pad [Char.ofNat (k % 256).toNat] ++ text, p1 ++ p2 ++ p ++ more)
      else if c == 's' then
        let (text, more) := formatted n after (args.drop 1)
        (shape.text (args.headD []) ++ text, p1 ++ p2 ++ more)
      else if "eEfFgGaA".toList.contains c then
        let x := match args with
          | [] => Floating.zero
          | a :: _ => ((Floating.read? 53 (a.dropWhile (· == ' '))).map (·.1)).getD .zero
        let (text, more) := formatted n after (args.drop 1)
        (shape.floating 53 x ++ text, p1 ++ p2 ++ more)
      else
        let (text, more) := formatted n after args
        (text, p1 ++ p2 ++ s!"Warning: unrecognized specifier in \x60{String.ofList rest}'" :: more)
    | none => ([], ["Warning: unrecognized specifier in \x60'"])
  | n + 1, c :: rest, args =>
    let (text, problems) := formatted n rest args
    (c :: text, problems)

end PatternBuild.Shell.Tool.Unfolding
