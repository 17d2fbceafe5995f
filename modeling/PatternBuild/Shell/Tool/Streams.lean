import PatternBuild.Shell.Regex
import PatternBuild.Shell.Tool.Quantity

/-!
# Streams: tools that pass on what they read

`cat`, `tac`, `rev`, `tee`, `head` and `tail` print all they read, or a part of it.
-/

namespace PatternBuild.Shell.Tool

open Activity

/-! ## cat -/

/-- how `cat` shows what it reads -/
structure CatStyle where
  numbersAll : Bool
  numbersFilled : Bool
  squeezes : Bool
  showsEnds : Bool
  showsTabs : Bool
  showsHidden : Bool

/-- where `cat` stands: the number of the last line, the empty lines before it, and whether a line
is open -/
structure CatState where
  number : Nat
  blanks : Nat
  isOpen : Bool

/-- a character as it is shown -/
def shownChar (s : CatStyle) (c : Char) : List Char :=
  let control (n : Nat) : List Char :=
    if n < 32 then ['^', Char.ofNat (n + 64)] else if n = 127 then ['^', '?'] else [Char.ofNat n]
  if c == '\t' then (if s.showsTabs then ['^', 'I'] else [c])
  else if !s.showsHidden then [c]
  else if 128 ≤ c.toNat then 'M' :: '-' :: control (c.toNat - 128)
  else control c.toNat

/-- a line as it is shown -/
def shownLine (s : CatStyle) (line : List Char) : List Char :=
  let isReturned := s.showsEnds && !s.showsHidden && line.getLast? == some '\r'
  let line := if isReturned then line.dropLast else line
  (if s.showsHidden || s.showsTabs then line.flatMap (shownChar s) else line) ++
    if isReturned then ['^', 'M'] else []

/-- show one line -/
def catLine (s : CatStyle) (t : CatState) (line : List Char) (isEnded : Bool) :
    CatState × List Char :=
  let isBlank := line.isEmpty && !t.isOpen
  if isBlank && s.squeezes && 1 ≤ t.blanks && isEnded then (t, [])
  else
    let isNumbered := !t.isOpen && (s.numbersFilled && !(isBlank && isEnded) ||
      s.numbersAll && !s.numbersFilled)
    let number := if isNumbered then t.number + 1 else t.number
    let mark := if isNumbered then (padLeft 6 (toString number) ++ "\t").toList else []
    (⟨number, if isBlank then t.blanks + 1 else 0, !isEnded⟩,
      mark ++ shownLine s line ++ if isEnded then (if s.showsEnds then ['$', '\n'] else ['\n'])
        else [])

/-- whether a descriptor that is read leads to the file that is written, in front of what it holds -/
def readsOutput (fd : Nat) : Activity Bool := do
  match ← streamOf fd, ← streamOf 1 with
  | some (_, .file n offset _), some (_, .file m _ _) =>
    return n = m && offset < ((← machine).disk.file n).content.length
  | _, _ => return false

/-- pass on what a descriptor gives, block by block -/
def passOn (fd : Nat) : Nat → Activity (Except DiskFault Unit)
  | 0 => return .ok ()
  | n + 1 => do
    match ← readSome fd with
    | .error f => return .error f
    | .ok [] => return .ok ()
    | .ok cs =>
      Tool.out cs
      discard flush
      passOn fd n

def cat (args : List String) : Activity Nat :=
  withOptions "cat" (.of "AbeEnstTuv" "" [("show-all", "A", .never), ("number-nonblank", "b", .never),
    ("show-ends", "E", .never), ("number", "n", .never), ("squeeze-blank", "s", .never),
    ("show-tabs", "T", .never), ("show-nonprinting", "v", .never)]) 1 args fun g => do
  let s : CatStyle := ⟨g.has "n", g.has "b", g.has "s", g.has "E" || g.has "A" || g.has "e",
    g.has "T" || g.has "A" || g.has "t", g.has "v" || g.has "A" || g.has "e" || g.has "t"⟩
  let isPlain := g.options.all (·.1 = "u")
  let mut code := 0
  let mut state : CatState := ⟨0, 0, false⟩
  for path in if g.operands.isEmpty then ["-"] else g.operands do
    match ← openOperand path with
    | .error f =>
      Tool.complain "cat" s!"{shown path}: {f.message}"
      code := 1
    | .ok fd =>
      let result : Except DiskFault CatState ← (do
        if ← readsOutput fd then
          Tool.complain "cat" s!"{shown path}: input file is output file"
          return .error .invalid
        else if isPlain then return (← passOn fd endless).map fun _ => state
        else
          forLines fd state fun t line isEnded => do
            let (t, text) := catLine s t line isEnded
            Tool.out text
            return (t, true))
      match result with
      | .ok t => state := t
      | .error f =>
        if f ≠ .invalid then Tool.complain "cat" s!"{shown path}: {f.message}"
        code := 1
      discard flush
      close fd
  return code

/-! ## tac and rev -/

/-- the parts of a text in reverse order, each with what ends it -/
def reversedLines (cs : List Char) : List Char :=
  let (parts, isEnded) := partsOf '\n' cs
  let marked := if isEnded then parts.map (· ++ ['\n'])
    else parts.dropLast.map (· ++ ['\n']) ++ parts.getLast?.toList
  marked.reverse.flatten

/-- the places where a text is divided, each with its width, the last first; `width?` gives that of what
starts at a place and ends before a limit -/
def divisions (width? : Nat → Nat → Option Nat) : Nat → Nat → List (Nat × Nat)
  | 0, _ => []
  | start + 1, limit =>
    match (width? limit start).filter (0 < ·) with
    | some width => (start, width) :: divisions width? start start
    | none => divisions width? start limit

/-- the parts of a text from its last to its first one, each with what divides it from the next or, if
`isBefore` holds, from the one before -/
def reversedParts (isBefore : Bool) (width? : Nat → Nat → Option Nat) (cs : List Char) : List Char :=
  let cuts := (divisions width? cs.length cs.length).map fun (start, width) =>
    if isBefore then start else start + width
  let (parts, limit) := cuts.foldl (fun (parts, limit) cut =>
    ((cs.take limit).drop cut :: parts, cut)) (([] : List (List Char)), cs.length)
  parts.reverse.flatten ++ cs.take limit

def tac (args : List String) : Activity Nat :=
  withOptions "tac" (.of "br" "s" [("before", "b", .never), ("regex", "r", .never),
    ("separator", "s", .always)]) 1 args fun g => do
  let mut code := 0
  for path in if g.operands.isEmpty then ["-"] else g.operands do
    match ← openOperand path with
    | .error f =>
      Tool.complain "tac" s!"failed to open {quoted path} for reading: {f.message}"
      code := 1
    | .ok fd =>
      match ← readAll fd with
      | .error f =>
        Tool.complain "tac" s!"{shown path}: read error: {f.message}"
        code := 1
      | .ok cs =>
        match g.value? "s" with
        | none =>
          if g.has "b" then
            let widthOf (limit start : Nat) : Option Nat :=
              if ((cs.take limit).drop start).head? == some '\n' then some 1 else none
            Tool.out (reversedParts true widthOf cs)
          else Tool.out (reversedLines cs)
        | some mark =>
          if g.has "r" then
            if mark = "" then return ← refuse "tac" "separator cannot be empty" 1
            match Regex.read .basic mark.toList with
            | .error p => return ← refuse "tac" p.message 1
            | .ok r =>
              let widthOf (limit start : Nat) : Option Nat :=
                ((Regex.ends (Regex.subject false (cs.take limit)) r start).max?).map (· - start)
              Tool.out (reversedParts (g.has "b") widthOf cs)
          else
            let mark := if mark = "" then ['\x00'] else mark.toList
            let widthOf (limit start : Nat) : Option Nat :=
              if mark.isPrefixOf ((cs.take limit).drop start) then some mark.length else none
            Tool.out (reversedParts (g.has "b") widthOf cs)
      close fd
  return code

def rev (args : List String) : Activity Nat :=
  withOptions "rev" (.of "0" "" [("zero", "0", .never)]) 1 args fun g => do
    forOperands g.operands (fun path f =>
      Tool.complain "rev" s!"cannot open {path}: {f.message}") fun _ fd => do
      return (← forLines fd () fun _ line isEnded => do
        Tool.out (line.reverse ++ if isEnded then ['\n'] else [])
        return ((), true)).map fun _ => ()

/-! ## tee -/

/-- pass on what is read to several descriptors -/
def passOnTo (targets : List Nat) : Nat → Activity Unit
  | 0 => return
  | n + 1 => do
    match ← readSome 0 with
    | .error _ => return
    | .ok [] => return
    | .ok cs =>
      for fd in targets do discard (write fd cs)
      passOnTo targets n

def tee (args : List String) : Activity Nat :=
  withOptions "tee" (.of "aip" "" [("append", "a", .never), ("ignore-interrupts", "i", .never),
    ("output-error", "p", .maybe)]) 1 args fun g => do
  let mut targets := [1]
  let mut code := 0
  for path in g.operands do
    match ← openToWrite path (g.has "a") with
    | .ok fd => targets := targets ++ [fd]
    | .error f =>
      Tool.complain "tee" s!"{shown path}: {f.message}"
      code := 1
  passOnTo targets endless
  for fd in targets do close fd
  return code

/-! ## head -/

/-- the name of an operand in a heading -/
def headingName (path : String) : String := if path = "-" then "standard input" else path

/-- print the heading of an operand -/
def heading (isFirst : Bool) (path : String) : Activity Unit :=
  Tool.say ((if isFirst then "" else "\n") ++ s!"==> {headingName path} <==\n")

/-- the size of the blocks in which `head` reads -/
def headBlock : Nat := 8192

/-- print the first parts of what a descriptor gives -/
def headParts (fd : Nat) (mark : Char) (count : Nat) : Activity (Except DiskFault Unit) := do
  if count = 0 then return .ok ()
  return (← forPartsUpTo fd mark headBlock (fun (n : Nat) part isEnded => do
    Tool.out (part ++ if isEnded then [mark] else [])
    return (n - 1, 1 < n)) endless [] count).map fun _ => ()

/-- print the first octets of what a descriptor gives -/
def headOctets (fd : Nat) : Nat → Nat → Activity (Except DiskFault Unit)
  | 0, _ => return .ok ()
  | _, 0 => return .ok ()
  | n + 1, count => do
    match ← readBlock fd (min headBlock count) with
    | .error f => return .error f
    | .ok [] => return .ok ()
    | .ok cs =>
      Tool.out (cs.take count)
      if count < cs.length then seekBack fd (cs.length - count)
      headOctets fd n (count - cs.length)

/-- the last parts of a text are left out -/
def withoutLast (mark : Char) (count : Nat) (cs : List Char) : List Char :=
  let (parts, isEnded) := partsOf mark cs
  let kept := parts.take (parts.length - count)
  if count = 0 && !isEnded then cs else (kept.map (· ++ [mark])).flatten

/-- options that are numbers, as they were once written -/
def withNumberOption (letter : String) : List String → List String
  | a :: rest =>
    match a.toList with
    | '-' :: c :: cs =>
      if c.isDigit then
        let digits := (c :: cs).takeWhile Char.isDigit
        let more := (c :: cs).drop digits.length
        let kind := if more.contains 'c' then "-c" else letter
        [kind, String.ofList digits] ++ (if more.contains 'q' then ["-q"] else []) ++
          (if more.contains 'v' then ["-v"] else []) ++
          (if more.contains 'f' then ["-f"] else []) ++ rest
      else a :: rest
    | _ => a :: rest
  | [] => []

/-- the options of `head` and `tail` -/
def endRules : OptionRules :=
  .of "qvzfF" "ncs" [("lines", "n", .always), ("bytes", "c", .always), ("quiet", "q", .never),
    ("silent", "q", .never), ("verbose", "v", .never), ("zero-terminated", "z", .never),
    ("follow", "f", .maybe), ("pid", "p", .always), ("retry", "F", .never),
    ("sleep-interval", "s", .always)]

def head (args : List String) : Activity Nat :=
  withOptions "head" { endRules with plain := "qvz", valued := "nc" } 1 (withNumberOption "-n" args)
      fun g => do
  let isOctets := g.last? ["n", "c"] = some "c"
  let text := (g.value? (if isOctets then "c" else "n")).getD "10"
  let (isWithout, digits) := match text.toList with
    | '-' :: cs => (true, String.ofList cs)
    | _ => (false, text)
  let most := if isOctets && isWithout then largestSize else largestCount
  match countWithin sizeLetters 0 most digits with
  | .error reason =>
    let what := if isOctets then "bytes" else "lines"
    refuse "head" s!"invalid number of {what}: {cited digits}{reason}" 1
  | .ok count =>
    let operands := if g.operands.isEmpty then ["-"] else g.operands
    let hasHeadings := match g.last? ["q", "v"] with
      | some "q" => false
      | some _ => true
      | none => 1 < operands.length
    let mark := if g.has "z" then '\x00' else '\n'
    let mut code := 0
    let mut isFirst := true
    for path in operands do
      match ← openOperand path with
      | .error f =>
        Tool.complain "head" s!"cannot open {quoted path} for reading: {f.message}"
        code := 1
      | .ok fd =>
        if hasHeadings then heading isFirst path
        isFirst := false
        let result ← if isWithout then (do
            match ← readAll fd with
            | .error f => return .error f
            | .ok cs =>
              Tool.out (if isOctets then cs.take (cs.length - count) else withoutLast mark count cs)
              return .ok ())
          else if isOctets then headOctets fd endless count
          else headParts fd mark count
        match result with
        | .ok _ => pure ()
        | .error f =>
          Tool.complain "head" s!"error reading {quoted (headingName path)}: {f.message}"
          code := 1
        close fd
    return code

/-! ## tail -/

/-- the last parts of a text -/
def lastParts (mark : Char) (count : Nat) (cs : List Char) : List Char :=
  let (parts, isEnded) := partsOf mark cs
  let kept := parts.drop (parts.length - count)
  let text := (kept.map (· ++ [mark])).flatten
  if isEnded then text else text.dropLast

/-- a text without its first parts -/
def withoutFirst (mark : Char) : Nat → List Char → List Char
  | 0, cs => cs
  | n + 1, cs =>
    match (splitAt? mark cs).2 with
    | some rest => withoutFirst mark n rest
    | none => []

/-- the end of a text, from a place counted from its start or from its end -/
def lastOf (isFrom isOctets : Bool) (mark : Char) (count : Nat) (cs : List Char) : List Char :=
  match isFrom, isOctets with
  | true, true => cs.drop (count - 1)
  | false, true => cs.drop (cs.length - count)
  | true, false => withoutFirst mark (count - 1) cs
  | false, false => lastParts mark count cs

def tail (args : List String) : Activity Nat :=
  let args := match args with
    | a :: rest =>
      match a.toList with
      | '+' :: c :: cs =>
        if c.isDigit then
          let digits := (c :: cs).takeWhile Char.isDigit
          (if (c :: cs).contains 'c' then "-c" else "-n") :: ("+" ++ String.ofList digits) :: rest
        else a :: rest
      | _ => withNumberOption "-n" args
    | [] => []
  withOptions "tail" endRules 1 args fun g => do
  let isOctets := g.last? ["n", "c"] = some "c"
  let text := (g.value? (if isOctets then "c" else "n")).getD "10"
  let isFrom := text.startsWith "+"
  let digits := if text.startsWith "-" then (text.drop 1).toString else text
  match countWithin sizeLetters 0 largestCount digits with
  | .error reason =>
    let what := if isOctets then "bytes" else "lines"
    refuse "tail" s!"invalid number of {what}: {cited digits}{reason}" 1
  | .ok count =>
    let operands := if g.operands.isEmpty then ["-"] else g.operands
    let hasHeadings := match g.last? ["q", "v"] with
      | some "q" => false
      | some _ => true
      | none => 1 < operands.length
    let mark := if g.has "z" then '\x00' else '\n'
    let mut code := 0
    let mut isFirst := true
    for path in operands do
      match ← openOperand path with
      | .error f =>
        Tool.complain "tail" s!"cannot open {quoted path} for reading: {f.message}"
        code := 1
      | .ok fd =>
        if hasHeadings then heading isFirst path
        isFirst := false
        match ← readAll fd with
        | .error f =>
          Tool.complain "tail" s!"error reading {quoted (headingName path)}: {f.message}"
          code := 1
        | .ok cs =>
          Tool.out (lastOf isFrom isOctets mark count cs)
        close fd
    if g.has "f" || g.has "F" then
      discard flush
      Activity.sleep (Nat.pow 10 18)
    return code

end PatternBuild.Shell.Tool
