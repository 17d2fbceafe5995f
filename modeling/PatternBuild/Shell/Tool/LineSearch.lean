import PatternBuild.Shell.Regex
import PatternBuild.Shell.Tool.Quantity

/-!
# Searching lines

`grep` prints the lines of files that one of several expressions matches.  `Matcher.find?` finds the
leftmost of the matches in a line that is the longest and meets the demands on its edges;
`searchFile` goes through the lines of one file, and `searchTree` through the files below a path.
-/

namespace PatternBuild.Shell.Tool

namespace LineSearch

open Activity

/-! ## matching -/

/-- what a match has to take -/
inductive Extent where
  | anything
  /-- whole words: no letter of a word stands next to the match -/
  | words
  | wholeLine
  deriving DecidableEq, Repr

/-- the expressions of which one has to match -/
structure Matcher where
  patterns : List Regex
  ignoresCase : Bool
  extent : Extent

namespace Matcher

/-- whether a match between two places meets the demand on its extent -/
def admits (m : Matcher) (s : Regex.Subject) (i j : Nat) : Bool :=
  match m.extent with
  | .anything => true
  | .words => !s.wordBefore i && !s.wordAt j
  | .wholeLine => i = 0 && j = s.text.size

/-- the farthest end of a match of one expression from a place -/
def endOf? (m : Matcher) (s : Regex.Subject) (i : Nat) (r : Regex) : Option Nat :=
  if r.asksAgain then
    (r.tryFrom s ((r.size + 2) * (s.text.size + 2)) i [] fun j found =>
      if m.admits s i j then some (j, found) else none).map (·.1)
  else (r.ends s i).find? (m.admits s i)

/-- the farthest end of a match from a place -/
def endAt? (m : Matcher) (s : Regex.Subject) (i : Nat) : Option Nat :=
  (m.patterns.filterMap (m.endOf? s i)).max?

/-- the first match at a place or after it, of at most `n` places -/
def findUpTo (m : Matcher) (s : Regex.Subject) : Nat → Nat → Option (Nat × Nat)
  | 0, _ => none
  | n + 1, i =>
    match m.endAt? s i with
    | some j => some (i, j)
    | none => if m.extent = .wholeLine then none else findUpTo m s n (i + 1)

/-- the first match at a place or after it -/
def find? (m : Matcher) (s : Regex.Subject) (start : Nat) : Option (Nat × Nat) :=
  m.findUpTo s (s.text.size + 1 - start) start

/-- the text of a line to look in -/
def subject (m : Matcher) (line : List Char) : Regex.Subject := Regex.subject m.ignoresCase line

/-- the matches of a line that are not empty, from a place on -/
def matchesFrom (m : Matcher) (s : Regex.Subject) : Nat → Nat → List (Nat × Nat)
  | 0, _ => []
  | n + 1, i =>
    match m.find? s i with
    | none => []
    | some (a, b) => if a = b then matchesFrom m s n (a + 1) else (a, b) :: matchesFrom m s n b

/-- the matches of a line that are not empty -/
def allMatches (m : Matcher) (s : Regex.Subject) : List (Nat × Nat) :=
  m.matchesFrom s (s.text.size + 1) 0

end Matcher

/-! ## style -/

/-- what is printed of the lines that are selected -/
inductive Shown where
  | lines
  | matchesOnly
  | count
  | names
  | namesWithout
  | nothing
  deriving DecidableEq, Repr

/-- what becomes of files that hold more than text -/
inductive BinaryRule where
  | reported
  | asText
  | skipped
  deriving DecidableEq, Repr

/-- what becomes of directories -/
inductive DirectoryRule where
  | reported
  | skipped
  | searched
  deriving DecidableEq, Repr

/-- how lines are searched and shown -/
structure Style where
  matcher : Matcher
  isInverted : Bool
  shown : Shown
  limit : Option Nat
  before : Nat
  after : Nat
  /-- what stands between groups of lines that do not follow each other -/
  separator : Option String
  hasNames : Bool
  hasNumbers : Bool
  hasOffsets : Bool
  alignsTabs : Bool
  isColored : Bool
  /-- names end with a NUL character -/
  endsNames : Bool
  mark : Char
  label : String
  binary : BinaryRule
  directories : DirectoryRule
  isSilent : Bool
  /-- links inside of directories are followed -/
  followsLinks : Bool
  /-- the files that are searched: patterns in the order they were given, and whether they let in -/
  files : List (Bool × String)
  /-- the patterns of directories that are not searched -/
  skippedDirs : List String

/-- a text in a color -/
def colored (s : Style) (code : String) (cs : List Char) : List Char :=
  if s.isColored && !cs.isEmpty then
    ("\x1b[" ++ code ++ "m\x1b[K").toList ++ cs ++ "\x1b[m\x1b[K".toList
  else cs

/-- what stands in front of a line -/
def heading (s : Style) (name : String) (number offset : Nat) (separator : Char) : List Char :=
  let mark := colored s "36" [separator]
  let aligned (n : Nat) : List Char :=
    (if s.alignsTabs then padLeft 2 (toString n) else toString n).toList
  let parts :=
    (if s.hasNames then
      colored s "35" name.toList ++ if s.endsNames then ['\x00'] else mark
    else []) ++
    (if s.hasNumbers then colored s "32" (aligned number) ++ mark else []) ++
    (if s.hasOffsets then colored s "32" (aligned offset) ++ mark else [])
  if s.alignsTabs && !parts.isEmpty then parts ++ ['\t'] else parts

/-- a line with its matches in color -/
def highlighted (s : Style) (line : List Char) : List Char :=
  let subject := s.matcher.subject line
  let (pieces, stop) := (s.matcher.allMatches subject).foldl (fun (pieces, at_) (a, b) =>
    (colored s "01;31" (subject.slice a b) :: subject.slice at_ a :: pieces, b)) (([] : List (List Char)), 0)
  pieces.reverse.flatten ++ line.drop stop

/-! ## lines -/

/-- where a search in one file stands -/
structure Place where
  number : Nat
  offset : Nat
  count : Nat
  /-- the lines in front, the latest first, with their offsets -/
  held : List (Nat × List Char)
  /-- the number of lines that are still printed as context -/
  following : Nat
  /-- the number of the line that was printed last -/
  lastShown : Option Nat
  /-- the number of octets that were read since the last line that was selected -/
  trailing : Nat
  /-- the file holds more than text -/
  isBinary : Bool
  /-- a separator stands in front of the next group -/
  hasGroups : Bool
  isOver : Bool

/-- print a line with what stands in front of it -/
def showLine (s : Style) (name : String) (number offset : Nat) (separator : Char) (line : List Char) :
    Activity Unit :=
  let text := if s.isColored && separator = ':' && !s.isInverted then highlighted s line else line
  Tool.out (heading s name number offset separator ++ text ++ [s.mark])

/-- print the lines that are held, and a separator in front of them if lines are left out -/
def showHeld (s : Style) (name : String) (p : Place) : Activity Unit := do
  let first := p.number - p.held.length
  if p.hasGroups && p.lastShown.all (· + 1 < first) then
    match s.separator with
    | some text => Tool.out (colored s "36" text.toList ++ ['\n'])
    | none => pure ()
  for ((offset, line), k) in p.held.reverse.zipIdx do
    showLine s name (first + k) offset '-' line

/-- go on with the next line; false if no more are wanted -/
def searchLine (s : Style) (name : String) (p : Place) (line : List Char) (isEnded : Bool) :
    Activity (Place × Bool) := do
  let number := p.number + 1
  let offset := p.offset
  let size := line.length + if isEnded then 1 else 0
  let subject := s.matcher.subject line
  let isSelected := (s.matcher.find? subject 0).isSome != s.isInverted
  let p := { p with
    number, offset := offset + size
    isBinary := p.isBinary || (s.binary ≠ BinaryRule.asText && s.mark == '\n' && line.contains '\x00') }
  let isShown := s.shown = .lines && !p.isBinary
  let isFull := s.limit.any (· ≤ p.count)
  if isFull then
    -- only lines that follow are still printed
    if p.following = 0 then return ({ p with trailing := p.trailing + size }, false)
    if isShown then showLine s name number offset '-' line
    return ({ p with following := p.following - 1, trailing := p.trailing + size }, 1 < p.following)
  else if isSelected then
    let p := { p with count := p.count + 1, trailing := 0 }
    match s.shown with
    | .nothing => return ({ p with isOver := true }, false)
    | .names => return (p, false)
    | .namesWithout => return (p, false)
    | .count => return (p, !s.limit.any (· ≤ p.count))
    | shown =>
      if p.isBinary then return (p, false)
      let p ← if shown = .lines then do
          showHeld s name p
          showLine s name number offset ':' line
          pure { p with held := [], following := s.after, lastShown := some number, hasGroups := true }
        else do
          if !s.isInverted then
            for (a, b) in s.matcher.allMatches subject do
              let part := colored s "01;31" (subject.slice a b)
              Tool.out (heading s name number (offset + a) ':' ++ part ++ [s.mark])
          pure p
      return (p, !(s.limit.any (· ≤ p.count)) || (shown = .lines && 0 < s.after))
  else
    let p := { p with trailing := p.trailing + size }
    if 0 < p.following then
      if isShown then showLine s name number offset '-' line
      return ({ p with following := p.following - 1, lastShown := some number }, true)
    let held := if isShown && 0 < s.before then ((offset, line) :: p.held).take s.before else []
    return ({ p with held }, true)

/-! ## files -/

/-- what a search has found so far -/
structure Findings where
  hasMatch : Bool
  hasFault : Bool
  hasGroups : Bool
  isOver : Bool

/-- tell why a file cannot be searched -/
def report (s : Style) (message : String) (f : Findings) : Activity Findings := do
  if !s.isSilent then Tool.complain "grep" message
  return { f with hasFault := true }

/-- whether a descriptor leads to the file that is written -/
def isOutput (fd : Nat) : Activity Bool := do
  match ← streamOf fd, ← streamOf 1 with
  | some (_, .file n _ _), some (_, .file m _ _) => return n = m
  | _, _ => return false

/-- search what a descriptor gives -/
def searchStream (s : Style) (name : String) (fd : Nat) (f : Findings) : Activity Findings := do
  let prints := s.shown = .lines || s.shown = .matchesOnly || s.shown = .count
  if prints && s.limit.all (1 < ·) && (← isOutput fd) then
    return ← report s s!"{name}: input file is also the output" f
  let size := 98304
  match ← readBlock fd size with
  | .error fault => report s s!"{name}: {fault.message}" f
  | .ok first =>
    let isBinary := s.binary ≠ BinaryRule.asText && s.mark == '\n' && first.contains '\x00'
    if isBinary && s.binary = .skipped then return f
    let start : Place := ⟨0, 0, 0, [], 0, none, 0, isBinary, f.hasGroups, false⟩
    match ← forPartsUpTo fd s.mark size (searchLine s name) endless first start with
    | .error fault => report s s!"{name}: {fault.message}" f
    | .ok p =>
      let isFull := s.limit.any (· ≤ p.count)
      if fd = 0 && isFull && 0 < p.trailing then seekBack fd p.trailing
      if fd = 0 && !isFull && !prints then
        match ← streamOf fd with
        | some (_, .file _ _ _) => discard (readAll fd)
        | _ => pure ()
      let hasMatch := 0 < p.count
      let named (ending : Char) : List Char :=
        colored s "35" name.toList ++ [if s.endsNames then '\x00' else ending]
      match s.shown with
      | .count =>
        let heading := if s.hasNames then
            colored s "35" name.toList ++ if s.endsNames then ['\x00'] else colored s "36" [':']
          else []
        Tool.out (heading ++ (toString p.count).toList ++ ['\n'])
      | .names => if hasMatch then Tool.out (named '\n')
      | .namesWithout => if !hasMatch then Tool.out (named '\n')
      | .nothing => pure ()
      | _ => if hasMatch && p.isBinary then Tool.complain "grep" s!"{name}: binary file matches"
      return { f with
        hasMatch := f.hasMatch || hasMatch, hasGroups := p.hasGroups, isOver := f.isOver || p.isOver }

/-- whether a name fits one of the ends of a path that start behind a slash, or the whole -/
def fitsEnd (pattern path : String) : Bool :=
  let parts := path.splitOn "/"
  (List.range parts.length).any fun k =>
    Wildcard.fits (Wildcard.ofText pattern) ("/".intercalate (parts.drop k)).toList

/-- whether a file is searched: the last pattern that fits decides -/
def letsIn (s : Style) (fits : String → Bool) : Bool :=
  match s.files.reverse.find? fun (_, pattern) => fits pattern with
  | some (isIncluded, _) => isIncluded
  | none => s.files.head?.all fun (isIncluded, _) => !isIncluded

/-- search one file -/
def searchFile (s : Style) (path : String) (f : Findings) : Activity Findings := do
  match ← openToRead path with
  | .error fault => report s s!"{path}: {fault.message}" f
  | .ok fd =>
    let f ← searchStream s path fd f
    close fd
    return f

/-- search the files below a directory -/
def searchTree (s : Style) : Nat → String → Findings → Activity Findings
  | 0, _, f => return f
  | n + 1, path, f => do
    match (← disk).stat (if path = "" then "." else path) with
    | .error fault => report s s!"{path}: {fault.message}" f
    | .ok (l, _) =>
      let mut f := f
      for name in (← disk).namesIn l do
        let inner := if path = "" then name else if path.endsWith "/" then path ++ name
          else path ++ "/" ++ name
        let fits (pattern : String) : Bool := Wildcard.fits (Wildcard.ofText pattern) name.toList
        let d ← disk
        let found := if s.followsLinks then d.stat inner else d.linkStat inner
        if !f.isOver then
          f ← match found with
          | .ok (_, .dir _ _) => if s.skippedDirs.any fits then pure f else searchTree s n inner f
          | .ok (_, .file _) => if letsIn s fits then searchFile s inner f else pure f
          | .ok _ => pure f
          | .error fault => report s s!"{inner}: {fault.message}" f
      return f

/-- search an operand -/
def searchOperand (s : Style) (path : String) (f : Findings) : Activity Findings := do
  if path = "-" then searchStream s s.label 0 f
  else
    match (← disk).stat path with
    | .ok (_, .dir _ _) =>
      if s.skippedDirs.any fun p => fitsEnd p (String.ofList (path.toList.reverse.dropWhile (· == '/')).reverse)
      then return f
      match s.directories with
      | .searched => searchTree s 1000 path f
      | .skipped => return f
      | .reported => report s s!"{path}: Is a directory" f
    | _ => if letsIn s (fitsEnd · path) then searchFile s path f else return f

/-! ## arguments -/

/-- tell how the program is called, and end -/
def misuse (message : Option String) : Activity Nat := do
  match message with
  | some text => Tool.complain "grep" text
  | none => pure ()
  tell "Usage: grep [OPTION]... PATTERNS [FILE]...\nTry 'grep --help' for more information.\n"
  return 2

/-- the lines of context that digits among the options ask for -/
def digitsOf (g : Given) : Option Nat :=
  let isDigit (o : String × String) : Bool := o.1.length = 1 && o.1.toList.all Char.isDigit
  let run := ((g.options.reverse.dropWhile fun o => !isDigit o).takeWhile isDigit).reverse
  ("".intercalate (run.map (·.1))).toNat?

/-- the value of an option as a number -/
def numberOf (g : Given) (names : List String) : Except String (Option Nat) :=
  match g.last? names with
  | none => .ok none
  | some name =>
    match (g.valueOf name).toNat? with
    | some n => .ok (some n)
    | none => .error s!"{g.valueOf name}: invalid context length argument"

def options : OptionRules :=
  .of "EFGPVHILTUZabchilnoqRrsvwxyz0123456789" "ABCDXefdm" [("extended-regexp", "E", .never),
    ("fixed-strings", "F", .never), ("fixed-regexp", "F", .never), ("basic-regexp", "G", .never),
    ("perl-regexp", "P", .never), ("regexp", "e", .always), ("file", "f", .always),
    ("ignore-case", "i", .never), ("no-ignore-case", "no-ignore-case", .never),
    ("word-regexp", "w", .never), ("line-regexp", "x", .never), ("null-data", "z", .never),
    ("no-messages", "s", .never), ("invert-match", "v", .never), ("version", "V", .never),
    ("help", "help", .never), ("max-count", "m", .always), ("byte-offset", "b", .never),
    ("line-number", "n", .never), ("line-buffered", "line-buffered", .never),
    ("with-filename", "H", .never), ("no-filename", "h", .never), ("label", "label", .always),
    ("only-matching", "o", .never), ("quiet", "q", .never), ("silent", "q", .never),
    ("binary-files", "binary-files", .always), ("text", "a", .never), ("directories", "d", .always),
    ("devices", "D", .always), ("recursive", "r", .never), ("dereference-recursive", "R", .never),
    ("include", "include", .always), ("exclude", "exclude", .always),
    ("exclude-from", "exclude-from", .always), ("exclude-dir", "exclude-dir", .always),
    ("files-without-match", "L", .never), ("files-with-matches", "l", .never),
    ("count", "c", .never), ("initial-tab", "T", .never), ("null", "Z", .never),
    ("before-context", "B", .always), ("after-context", "A", .always), ("context", "C", .always),
    ("group-separator", "group-separator", .always),
    ("no-group-separator", "no-group-separator", .never), ("color", "color", .maybe),
    ("colour", "color", .maybe), ("binary", "U", .never)]

/-- the pattern texts that options give; none if a file of them cannot be read -/
def patternTexts : List (String × String) → Activity (Except String (List (List Char)))
  | [] => return .ok []
  | (name, value) :: rest => do
    match name with
    | "e" => return (← patternTexts rest).map ((value.toList.splitOn '\n') ++ ·)
    | "f" =>
      match ← contentOf value with
      | .error fault => return .error s!"{value}: {fault.message}"
      | .ok cs => return (← patternTexts rest).map (linesOf cs ++ ·)
    | _ => patternTexts rest

/-- the expression of a pattern text -/
def readPattern (g : Given) (text : List Char) : Except String Regex :=
  match g.last? ["E", "F", "G", "P"] with
  | some "F" => .ok (Regex.ofText text)
  | kind =>
    let spelling := if kind = some "E" then RegexSpelling.extended else .basic
    if text.take 2 == ['[', ':'] && text.length ≠ 2 && text.drop (text.length - 2) == [':', ']'] then
      .error "character class syntax is [[:space:]], not [:space:]"
    else (Regex.read spelling text).mapError RegexFault.message

/-- how a search is done, from its options -/
def styleOf (g : Given) (patterns : List Regex) (hasNames : Bool) : Except String Style := do
  let digits := digitsOf g
  let both := (← numberOf g ["C"]).orElse fun _ => digits
  let before := (← numberOf g ["B"]).orElse fun _ => both
  let after := (← numberOf g ["A"]).orElse fun _ => both
  let limit ← match g.value? "m" with
    | none => pure none
    | some text =>
      match text.toInt? with
      | some n => pure (if n < 0 then none else some n.toNat)
      | none => throw "invalid max count"
  let binary := g.options.foldl (fun (rule : BinaryRule) (name, value) =>
    match name, value with
    | "a", _ => .asText
    | "I", _ => .skipped
    | "binary-files", "text" => .asText
    | "binary-files", "without-match" => .skipped
    | "binary-files", _ => .reported
    | _, _ => rule) BinaryRule.reported
  let directories := g.options.foldl (fun (rule : DirectoryRule) (name, value) =>
    match name, value with
    | "r", _ => .searched
    | "R", _ => .searched
    | "d", "recurse" => .searched
    | "d", "skip" => .skipped
    | "d", _ => .reported
    | _, _ => rule) DirectoryRule.reported
  let shown : Shown :=
    if g.has "q" then .nothing
    else match g.last? ["l", "L"] with
      | some "l" => .names
      | some _ => .namesWithout
      | none => if g.has "c" then .count else if g.has "o" then .matchesOnly else .lines
  return {
    matcher := ⟨patterns, (g.last? ["i", "y", "no-ignore-case"]).any (· ≠ "no-ignore-case"),
      if g.has "x" then .wholeLine else if g.has "w" then .words else .anything⟩
    isInverted := g.has "v"
    shown, limit
    before := before.getD 0
    after := after.getD 0
    separator := if before.isNone && after.isNone then none else match g.last? ["group-separator", "no-group-separator"] with
      | some "group-separator" => some (g.valueOf "group-separator")
      | some _ => none
      | none => some "--"
    hasNames := match g.last? ["H", "h"] with
      | some name => name = "H"
      | none => hasNames
    hasNumbers := g.has "n"
    hasOffsets := g.has "b"
    alignsTabs := g.has "T"
    isColored := (g.value? "color").any (["always", "yes", "force"].contains ·)
    endsNames := g.has "Z"
    mark := if g.has "z" then '\x00' else '\n'
    label := (g.value? "label").getD "(standard input)"
    binary, directories
    isSilent := g.has "s"
    followsLinks := g.last? ["r", "R"] = some "R"
    files := g.options.filterMap fun (name, value) =>
      if name = "include" then some (true, value)
      else if name = "exclude" then some (false, value) else none
    skippedDirs := (g.values "exclude-dir").map fun p =>
      String.ofList (p.toList.reverse.dropWhile (· == '/')).reverse }

end LineSearch

open Activity LineSearch in
/-- search with some options that come before the given ones -/
def grep (given : List String) (args : List String) : Activity Nat := do
  match readOptions LineSearch.options (given ++ args) with
  | .error p => LineSearch.misuse (some p.message)
  | .ok g =>
    if g.has "V" then
      Tool.say "grep (GNU grep) 3.11\n"
      return 0
    let hasPatterns := g.has "e" || g.has "f"
    if !hasPatterns && g.operands.isEmpty then return ← LineSearch.misuse none
    let operands := if hasPatterns then g.operands else g.operands.drop 1
    match ← patternTexts g.options with
    | .error message => refuse "grep" message 2
    | .ok texts =>
      let texts := if hasPatterns then texts else (firstOf g.operands).toList.splitOn '\n'
      match texts.mapM (readPattern g) with
      | .error message => refuse "grep" message 2
      | .ok patterns =>
        let isDir (path : String) (d : Disk) : Bool := match d.stat path with
          | .ok (_, .dir _ _) => true
          | _ => false
        let d ← disk
        match styleOf g patterns false with
        | .error message => refuse "grep" message 2
        | .ok s =>
          let isDeep := s.directories = .searched
          let hasNames := match g.last? ["H", "h"] with
            | some name => name = "H"
            | none => 1 < operands.length ||
                (isDeep && (operands.isEmpty || operands.any (isDir · d)))
          let s := { s with hasNames }
          let isHopeless := s.limit = some 0 ||
            (texts == [[]] && s.isInverted && s.matcher.extent = .anything)
          if isHopeless && s.shown ≠ .namesWithout then return 1
          let start : Findings := ⟨false, false, false, false⟩
          let mut f := start
          if operands.isEmpty then
            f ← if isDeep then searchTree s 1000 "" f else searchOperand s "-" f
          else
            for path in operands do
              if !f.isOver then f ← searchOperand s path f
          if f.isOver then return 0
          return if f.hasFault then 2 else if f.hasMatch then 0 else 1

end PatternBuild.Shell.Tool
