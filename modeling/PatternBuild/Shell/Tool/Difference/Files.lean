import PatternBuild.Shell.Regex
import PatternBuild.Shell.Tool.Calendar
import PatternBuild.Shell.Tool.Changes
import PatternBuild.Shell.Tool.Difference.Report

/-!
# Tools that compare files

Files and directories are compared, and the lines of two files are chosen from.
-/

/-!
## Comparing files

`diff` reports the changes between the lines of two files, or of the files of two directories, and
`cmp` the first octet in which two files differ.
-/

namespace PatternBuild.Shell.Tool

namespace Difference

open Activity

/-! ### lines that count as equal -/

/-- what does not count when lines are compared -/
structure Tolerance where
  ignoresCase : Bool
  ignoresAllSpace : Bool
  ignoresSpaceChange : Bool
  ignoresTrailing : Bool
  ignoresTabs : Bool
  tabSize : Nat

def isSpaceChar (c : Char) : Bool := c == ' ' || ('\t' ≤ c && c ≤ '\r')

namespace Tolerance

/-- runs of blanks as one blank -/
def squeezed : List Char → List Char
  | a :: b :: cs =>
    if isSpaceChar a then
      if isSpaceChar b then squeezed (b :: cs) else ' ' :: squeezed (b :: cs)
    else a :: squeezed (b :: cs)
  | [a] => [if isSpaceChar a then ' ' else a]
  | [] => []

def trimmed (cs : List Char) : List Char := (cs.reverse.dropWhile isSpaceChar).reverse

/-- what counts of a line -/
def key (t : Tolerance) (line : List Char) : String :=
  let cs := if t.ignoresCase then line.map Char.toLower else line
  let cs := if t.ignoresTabs then untabbed t.tabSize 0 cs else cs
  String.ofList <|
    if t.ignoresAllSpace then cs.filter fun c => !isSpaceChar c
    else if t.ignoresSpaceChange then squeezed (trimmed cs)
    else if t.ignoresTrailing then trimmed cs else cs

/-- whether it counts that the last line has no end -/
def seesEnd (t : Tolerance) : Bool := !(t.ignoresAllSpace || t.ignoresSpaceChange || t.ignoresTrailing)

end Tolerance

/-! ### style -/

/-- how files are compared -/
structure Comparing where
  tolerance : Tolerance
  report : ReportStyle
  isBrief : Bool
  tellsSame : Bool
  isDeep : Bool
  /-- which of two files counts as empty if it is not there -/
  fillsOld : Bool
  fillsNew : Bool
  isText : Bool
  dropsReturns : Bool
  excluded : List String
  /-- the first name of directories that is looked at -/
  start : Option String
  labels : List String
  zone : Calendar.Zone
  /-- the options as they stand in headings of files in directories -/
  spelled : String

/-- a file that is compared -/
structure Source where
  name : String
  content : List Char
  time : Nat

/-- the lines of a file -/
def sideOf (c : Comparing) (label : Option String) (s : Source) : Side :=
  let format := if c.report.form = .context then "%a %b %e %T %Y" else "%Y-%m-%d %H:%M:%S.%N %z"
  let (parts, isEnded) := partsOf '\n' s.content
  let parts := if c.dropsReturns then parts.map fun p =>
      if p.getLast? == some '\r' then p.dropLast else p
    else parts
  ⟨s.name, label, Calendar.formatIn c.zone s.time format, parts.toArray, isEnded⟩

/-- the changes between two files -/
def changesOf (c : Comparing) (side0 side1 : Side) : List Change :=
  let exact (s : Side) : List String :=
    s.lines.toList.zipIdx.map fun (line, i) =>
      String.ofList (if i + 1 = s.lines.size && !s.isEnded then line else line ++ ['\n'])
  let keys (s : Side) : List String :=
    s.lines.toList.zipIdx.map fun (line, i) =>
      let isOpen := i + 1 = s.lines.size && !s.isEnded && c.tolerance.seesEnd
      c.tolerance.key line ++ if isOpen then "" else "\n"
  let margin := if c.report.form = .unified || c.report.form = .context then c.report.around else 0
  changes margin (exact side0) (exact side1) (keys side0) (keys side1) (side0.isEnded = side1.isEnded)

/-- compare two files; whether they differ -/
def compareSources (c : Comparing) (heading : Option String) (a b : Source) : Activity Bool := do
  let isBinary := !c.isText && ((a.content.take 4096).contains '\x00' || (b.content.take 4096).contains '\x00')
  let same : Activity Bool := do
    if c.tellsSame then Tool.say s!"Files {a.name} and {b.name} are identical\n"
    return false
  if isBinary then
    if a.content == b.content then return ← same
    let kind := if c.isBrief then "Files" else "Binary files"
    Tool.say s!"{kind} {a.name} and {b.name} differ\n"
    return true
  let side0 := sideOf c c.labels[0]? a
  let side1 := sideOf c c.labels[1]? b
  let all := if a.content == b.content then [] else changesOf c side0 side1
  let counts := all.any fun d => !c.report.isIgnored side0 side1 [d]
  if c.isBrief then
    if !counts then return ← same
    Tool.say s!"Files {a.name} and {b.name} differ\n"
    return true
  if counts || c.report.tellsCommon then
    match heading with
    | some text => Tool.say text
    | none => pure ()
    Tool.out (reportText c.report side0 side1 all)
  if counts then return true
  same

/-! ### files and directories -/

/-- the worse of two codes -/
def worse (m n : Nat) : Nat := max m n

/-- complain about what cannot be read -/
def trouble (name : String) (f : DiskFault) : Activity Nat := do
  Tool.complain "diff" s!"{name}: {f.message}"
  return 2

/-- read a file; one that is missing counts as empty -/
def readSource (isMissing : Bool) (path : String) : Activity (Except DiskFault Source) := do
  if isMissing then return .ok ⟨path, [], 0⟩
  match ← contentOf path with
  | .error f => return .error f
  | .ok cs =>
    let d ← disk
    let time := if path = "-" then d.now else match d.stat path with
      | .ok (_, node) => d.modifiedOf node
      | .error _ => 0
    return .ok ⟨path, cs, time⟩

/-- compare two files by their names -/
def comparePair (c : Comparing) (heading : Option String) (name0 name1 : String)
    (isMissing0 isMissing1 : Bool) : Activity Nat := do
  match ← readSource isMissing0 name0, ← readSource isMissing1 name1 with
  | .error f, .error g =>
    discard (trouble name0 f)
    trouble name1 g
  | .error f, _ => trouble name0 f
  | _, .error g => trouble name1 g
  | .ok a, .ok b =>
    let isFound ← compareSources c heading a b
    -- an editor cannot be told that the last line has no end
    let isEditor := c.report.form = .editor || c.report.form = .forwardEditor
    let mut code := if isFound then 1 else 0
    if isFound && isEditor && !c.isBrief then
      for s in [a, b] do
        if !(partsOf '\n' s.content).2 then
          Tool.complain "diff" s!"{s.name}: No newline at end of file\n"
          code := 2
    return code

/-- a name inside of a directory -/
def inside (dir name : String) : String := if dir.endsWith "/" then dir ++ name else dir ++ "/" ++ name

/-- the kind of a file in words -/
def kindWords (d : Disk) : DiskNode → String
  | .dir _ _ => "directory"
  | .file n => if (d.file n).content.isEmpty then "regular empty file" else "regular file"
  | .link _ _ => "symbolic link"
  | .fifo _ => "fifo"
  | .device _ => "character special file"

/-- compare the entries of two directories -/
def compareDirs (c : Comparing) : Nat → String → String → Activity Nat
  | 0, _, _ => return 2
  | n + 1, dir0, dir1 => do
    let namesOf (fills : Bool) (dir : String) : Activity (Except DiskFault (List String)) := do
      match (← disk).stat dir with
      | .ok (l, .dir _ _) => return .ok ((← disk).namesIn l)
      | .ok _ => return .ok []
      | .error f => if fills then return .ok [] else return .error f
    match ← namesOf c.fillsOld dir0, ← namesOf c.fillsNew dir1 with
    | .error f, _ => trouble dir0 f
    | _, .error f => trouble dir1 f
    | .ok names0, .ok names1 =>
      let isOut (name : String) : Bool :=
        (match c.start with
          | some first => decide (name < first)
          | none => false) ||
        c.excluded.any fun p => Wildcard.fits (Wildcard.ofText p) name.toList
      let c := { c with start := none }
      let names := ((names0 ++ names1.filter fun x => !names0.contains x).filter fun x => !isOut x).mergeSort
        fun a b => decide (a ≤ b)
      let mut code := 0
      for name in names do
        let path0 := inside dir0 name
        let path1 := inside dir1 name
        let d ← disk
        let node (path : String) : Option DiskNode := ((d.stat path).toOption).map (·.2)
        let isDir : Option DiskNode → Bool
          | some (.dir _ _) => true
          | _ => false
        let found0 := node path0
        let found1 := node path1
        if !names1.contains name && !c.fillsNew then
          Tool.say s!"Only in {dir0}: {name}\n"
          code := worse code 1
        else if !names0.contains name && !c.fillsOld then
          Tool.say s!"Only in {dir1}: {name}\n"
          code := worse code 1
        else if (isDir found0 || found0.isNone) && (isDir found1 || found1.isNone) &&
            (isDir found0 || isDir found1) then
          if c.isDeep then code := worse code (← compareDirs c n path0 path1)
          else if found0.isSome && found1.isSome then
            Tool.say s!"Common subdirectories: {path0} and {path1}\n"
          else
            Tool.say s!"Only in {if found0.isSome then dir0 else dir1}: {name}\n"
            code := worse code 1
        else if isDir found0 != isDir found1 && found0.isSome && found1.isSome then
          let words (f : Option DiskNode) : String := (f.map (kindWords d)).getD ""
          Tool.say s!"File {path0} is a {words found0} while file {path1} is a {words found1}\n"
          code := worse code 1
        else
          let heading := s!"diff{c.spelled} {shown path0} {shown path1}\n"
          code := worse code (← comparePair c (some heading) path0 path1 found0.isNone found1.isNone)
      return code

/-- compare two operands -/
def compareOperands (c : Comparing) (name0 name1 : String) : Activity Nat := do
  let d ← disk
  let isDir (path : String) : Bool := path ≠ "-" && d.isDir path
  let isMissing (path : String) : Bool := path ≠ "-" && !d.isPresent path
  if isDir name0 && isDir name1 then
    -- a directory is the same as itself
    if d.canonical? name0 = d.canonical? name1 && !c.report.tellsCommon then return 0
    if c.report.form = .merged then return ← refuse "diff" "-D option not supported with directories" 2
    return ← compareDirs c 1000 name0 name1
  if (isDir name0 && isMissing name1 && c.fillsNew) || (isMissing name0 && isDir name1 && c.fillsOld) then
    return ← compareDirs c 1000 name0 name1
  -- a directory stands for the file of the same name in it
  let base (path : String) : String := (path.splitOn "/").getLast?.getD path
  let path0 := if isDir name0 && name1 ≠ "-" && !isMissing name1 then inside name0 (base name1) else name0
  let path1 := if isDir name1 && name0 ≠ "-" && !isMissing name0 then inside name1 (base name0) else name1
  let isLost := isMissing path0 && isMissing path1
  if (isDir name0 || isDir name1) && (name0 = "-" || name1 = "-") then
    return ← refuse "diff" "cannot compare '-' to a directory" 2
  let absent := [(path0, c.fillsOld), (path1, c.fillsNew)].filter fun (path, fills) =>
    isMissing path && (isLost || !fills)
  if !absent.isEmpty then
    for (path, _) in absent do
      if let .error f := d.stat path then discard (trouble path f)
    return 2
  comparePair c none path0 path1 (!isLost && c.fillsOld && isMissing path0)
    (!isLost && c.fillsNew && isMissing path1)

/-! ### arguments -/

def options : OptionRules :=
  .of "0123456789abBcdeEfHilnNpPqrstTuvwyZ" "CDFILSUWxX" [("text", "a", .never),
    ("ignore-space-change", "b", .never), ("ignore-blank-lines", "B", .never),
    ("context", "context", .maybe), ("minimal", "d", .never), ("ed", "e", .never),
    ("ignore-tab-expansion", "E", .never), ("forward-ed", "f", .never),
    ("show-function-line", "F", .always), ("ignore-case", "i", .never),
    ("ignore-matching-lines", "I", .always), ("label", "L", .always), ("rcs", "n", .never),
    ("new-file", "N", .never), ("show-c-function", "p", .never), ("brief", "q", .never),
    ("recursive", "r", .never), ("report-identical-files", "s", .never), ("expand-tabs", "t", .never),
    ("initial-tab", "T", .never), ("unified", "unified", .maybe), ("ignore-all-space", "w", .never),
    ("width", "W", .always), ("exclude", "x", .always), ("side-by-side", "y", .never),
    ("ignore-trailing-space", "Z", .never), ("strip-trailing-cr", "strip", .never),
    ("suppress-common-lines", "suppress", .never), ("left-column", "left", .never),
    ("normal", "normal", .never), ("color", "color", .maybe), ("version", "v", .never),
    ("help", "help", .never), ("speed-large-files", "H", .never),
    ("no-dereference", "no-dereference", .never), ("exclude-from", "X", .always), ("ifdef", "D", .always),
    ("starting-file", "S", .always), ("unidirectional-new-file", "P", .never), ("paginate", "l", .never),
    ("from-file", "from-file", .always), ("to-file", "to-file", .always), ("tabsize", "tabsize", .always),
    ("horizon-lines", "horizon-lines", .always), ("palette", "palette", .always),
    ("suppress-blank-empty", "suppress-blank-empty", .never),
    ("ignore-file-name-case", "ignore-names", .never), ("no-ignore-file-name-case", "see-names", .never),
    ("line-format", "line-format", .always), ("old-line-format", "old-line-format", .always),
    ("new-line-format", "new-line-format", .always),
    ("unchanged-line-format", "unchanged-line-format", .always),
    ("old-group-format", "old-group-format", .always), ("new-group-format", "new-group-format", .always),
    ("unchanged-group-format", "unchanged-group-format", .always),
    ("changed-group-format", "changed-group-format", .always)]

/-- the formats of merged reports that options give -/
def mergingOf (g : Given) : MergeFormats :=
  let start := match g.value? "D" with
    | some name => some (MergeFormats.choosing name)
    | none => none
  let given (name : String) : Option (List Char) := (g.value? name).map String.toList
  let line (name : String) : List Char :=
    let found := (g.options.reverse.find? fun (n, _) => n = name ++ "-line-format" || n = "line-format").map (·.2.toList)
    found.getD (if start.isSome then "%L".toList else "%l\n".toList)
  let group (name : String) (usual : List Char) : List Char := (given (name ++ "-group-format")).getD usual
  let changed := given "changed-group-format"
  let old := group "old" ((start.map (·.group.old)).getD (changed.getD "%<".toList))
  let new := group "new" ((start.map (·.group.new)).getD (changed.getD "%>".toList))
  { line := ⟨line "old", line "new", line "unchanged"⟩
    group := ⟨old, new, group "unchanged" "%=".toList⟩
    changed := changed.getD ((start.map (·.changed)).getD (old ++ new)) }

/-- a wrong use, and whether it comes with a hint at the help -/
structure Misuse where
  message : String
  hasHint : Bool

/-- what an option settles: the name of each thing with its value -/
def settledBy (name value : String) : List (String × String) :=
  match name with
  | "D" =>
    let start := MergeFormats.choosing value
    [("old-group", String.ofList start.group.old), ("new-group", String.ofList start.group.new),
      ("changed-group", String.ofList start.changed)]
  | "line-format" => ["old-line", "new-line", "unchanged-line"].map fun n => (n, value)
  | name =>
    if name.endsWith "-line-format" || name.endsWith "-group-format" then [((name.dropEnd 7).toString, value)]
    else if ["from-file", "to-file", "S", "W", "tabsize"].contains name then [(name, value)] else []

/-- how an option is named in messages -/
def optionName (name : String) : String := if name.length = 1 then "-" ++ name else "--" ++ name

/-- the first wrong value among options, or the first that conflicts with an earlier one -/
def firstMisuse? (settled : List (String × String)) : List (String × String) → Option Misuse
  | [] => none
  | (name, value) :: rest =>
    let isNumber := (natural? value).isSome
    let isPositive := isNumber && natural? value ≠ some 0
    let invalid (what : String) : Option Misuse := some ⟨s!"invalid {what} '{value}'", true⟩
    let wrong : Option Misuse :=
      match name with
      | "W" => if isPositive then none else invalid "width"
      | "tabsize" => if isPositive then none else invalid "tabsize"
      | "horizon-lines" => if isNumber then none else invalid "horizon length"
      | "color" => if ["", "auto", "always", "never"].contains value then none else invalid "color"
      | _ =>
        if !(["U", "C", "unified", "context"].contains name) || isNumber || (value = "" && 1 < name.length) then none
        else invalid "context length"
    let new := settledBy name value
    let conflict := new.findSome? fun (n, v) => (settled.lookup n).bind fun old =>
      if name = "W" || name = "tabsize" then
        let what := if name = "W" then "width" else name
        if natural? old = natural? v then none else some ⟨s!"conflicting {what} options", false⟩
      else if old = v then none
      else some ⟨s!"conflicting {optionName name} option value '{v}'", true⟩
    wrong <|> conflict <|> firstMisuse? (settled ++ new) rest

/-- the forms that options ask for -/
def formsOf (g : Given) : List Form :=
  (g.options.filterMap fun (name, _) =>
    match name with
    | "u" => some Form.unified
    | "U" => some .unified
    | "unified" => some .unified
    | "c" => some .context
    | "C" => some .context
    | "context" => some .context
    | "e" => some .editor
    | "f" => some .forwardEditor
    | "n" => some .counted
    | "y" => some .sideBySide
    | "normal" => some .normal
    | "D" => some .merged
    | name => if name.endsWith "-format" then some .merged else none).eraseDups

/-- how files are compared, from the options and the patterns that files list -/
def comparingOf (zone : Calendar.Zone) (g : Given) (words listed : List String) : Except Misuse Comparing := do
  if let some m := firstMisuse? [] g.options then throw m
  let hinted (message : String) : Misuse := ⟨message, true⟩
  let form ← match formsOf g with
    | [] => pure (if g.has "p" || g.has "F" then Form.context else .normal)
    | [form] => pure form
    | _ => throw (hinted "conflicting output style options")
  let digits := (g.options.filter fun (name, _) => name.length = 1 && name.toList.all Char.isDigit).map (·.1)
  let counts := (g.options.filterMap fun (name, value) =>
    if ["U", "C", "unified", "context"].contains name then
      if value = "" then some 3 else natural? value
    else if name = "u" || name = "c" then some 3 else none)
  let around := match natural? ("".intercalate digits) with
    | some n => n
    | none => (counts.max?).getD 3
  let regexes ← (g.values "I").mapM fun text =>
    (Regex.read .basic text.toList).mapError fun f => hinted s!"{text}: {f.message}"
  let isHeading ← match g.value? "F" with
    | some text =>
      let r ← (Regex.read .basic text.toList).mapError fun f => hinted s!"{text}: {f.message}"
      pure (some fun line => r.occurs false line)
    | none =>
      pure (if g.has "p" then
        some fun (line : List Char) => line.head?.any fun c => c.isAlpha || c == '_' || c == '$'
      else none)
  let ignoresBlank := g.has "B"
  let tabSize := ((g.value? "tabsize").bind natural?).getD 8
  return {
    tolerance := ⟨g.has "i", g.has "w", g.has "b", g.has "Z", g.has "E", tabSize⟩
    report := {
      form, around, isHeading
      ignoresLine := fun line =>
        (ignoresBlank && (line.isEmpty || (g.has "b" || g.has "w") && line.all isSpaceChar)) ||
          regexes.any (·.occurs false line)
      width := ((g.value? "W").bind natural?).getD 130
      tabSize
      merging := mergingOf g
      leavesCommon := g.has "suppress"
      onlyLeftCommon := g.has "left"
      expandsTabs := g.has "t"
      startsWithTab := g.has "T" }
    isBrief := g.has "q"
    tellsSame := g.has "s"
    isDeep := g.has "r"
    fillsOld := g.has "N" || g.has "P"
    fillsNew := g.has "N"
    isText := g.has "a"
    dropsReturns := g.has "strip"
    excluded := g.values "x" ++ listed
    start := g.value? "S"
    labels := g.values "L"
    zone
    spelled := String.join (words.map fun w => " " ++ shown w) }

/-- the words that are no operands -/
def optionWords (words operands : List String) : List String :=
  (operands.foldr (fun operand (words : List String) => (words.reverse.erase operand).reverse) words)

/-- complain about the use of a program that names itself in the hint too -/
def misused (program message : String) : Activity Nat := do
  Tool.complain program message
  Tool.complain program s!"Try '{program} --help' for more information."
  return 2

/-- complain about a wrong use -/
def Misuse.tell (m : Misuse) : Activity Nat :=
  if m.hasHint then misused "diff" m.message else refuse "diff" m.message 2

end Difference

open Activity Difference

/-- the pairs of files that are compared -/
def Difference.pairsGiven (g : Given) (args : List String) : Except Difference.Misuse (List (String × String)) :=
  match g.value? "from-file", g.value? "to-file" with
  | some _, some _ => .error ⟨"--from-file and --to-file both specified", false⟩
  | some a, none => .ok (g.operands.map fun b => (a, b))
  | none, some b => .ok (g.operands.map fun a => (a, b))
  | none, none =>
    match g.operands with
    | [a, b] => .ok [(a, b)]
    | _ :: _ :: c :: _ => .error ⟨s!"extra operand {cited c}", true⟩
    | few =>
      let last := (args.getLast?).getD "diff"
      .error ⟨s!"missing operand after {cited (if few.isEmpty then last else firstOf few)}", true⟩

def diff (args : List String) : Activity Nat := do
  match readOptions Difference.options args with
  | .error p => misused "diff" p.message
  | .ok g =>
    if g.has "v" then
      Tool.say "diff (GNU diffutils) 3.8\n"
      return 0
    let mut patterns : List String := []
    for path in g.values "X" do
      match ← contentOf path with
      | .ok cs => patterns := patterns ++ ((linesOf cs).map String.ofList).filter (· ≠ "")
      | .error f => return ← trouble path f
    match comparingOf (← currentZone) g (optionWords args g.operands) patterns with
    | .error m => m.tell
    | .ok c =>
      match pairsGiven g args with
      | .error m => m.tell
      | .ok pairs => pairs.foldlM (fun code (a, b) => return worse code (← compareOperands c a b)) 0

/-! ### octets -/

/-- how octets are compared -/
structure OctetStyle where
  showsAll : Bool
  showsChars : Bool
  isSilent : Bool

/-- an octet as it is shown -/
def octetText (c : Char) : String :=
  let plain (n : Nat) : String :=
    if n < 32 then "^" ++ (Char.ofNat (n + 64)).toString
    else if n = 127 then "^?" else (Char.ofNat n).toString
  if 128 ≤ c.toNat then "M-" ++ plain (c.toNat - 128) else plain c.toNat

/-- an octet in octal digits -/
def octalText (c : Char) : String := padLeft 3 (String.ofList (Nat.toDigits 8 c.toNat))

/-- the pairs of octets that differ, with their numbers -/
def differingPairs : Nat → List Char → List Char → List (Nat × Char × Char)
  | n, a :: as, b :: bs =>
    if a == b then differingPairs (n + 1) as bs else (n, a, b) :: differingPairs (n + 1) as bs
  | _, _, _ => []

/-- compare the octets of two files -/
def compareBytes (s : OctetStyle) (name0 name1 : String) (width : Nat) (cs0 cs1 : List Char) :
    Activity Nat := do
  if cs0 == cs1 then return 0
  if s.isSilent then return 1
  let pairs := differingPairs 1 cs0 cs1
  let size := min cs0.length cs1.length
  let both := cs0.take size
  let eof : Activity Unit := do
    let shorter := if cs0.length < cs1.length then name0 else name1
    let lines := both.countP (· == '\n')
    if size = 0 then Tool.complain "cmp" s!"EOF on {shorter} which is empty"
    else if s.showsAll then tell s!"cmp: EOF on {shorter} after byte {size}\n"
    else if both.getLast? == some '\n' then
      Tool.complain "cmp" s!"EOF on {shorter} after byte {size}, line {lines}"
    else Tool.complain "cmp" s!"EOF on {shorter} after byte {size}, in line {lines + 1}"
  if s.showsAll then
    for (n, a, b) in pairs do
      let number := padLeft width (toString n)
      if s.showsChars then
        Tool.say s!"{number} {octalText a} {padRight 4 (octetText a)} {octalText b} {octetText b}\n"
      else Tool.say s!"{number} {octalText a} {octalText b}\n"
    if cs0.length ≠ cs1.length then eof
  else
    match pairs with
    | (n, a, b) :: _ =>
      let line := (both.take (n - 1)).countP (· == '\n') + 1
      if s.showsChars then
        Tool.say s!"{name0} {name1} differ: byte {n}, line {line} is {octalText a} {octetText a} {octalText b} {
          octetText b}\n"
      else Tool.say s!"{name0} {name1} differ: char {n}, line {line}\n"
    | [] => eof
  return 1

def cmp (args : List String) : Activity Nat := do
  let rules : OptionRules := .of "blsv" "in" [("print-bytes", "b", .never), ("ignore-initial", "i", .always),
    ("verbose", "l", .never), ("bytes", "n", .always), ("quiet", "s", .never), ("silent", "s", .never),
    ("print-chars", "b", .never)]
  match readOptions rules args with
  | .error p => misused "cmp" p.message
  | .ok g =>
    let name0 := firstOf g.operands
    let name1 := (g.operands[1]?).getD "-"
    if g.operands.isEmpty then
      return ← misused "cmp" ("missing operand after " ++ quoted (args.getLast?.getD "cmp"))
    do
      let given := match g.value? "i" with
        | some text =>
          match text.splitOn ":" with
          | [a, b] => [a, b]
          | _ => [text, text]
        | none => ["0", "0"]
      let skips := [(g.operands[2]?).getD ((given[0]?).getD "0"), (g.operands[3]?).getD ((given[1]?).getD "0")]
      match skips.mapM quantity?, ((g.value? "n").map quantity?) with
      | none, _ =>
        let bad := (skips.find? fun t => (quantity? t).isNone).getD ""
        misused "cmp" ("invalid --ignore-initial value " ++ quoted bad)
      | _, some none => misused "cmp" ("invalid --bytes value " ++ quoted (g.valueOf "n"))
      | some counts, limit =>
        if let extra :: _ := g.operands.drop 4 then return ← misused "cmp" s!"extra operand {cited extra}"
        let isSilent := g.has "s"
        let trouble (name : String) (f : DiskFault) : Activity Nat := do
          if !isSilent then Tool.complain "cmp" s!"{name}: {f.message}"
          return 2
        match ← contentOf name0 with
        | .error f => trouble name0 f
        | .ok cs0 =>
          match ← contentOf name1 with
          | .error f => trouble name1 f
          | .ok cs1 =>
            let cut (cs : List Char) (skip : Option Nat) : List Char :=
              let rest := cs.drop (skip.getD 0)
              match limit with
              | some (some n) => rest.take n
              | _ => rest
            let d ← disk
            let sizeOf (name : String) (cs : List Char) : Option Nat :=
              if name ≠ "-" && d.isFile name then some cs.length else none
            let largest := ([sizeOf name0 cs0, sizeOf name1 cs1].filterMap fun size? => size?).min?
            let largest := match limit with
              | some (some n) => (largest.map (min n)).orElse fun _ => some n
              | _ => largest
            let width := match largest with
              | some n => (toString n).length
              | none => 19
            compareBytes ⟨g.has "l", g.has "b", isSilent⟩ name0 name1 width (cut cs0 counts[0]?)
              (cut cs1 counts[1]?)

end PatternBuild.Shell.Tool

/-!
## Choosing between two files

`sdiff` shows two files side by side.  With a file for the outcome it asks at each difference which lines
are taken, and lines can be put through an editor first.
-/

namespace PatternBuild.Shell.Tool

namespace Choosing

open Activity Difference

/-- what is to be done with the lines of a difference -/
inductive Choice where
  | left
  | right
  /-- whether common lines are shown from now on -/
  | showsCommon (isVerbose : Bool)
  | quit
  /-- an editor is given the lines that the letter names -/
  | edit (letter : Char)
  deriving DecidableEq, Repr

/-- the choice that a line of letters, read without blanks, stands for -/
def Choice.ofLetters? : List Char → Option Choice
  | ['1'] => some .left
  | ['l'] => some .left
  | ['2'] => some .right
  | ['r'] => some .right
  | ['s'] => some (.showsCommon false)
  | ['v'] => some (.showsCommon true)
  | ['q'] => some .quit
  | ['e'] => some (.edit ' ')
  | ['e', c] => if ['1', '2', 'b', 'd', 'l', 'r'].contains c then some (.edit c) else none
  | _ => none

/-- what can be answered -/
def helpText : String :=
  "ed:\tEdit then use both versions, each decorated with a header.\n" ++
  "eb:\tEdit then use both versions.\n" ++
  "el or e1:\tEdit then use the left version.\n" ++
  "er or e2:\tEdit then use the right version.\n" ++
  "e:\tDiscard both versions then edit a new one.\n" ++
  "l or 1:\tUse the left version.\n" ++
  "r or 2:\tUse the right version.\n" ++
  "s:\tSilently include common lines.\n" ++
  "v:\tVerbosely include common lines.\n" ++
  "q:\tQuit.\n"

/-- how far the work has come -/
structure Progress where
  /-- what has been read but not looked at -/
  pending : List Char
  /-- the lines that have been taken -/
  taken : List Char
  leavesCommon : Bool

/-- work that can end with a code -/
abbrev Chooser := StateT Progress (ExceptT Nat Activity)

/-- a line of the answers, and whether it has an end -/
def answer : Nat → List Char → Chooser (List Char × Bool)
  | 0, seen => return (seen, false)
  | n + 1, seen => do
    match splitAt? '\n' (← get).pending with
    | (line, some rest) =>
      modify fun p => { p with pending := rest }
      return (seen ++ line, true)
    | (line, none) =>
      match ← (readBlock 0 blockSize : Activity _) with
      | .error f =>
        Tool.complain "sdiff" s!"read failed: {f.message}"
        throw 2
      | .ok [] =>
        modify fun p => { p with pending := [] }
        return (seen ++ line, false)
      | .ok cs =>
        modify fun p => { p with pending := cs }
        answer n (seen ++ line)

/-- ask until there is a choice; the end of the answers means to leave -/
def ask : Nat → Chooser Choice
  | 0 => return .quit
  | n + 1 => do
    Tool.say "%"
    discard (flush : Activity _)
    let (line, isEnded) ← answer endless []
    let letters := line.filter fun c => !isSpaceChar c
    if !isEnded && letters.isEmpty then return .quit
    match if isEnded then Choice.ofLetters? letters else none with
    | some c => return c
    | none =>
      tell helpText
      ask n

/-- the lines of a stretch in one of the files -/
def textOf (side : Side) (range : Nat × Nat) : List Char :=
  (List.range (range.2 - range.1)).flatMap fun k => side.exactLine (range.1 + k)

/-- the line above the lines of one file -/
def decoration (mark : String) (side : Side) (range : Nat × Nat) : List Char :=
  if range.2 ≤ range.1 then []
  else
    let last := if range.2 = range.1 + 1 then "" else s!",{range.2}"
    (s!"{mark} {side.name} {range.1 + 1}{last}\n").toList

/-- what an editor starts with -/
def draft (side0 side1 : Side) (t : Stretch) (letter : Char) : List Char :=
  let left := if ['d', '1', 'b', 'l'].contains letter then textOf side0 t.lines.old else []
  let right := if ['d', '2', 'b', 'r'].contains letter then textOf side1 t.lines.new else []
  if letter == 'd' then
    decoration "---" side0 t.lines.old ++ left ++ decoration "+++" side1 t.lines.new ++ right
  else left ++ right

/-- a new file for a short time; the outcome is its name -/
def draftFile (dir : String) (cs : List Char) : Activity (Except DiskFault String) := do
  let path := entryPath dir ("sdiff" ++ String.ofList (nameLetters 6 (← freshNumber)))
  match (← disk).create 0o600 path with
  | .error f => return .error f
  | .ok (d, .file k) =>
    setDisk (d.setContent k (Text.toBytes cs))
    return .ok path
  | .ok _ => return .error .missing

/-- take a file away -/
def dropFile (path : String) : Activity Unit := do
  let d ← disk
  match d.linkStat path with
  | .error _ => return
  | .ok (l, _) => setDisk ((d.remove l).toOption.getD d)

/-- put lines through an editor -/
def edited (programs : Programs) (cs : List Char) : Chooser (List Char) := do
  let p ← (own : Activity _)
  let dir := (p.environment.lookup "TMPDIR").getD "/tmp"
  let path ← match ← (draftFile dir cs : Activity _) with
    | .ok path => pure path
    | .error f =>
      Tool.complain "sdiff" s!"mkstemp: {f.message}"
      throw 2
  let editor := (p.environment.lookup "EDITOR").getD "ed"
  discard (flush : Activity _)
  match ← (programs.run [editor, path] : Activity _) with
  | .error _ =>
    dropFile path
    Tool.complain "sdiff" s!"subsidiary program '{editor}' not found"
    throw 2
  | .ok code =>
    let found ← (contentOf path : Activity _)
    dropFile path
    if code ≠ 0 then
      Tool.complain "sdiff" s!"subsidiary program '{editor}' failed (exit status {code})"
      throw 2
    return found.toOption.getD []

/-- do what is chosen for a difference -/
def settle (programs : Programs) (side0 side1 : Side) (t : Stretch) : Nat → Chooser Unit
  | 0 => return
  | n + 1 => do
    match ← ask endless with
    | .left => take (textOf side0 t.lines.old)
    | .right => take (textOf side1 t.lines.new)
    | .showsCommon isVerbose =>
      modify fun p => { p with leavesCommon := !isVerbose }
      settle programs side0 side1 t n
    | .quit => throw 2
    | .edit letter => take (← edited programs (draft side0 side1 t letter))
where
  take (cs : List Char) : Chooser Unit := modify fun p => { p with taken := p.taken ++ cs }

/-- go through the stretches of two files; the lines taken are written down after each, so that they are
there too if the work is left -/
def choose (programs : Programs) (style : ReportStyle) (side0 side1 : Side) (write : List Char → Activity Unit) :
    List Stretch → Chooser Unit
  | [] => return
  | t :: rest => do
    let text := (pairsOf style side0 side1 t).flatten
    if t.isCommon then
      if !(← get).leavesCommon then Tool.out text
      modify fun p => { p with taken := p.taken ++ textOf side0 t.lines.old }
    else
      Tool.out text
      settle programs side0 side1 t endless
    (write (← get).taken : Activity _)
    modify fun p => { p with taken := [] }
    choose programs style side0 side1 write rest

/-- the options, and what `diff` is told for them -/
def options : OptionRules :=
  .of "abBdEHilstvWZ" "Iow" [("diff-program", "diff-program", .always), ("expand-tabs", "t", .never),
    ("help", "help", .never), ("ignore-all-space", "W", .never), ("ignore-blank-lines", "B", .never),
    ("ignore-case", "i", .never), ("ignore-matching-lines", "I", .always),
    ("ignore-space-change", "b", .never), ("ignore-tab-expansion", "E", .never),
    ("ignore-trailing-space", "Z", .never), ("left-column", "l", .never), ("minimal", "d", .never),
    ("output", "o", .always), ("speed-large-files", "H", .never), ("strip-trailing-cr", "strip", .never),
    ("suppress-common-lines", "s", .never), ("tabsize", "tabsize", .always), ("text", "a", .never),
    ("version", "v", .never), ("width", "w", .always)]

def wordsFor : String × String → List String
  | ("I", value) => ["-I", value]
  | ("w", value) => ["-W", value]
  | ("tabsize", value) => ["--tabsize", value]
  | ("l", _) => ["--left-column"]
  | ("strip", _) => ["--strip-trailing-cr"]
  | ("W", _) => ["-w"]
  | (name, _) => if ["a", "b", "B", "d", "E", "H", "i", "t", "Z"].contains name then ["-" ++ name] else []

/-- choose between two files, and write the outcome down -/
def merge (programs : Programs) (c : Comparing) (leavesCommon : Bool) (output a b : String) : Activity Nat := do
  let d ← disk
  let isDir (path : String) : Bool := path ≠ "-" && d.isDir path
  if isDir a && isDir b then return ← refuse "sdiff" "both files to be compared are directories" 2
  if a = "-" || b = "-" then return ← refuse "sdiff" "cannot interactively merge standard input" 2
  let base (path : String) : String := (path.splitOn "/").getLast?.getD path
  let path0 := if isDir a then inside a (base b) else a
  let path1 := if isDir b then inside b (base a) else b
  match ← readSource false path0 with
  | .error f => refuse "sdiff" s!"{path0}: {f.message}" 2
  | .ok source0 =>
    match ← readSource false path1 with
    | .error f => refuse "sdiff" s!"{path1}: {f.message}" 2
    | .ok source1 =>
      match ← openToWrite output false with
      | .error f => refuse "sdiff" s!"{output}: {f.message}" 2
      | .ok fd =>
        let side0 := sideOf c none source0
        let side1 := sideOf c none source1
        let all := if source0.content == source1.content then [] else changesOf c side0 side1
        let counted := all.filter fun ch => !c.report.isIgnored side0 side1 [ch]
        let whole := stretches side0.lines.size side1.lines.size 0 0 counted
        let work := choose programs c.report side0 side1 (fun cs => discard (write fd cs)) whole
        let result ← (work.run ⟨[], [], leavesCommon⟩).run
        close fd
        return match result with
          | .error code => code
          | .ok _ => if counted.isEmpty then 0 else 1

end Choosing

open Activity Difference in
def sdiff (programs : Programs) (args : List String) : Activity Nat := do
  match readOptions Choosing.options args with
  | .error p => misused "sdiff" p.message
  | .ok g =>
    if g.has "v" then
      Tool.say "sdiff (GNU diffutils) 3.8\n"
      return 0
    match g.operands with
    | [a, b] =>
      let words := g.options.flatMap Choosing.wordsFor
      match g.value? "o" with
      | none =>
        let suppressing := if g.has "s" then ["--suppress-common-lines"] else []
        diff (words ++ suppressing ++ ["-y", "--", a, b])
      | some output =>
        match readOptions Difference.options (words ++ ["-y"]) with
        | .error p => misused "diff" p.message
        | .ok inner =>
          match comparingOf (← currentZone) inner [] [] with
          | .error m => m.tell
          | .ok c => Choosing.merge programs c (g.has "s") output a b
    | _ :: _ :: c :: _ => misused "sdiff" s!"extra operand {cited c}"
    | _ => misused "sdiff" ("missing operand after " ++ cited ((args.getLast?).getD "sdiff"))

end PatternBuild.Shell.Tool
