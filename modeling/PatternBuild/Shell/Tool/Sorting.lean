import PatternBuild.Shell.Tool.Order

/-!
# Sorting: lines in order, and runs of equal lines

`sort` puts lines in an order that its options write, or tells whether they are in it; `uniq` makes
one line of equal ones that follow each other.
-/

namespace PatternBuild.Shell.Tool

open Activity

/-! ## what is asked for -/

/-- the kinds of comparison, by their names -/
def sortKinds : List (String × Char) :=
  [("general-numeric", 'g'), ("human-numeric", 'h'), ("month", 'M'), ("numeric", 'n'),
    ("random", 'R'), ("version", 'V')]

def sortOptions : OptionRules :=
  .of "bdfghiMnRrVcCmsuz" "koStTy" [("ignore-leading-blanks", "b", .never),
    ("batch-size", "batch-size", .always), ("buffer-size", "buffer-size", .always),
    ("check", "check", .maybe), ("compress-program", "compress-program", .always),
    ("debug", "debug", .never), ("dictionary-order", "d", .never), ("ignore-case", "f", .never),
    ("files0-from", "files0-from", .always), ("general-numeric-sort", "g", .never),
    ("human-numeric-sort", "h", .never), ("ignore-nonprinting", "i", .never), ("key", "k", .always),
    ("merge", "m", .never), ("month-sort", "M", .never), ("numeric-sort", "n", .never),
    ("version-sort", "V", .never), ("random-sort", "R", .never),
    ("random-source", "random-source", .always), ("sort", "sort", .always), ("output", "o", .always),
    ("reverse", "r", .never), ("stable", "s", .never), ("field-separator", "t", .always),
    ("temporary-directory", "T", .always), ("unique", "u", .never), ("zero-terminated", "z", .never),
    ("parallel", "parallel", .always)]

/-- what lines are sorted by and where they go -/
structure SortPlan where
  /-- the rules of keys that have none -/
  whole : OrderRules
  keys : List SortKey
  mark : Option Char
  /-- the letter that asks only whether lines are in order -/
  check : Option Char
  target : Option String
  packer : Option String
  chance : Option String

def SortPlan.start : SortPlan := ⟨.plain, [], none, none, none, none, none⟩

/-- why lines cannot be sorted -/
inductive SortProblem where
  | message (text : String)
  /-- a value that is none of some choices -/
  | choice (option : String) (choices : List (List String)) (text : String)

/-- what is wrong with a number of an option, which may have one of some letters behind it -/
def countProblem? (option letters text : String) (limit : Nat) : Option String :=
  let cs := text.toList.dropWhile fun c => c == ' '
  let cs := if cs.head? == some '+' then cs.drop 1 else cs
  let digits := cs.takeWhile Char.isDigit
  let rest := cs.drop digits.length
  let isLetter := match rest with
    | c :: _ => letters.toList.contains c
    | [] => false
  if digits.isEmpty && !isLetter then some s!"invalid {option} argument {cited text}"
  else if !rest.isEmpty && !(isLetter && rest.length = 1) then
    some s!"invalid suffix in {option} argument {cited text}"
  else
    let factor := match rest with
      | [c] => (multiplier? c.toUpper.toString).getD 1
      | _ => 1
    if limit < (numeral? 10 digits).getD 1 * factor then some s!"{option} argument {cited text} too large"
    else none

/-- what is wrong with a size of memory -/
def memoryProblem? (option text : String) : Option String :=
  let digits := text.toList.takeWhile Char.isDigit
  match text.toList.drop digits.length with
  | [c] =>
    if !digits.isEmpty && (c == 'b' || c == '%') then none
    else countProblem? option "EgGkKmMPtTYZ" text 18446744073709551615
  | _ => countProblem? option "EgGkKmMPtTYZ" text 18446744073709551615

/-- the plan with an option more -/
def SortPlan.with (p : SortPlan) (name value : String) : Except SortProblem SortPlan :=
  let refuseIf (problem? : Option String) : Except SortProblem SortPlan :=
    match problem? with
    | some text => .error (.message text)
    | none => .ok p
  let withCheck (c : Char) : Except SortProblem SortPlan :=
    if p.check.any (· ≠ c) then .error (.message "options '-cC' are incompatible")
    else .ok { p with check := some c }
  match name with
  | "k" =>
    match readKey value with
    | .ok k => .ok { p with keys := p.keys ++ [k] }
    | .error text => .error (.message text)
  | "sort" =>
    let names := sortKinds.map fun (name, _) => [name]
    match (choice? names value).bind fun found => sortKinds.lookup found with
    | some c => .ok { p with whole := (p.whole.with? none c).getD p.whole }
    | none => .error (.choice "--sort" names value)
  | "check" =>
    let names := [["quiet", "silent"], ["diagnose-first"]]
    match if value = "" then some "diagnose-first" else choice? names value with
    | some found => withCheck (if found = "quiet" then 'C' else 'c')
    | none => .error (.choice "--check" names value)
  | "c" => withCheck 'c'
  | "C" => withCheck 'C'
  | "o" =>
    if p.target.any (· ≠ value) then .error (.message "multiple output files specified")
    else .ok { p with target := some value }
  | "t" =>
    if value = "" then .error (.message "empty tab")
    else if 1 < value.length && value ≠ "\\0" then
      .error (.message s!"multi-character tab {quoted value}")
    else
      let mark := if value = "\\0" then '\x00' else value.toList.headD ' '
      if p.mark.any (· ≠ mark) then .error (.message "incompatible tabs")
      else .ok { p with mark := some mark }
  | "S" => refuseIf (memoryProblem? "-S" value)
  | "buffer-size" => refuseIf (memoryProblem? "--buffer-size" value)
  | "parallel" =>
    match countProblem? "--parallel" "" value 18446744073709551615 with
    | some text => .error (.message text)
    | none =>
      refuseIf (if value.toList.all (· == '0') then some "number in parallel must be nonzero" else none)
  | "batch-size" =>
    match countProblem? "--batch-size" "" value 18446744073709551615 with
    | some text => .error (.message text)
    | none =>
      refuseIf (if ((natural? value).getD 2) < 2 then
        some (s!"invalid --batch-size argument {cited value}\n" ++
          s!"sort: minimum --batch-size argument is {cited (toString 2)}") else none)
  | "compress-program" =>
    if p.packer.any (· ≠ value) then .error (.message "multiple compress programs specified")
    else .ok { p with packer := some value }
  | "random-source" =>
    if p.chance.any (· ≠ value) then .error (.message "multiple random sources specified")
    else .ok { p with chance := some value }
  | _ =>
    match name.toList with
    | [c] => if c == 's' then .ok p else .ok { p with whole := (p.whole.with? none c).getD p.whole }
    | _ => .ok p

/-- the order that a plan writes -/
def SortPlan.order (p : SortPlan) (isStable : Bool) : Except SortProblem SortOrder :=
  let keys := if p.keys.isEmpty then [⟨1, 1, none, 0, p.whole⟩]
    else p.keys.map fun k => if k.rules.isPlain then { k with rules := p.whole } else k
  match keys.findSome? fun (k : SortKey) => k.rules.clash? with
  | some letters => .error (.message s!"options '-{letters}' are incompatible")
  | none => .ok ⟨p.mark, keys, p.whole.reverses, isStable⟩

/-- a number and, behind a point, another one -/
def positionOf? (cs : List Char) : Option (Nat × Nat × List Char) := do
  let digits := cs.takeWhile Char.isDigit
  let field ← numeral? 10 digits
  match cs.drop digits.length with
  | '.' :: rest =>
    let more := rest.takeWhile Char.isDigit
    return (field, ← numeral? 10 more, rest.drop more.length)
  | rest => return (field, 0, rest)

/-- a key as the words `+A.X` and perhaps `-B.Y` write it, which count from nought -/
def oldKey? (word : String) (rest : List String) : Option (String × List String) := do
  match word.toList with
  | '+' :: cs =>
    let (field, char, letters) ← positionOf? cs
    let (_, strays) := keyLetters false .plain letters
    if !strays.isEmpty then none
    else
      let start := s!"-k{field + 1}.{char + 1}" ++ String.ofList letters
      match rest with
      | next :: others =>
        match next.toList with
        | '-' :: c :: cs =>
          if c.isDigit then
            let (field, char, letters) ← positionOf? (c :: cs)
            let field := if char = 0 then max field 1 else field + 1
            return (s!"{start},{field}.{char}" ++ String.ofList letters, others)
          else return (start, rest)
        | _ => return (start, rest)
      | [] => return (start, rest)
  | _ => none

/-! ## sort -/

/-- lines of which only the first of equal ones is kept -/
def withoutEqual (o : SortOrder) : List KeyedLine → List KeyedLine
  | a :: b :: rest =>
    if o.compareKeys a b == .eq then
      match withoutEqual o (b :: rest) with
      | _ :: more => a :: more
      | [] => [a]
    else a :: withoutEqual o (b :: rest)
  | lines => lines

/-- merge sorted lists; of equal lines those of the earlier list come first -/
def mergeTwo (o : SortOrder) : List KeyedLine → List KeyedLine → List KeyedLine
  | [], ys => ys
  | xs, [] => xs
  | x :: xs, y :: ys =>
    if o.compare x y == .gt then y :: mergeTwo o (x :: xs) ys else x :: mergeTwo o xs (y :: ys)
termination_by xs ys => xs.length + ys.length

/-- the first line that is out of order, with its number -/
def firstDisorder (o : SortOrder) (isStrict : Bool) : Nat → List KeyedLine → Option (Nat × KeyedLine)
  | n, a :: b :: rest =>
    let order := if isStrict then o.compareKeys a b else o.compare a b
    if order == .gt || (isStrict && order == .eq) then some (n + 1, b)
    else firstDisorder o isStrict (n + 1) (b :: rest)
  | _, _ => none

/-- why a file cannot be read, found without opening it -/
def readFault? (path : String) : Activity (Option DiskFault) := do
  match descriptorPath? path with
  | some fd => return if (← streamOf fd).isSome then none else some .missing
  | none =>
    let d ← disk
    match d.stat path with
    | .error f => return some f
    | .ok (l, _) => return if d.allows l Disk.reading then none else some .forbidden

/-- the files that a file names, each with a zero octet behind it -/
def listedFiles (list : String) : Activity (Except String (List String)) := do
  match ← openOperand list with
  | .error f => return .error s!"open failed: {shown list}: {f.message}"
  | .ok fd =>
    let content ← readAll fd
    close fd
    match content with
    | .error _ => return .error s!"cannot read file names from {quoted list}"
    | .ok cs =>
      let names := (partsOf '\x00' cs).1.map String.ofList
      if names.isEmpty then return .error s!"no input from {quoted list}"
      match names.zipIdx.find? fun (name, _) => name = "-" || name = "" with
      | some ("-", _) =>
        return .error "when reading file names from stdin, no file name of '-' allowed"
      | some (_, i) => return .error s!"{shown list}:{i + 1}: invalid zero-length file name"
      | none => return .ok names

/-- tell whether a file is in order -/
def checkOrder (o : SortOrder) (isStrict isQuiet : Bool) (mark : Char) (path : String) :
    Activity Nat := do
  match ← openOperand path with
  | .error f => refuse "sort" s!"open failed: {shown path}: {f.message}" 2
  | .ok fd =>
    let content ← readAll fd
    close fd
    match content with
    | .error f => refuse "sort" s!"read failed: {shown path}: {f.message}" 2
    | .ok cs =>
      match firstDisorder o isStrict 1 ((partsOf mark cs).1.map o.keyed) with
      | none => return 0
      | some (n, k) =>
        if isQuiet then return 1
        refuse "sort" s!"{shown path}:{n}: disorder: {String.ofList k.line}" 1

/-- sort files, which can be opened, and write their lines -/
def sortFiles (o : SortOrder) (merges isUnique : Bool) (mark : Char) (target : Option String)
    (operands : List String) : Activity Nat := do
  let mut found : List (List KeyedLine) := []
  for path in operands do
    match ← openOperand path with
    | .error f => return ← refuse "sort" s!"open failed: {shown path}: {f.message}" 2
    | .ok fd =>
      match ← readAll fd with
      | .error f => return ← refuse "sort" s!"read failed: {shown path}: {f.message}" 2
      | .ok cs => found := (partsOf mark cs).1.map o.keyed :: found
      close fd
  let sorted := if merges then found.reverse.foldl (mergeTwo o) []
    else found.reverse.flatten.mergeSort fun a b => o.compare a b != .gt
  let sorted := if isUnique then withoutEqual o sorted else sorted
  match target with
  | none =>
    for k in sorted do Tool.out (k.line ++ [mark])
    return 0
  | some path =>
    match ← openToWrite path false with
    | .error f => refuse "sort" s!"open failed: {shown path}: {f.message}" 2
    | .ok fd =>
      discard (write fd (sorted.flatMap fun k => k.line ++ [mark]))
      close fd
      return 0

def sort (args : List String) : Activity Nat :=
  withOptions "sort" sortOptions 2 (sortOptions.replace oldKey? args.length args) fun g => do
  let plan? : Except SortProblem (SortPlan × SortOrder) := do
    let plan ← g.options.foldlM (fun (p : SortPlan) (name, value) => p.with name value) .start
    return (plan, ← plan.order (g.has "s" || g.has "u"))
  match plan? with
  | .error (.message text) => refuse "sort" text 2
  | .error (.choice option choices text) => withChoice "sort" option choices 1 text fun _ => return 1
  | .ok (plan, o) =>
    let mark := if g.has "z" then '\x00' else '\n'
    let listed? : Except String (List String) ← match g.value? "files0-from" with
      | none => pure (.ok (if g.operands.isEmpty then ["-"] else g.operands))
      | some list =>
        match g.operands with
        | extra :: _ =>
          Tool.complain "sort" s!"extra operand {quoted extra}"
          tell "file operands cannot be combined with --files0-from\n"
          tryHelp "sort"
          return 2
        | [] => listedFiles list
    match listed? with
    | .error text => refuse "sort" text 2
    | .ok operands =>
      match plan.check with
      | some c =>
        let extra := quoted (firstOf (operands.drop 1))
        if 1 < operands.length then
          return ← refuse "sort" s!"extra operand {extra} not allowed with -{c}" 2
        if plan.target.isSome then return ← refuse "sort" s!"options '-{c}o' are incompatible" 2
        checkOrder o (g.has "u") (c == 'C') mark (firstOf operands)
      | none =>
        for path in operands do
          if path ≠ "-" then
            if let some f ← readFault? path then
              return ← refuse "sort" s!"cannot read: {shown path}: {f.message}" 2
        match plan.target with
        | some path =>
          match ← openToWrite path true with
          | .error f => return ← refuse "sort" s!"open failed: {shown path}: {f.message}" 2
          | .ok fd => close fd
        | none => pure ()
        let isRandom := o.keys.any fun k => k.rules.kinds.contains 'R'
        match if isRandom then plan.chance else none with
        | some path =>
          match ← openOperand path with
          | .error f => return ← refuse "sort" s!"open failed: {shown path}: {f.message}" 2
          | .ok fd => close fd
        | none => pure ()
        sortFiles o (g.has "m") (g.has "u") mark plan.target operands

/-! ## uniq -/

/-- the part of a line that is compared -/
def comparedPart (fields chars : Nat) (width : Option Nat) (ignoresCase : Bool) (line : List Char) :
    List Char :=
  let rest := (skipFields none fields line).drop chars
  let rest := match width with
    | some n => rest.take n
    | none => rest
  if ignoresCase then rest.map Char.toUpper else rest

/-- runs of lines with equal parts -/
def runsBy (part : List Char → List Char) : List (List Char) → List (List (List Char))
  | [] => []
  | line :: lines =>
    match runsBy part lines with
    | (other :: more) :: runs =>
      if part line == part other then (line :: other :: more) :: runs
      else [line] :: (other :: more) :: runs
    | runs => [line] :: runs

def uniqOptions : OptionRules :=
  .of "cdDuiz0123456789" "fsw" [("count", "c", .never), ("repeated", "d", .never),
    ("all-repeated", "D", .maybe), ("group", "group", .maybe), ("ignore-case", "i", .never),
    ("unique", "u", .never), ("skip-fields", "f", .always), ("skip-chars", "s", .always),
    ("check-chars", "w", .always), ("zero-terminated", "z", .never)]

/-- how many characters are skipped, as the word `+N` writes it -/
def oldSkip? (word : String) (rest : List String) : Option (String × List String) :=
  match word.toList with
  | '+' :: c :: cs => if (c :: cs).all Char.isDigit then some ("-s" ++ String.ofList (c :: cs), rest) else none
  | _ => none

/-- how lines become runs, and which of them are written -/
structure RunRules where
  fields : Nat
  /-- whether letters that are digits wrote the fields -/
  isOldCount : Bool
  chars : Nat
  width : Option Nat
  ignoresCase : Bool
  counts : Bool
  /-- whether the line of a run of one is written, and the last line of others -/
  keepsSingle : Bool
  keepsRepeated : Bool
  /-- how all lines of runs of several are set apart -/
  repeated : Option String
  /-- how all runs are set apart -/
  group : Option String
  /-- whether an option tells which lines are written -/
  isChosen : Bool

def RunRules.start : RunRules := ⟨0, false, 0, none, false, false, true, true, none, none, false⟩

/-- the rules with an option more -/
def RunRules.with (r : RunRules) (name value : String) : Except SortProblem RunRules :=
  let size (what : String) : Except SortProblem Nat :=
    match natural? value with
    | some n => .ok n
    | none => .error (.message s!"{value}: invalid number of {what}")
  let choice (option : String) (names : List String) : Except SortProblem String :=
    let choices := names.map fun name => [name]
    match choice? choices value with
    | some found => .ok found
    | none => .error (.choice option choices value)
  match name with
  | "c" => .ok { r with counts := true, isChosen := true }
  | "d" => .ok { r with keepsSingle := false, isChosen := true }
  | "u" => .ok { r with keepsRepeated := false, isChosen := true }
  | "i" => .ok { r with ignoresCase := true }
  | "D" => do
    let method ← if value = "" then pure "none"
      else choice "--all-repeated" ["none", "prepend", "separate"]
    return { r with keepsSingle := false, repeated := some method, isChosen := true }
  | "group" => do
    let method ← if value = "" then pure "separate"
      else choice "--group" ["prepend", "append", "separate", "both"]
    return { r with group := some method }
  | "f" => do return { r with fields := ← size "fields to skip", isOldCount := false }
  | "s" => do return { r with chars := ← size "bytes to skip" }
  | "w" => do return { r with width := some (← size "bytes to compare") }
  | _ =>
    match name.toList with
    | [c] =>
      if c.isDigit then
        let before := if r.isOldCount then r.fields else 0
        .ok { r with fields := 10 * before + (c.toNat - '0'.toNat), isOldCount := true }
      else .ok r
    | _ => .ok r

/-- what is written of the runs of lines -/
def RunRules.written (r : RunRules) (mark : Char) (runs : List (List (List Char))) : List Char :=
  let spell (lines : List (List Char)) : List Char := lines.flatMap (· ++ [mark])
  match r.group, r.repeated with
  | some method, _ =>
    let blocks := runs.map spell
    if method = "separate" then [mark].intercalate blocks
    else if method = "append" then blocks.flatMap (· ++ [mark])
    else
      let ending := if method = "both" && !blocks.isEmpty then [mark] else []
      blocks.flatMap (mark :: ·) ++ ending
  | none, some method =>
    let blocks := (runs.filter fun run => 1 < run.length).map fun run =>
      spell (if r.keepsRepeated then run else run.dropLast)
    if method = "separate" then [mark].intercalate blocks
    else if method = "prepend" then blocks.flatMap (mark :: ·)
    else blocks.flatten
  | none, none =>
    (runs.filter fun run => if run.length = 1 then r.keepsSingle else r.keepsRepeated).flatMap
      fun run =>
        let count := if r.counts then (padLeft 7 (toString run.length) ++ " ").toList else []
        count ++ spell (run.take 1)

def uniq (args : List String) : Activity Nat :=
  withOptions "uniq" uniqOptions 1 (uniqOptions.replace oldSkip? args.length args) fun g => do
  let rules? := g.options.foldlM (fun (r : RunRules) (name, value) => r.with name value) .start
  match rules? with
  | .error (.message text) => refuse "uniq" text 1
  | .error (.choice option choices text) => withChoice "uniq" option choices 1 text fun _ => return 1
  | .ok r =>
    match g.operands with
    | _ :: _ :: extra :: _ => extraOperand "uniq" extra 1
    | operands =>
      if r.group.isSome && r.isChosen then
        return ← misuse "uniq" "--group is mutually exclusive with -c/-d/-D/-u" 1
      if r.counts && r.repeated.isSome then
        return ← misuse "uniq" "printing all duplicated lines and repeat counts is meaningless" 1
      let path := operands.headD "-"
      match ← openOperand path with
      | .error f => refuse "uniq" s!"{shown path}: {f.message}" 1
      | .ok fd =>
        let content ← readAll fd
        close fd
        let target? : Except DiskFault (Option Nat) ←
          match (operands.drop 1).head?.filter (· ≠ "-") with
          | none => pure (.ok none)
          | some target =>
            let opened ← openToWrite target false
            pure (opened.map some)
        match target?, content with
        | .error f, _ => refuse "uniq" s!"{shown (firstOf (operands.drop 1))}: {f.message}" 1
        | _, .error f => refuse "uniq" s!"error reading {quoted path}: {f.message}" 1
        | .ok target?, .ok cs =>
          let mark := if g.has "z" then '\x00' else '\n'
          let part := comparedPart r.fields r.chars r.width r.ignoresCase
          let written := r.written mark (runsBy part (partsOf mark cs).1)
          match target? with
          | none => Tool.out written
          | some fd =>
            discard (write fd written)
            close fd
          return 0

end PatternBuild.Shell.Tool
