import PatternBuild.Shell.Tool.Order

/-!
# Merging: sorted files side by side

`comm` tells the lines that two sorted files share from those that only one of them has, and `join`
puts lines with equal fields together.
-/

namespace PatternBuild.Shell.Tool

open Activity

/-! ## the order of lines -/

/-- what is watched of two files while they are read side by side -/
structure OrderWatch where
  /-- whether a line without a partner was seen -/
  hasSingle : Bool
  /-- which of the files were told not to be in order -/
  told : List Nat

/-- how strictly files must be in order -/
inductive OrderRule where
  | strict
  /-- only if there are lines without a partner -/
  | usual
  | none
  deriving DecidableEq, Repr

/-- how strictly files must be in order, going by the options -/
def orderRule (g : Given) : OrderRule :=
  match g.last? ["check", "nocheck"] with
  | some "check" => .strict
  | some _ => .none
  | none => .usual

/-- whether a line that is not in order is told -/
def OrderWatch.tells (w : OrderWatch) (rule : OrderRule) (file : Nat) : Bool :=
  !w.told.contains file && (rule = .strict || (rule = .usual && w.hasSingle))

def OrderWatch.note (w : OrderWatch) (file : Nat) : OrderWatch := { w with told := file :: w.told }

/-! ## comm -/

/-- what is left of a file, and its last lines, the latest first -/
structure CommFile where
  number : Nat
  rest : List (List Char)
  seen : List (List Char)

/-- how `comm` works -/
structure CommStyle where
  rule : OrderRule
  hidden : List Nat
  between : List Char
  mark : Char

/-- print a line in its column -/
def CommStyle.print (s : CommStyle) (column : Nat) (line : List Char) : Activity Unit := do
  if !s.hidden.contains column then
    let lead := ((List.range column).filter fun j => 0 < j && !s.hidden.contains j).map fun _ => s.between
    Tool.out (lead.flatten ++ line ++ [s.mark])

/-- go on to the next line of a file; none if a line out of order ends the work -/
def CommStyle.step (s : CommStyle) (f : CommFile) (w : OrderWatch) :
    Activity (Option (CommFile × OrderWatch)) := do
  let next : CommFile := { f with rest := f.rest.drop 1, seen := (f.rest.take 1 ++ f.seen).take 2 }
  -- at the end the last two lines are looked at again
  let pair := match next.rest, next.seen with
    | line :: _, last :: _ => some (last, line)
    | [], last :: before :: _ => some (before, last)
    | _, _ => none
  let isWrong := pair.any fun (a, b) => compareOctets a b == .gt
  if isWrong && w.tells s.rule f.number then
    Tool.complain "comm" s!"file {f.number} is not in sorted order"
    return if s.rule = .strict then none else some (next, w.note f.number)
  else return some (next, w)

/-- print the lines of two files; the outcome is how many lines each column has, and what was watched -/
def CommStyle.merge (s : CommStyle) : Nat → CommFile → CommFile → OrderWatch → List Nat →
    Activity (Option (OrderWatch × List Nat))
  | 0, _, _, w, counts => return some (w, counts)
  | n + 1, a, b, w, counts => do
    let order : Option (Ordering × List Char) := match a.rest, b.rest with
      | [], [] => none
      | x :: _, [] => some (.lt, x)
      | [], y :: _ => some (.gt, y)
      | x :: _, y :: _ => some (compareOctets x y, if compareOctets x y == .gt then y else x)
    match order with
    | none => return some (w, counts)
    | some (order, line) =>
      let column := match order with
        | .lt => 1
        | .gt => 2
        | .eq => 3
      s.print column line
      let w := if column = 3 then w else { w with hasSingle := true }
      let first ← if column = 2 then pure (some (a, w)) else s.step a w
      match first with
      | none => return none
      | some (a, w) =>
        let second ← if column = 1 then pure (some (b, w)) else s.step b w
        match second with
        | none => return none
        | some (b, w) => CommStyle.merge s n a b w (column :: counts)

def comm (args : List String) : Activity Nat :=
  withOptions "comm" (.of "123z" "" [("check-order", "check", .never), ("nocheck-order", "nocheck", .never),
    ("output-delimiter", "output", .always), ("total", "total", .never),
    ("zero-terminated", "z", .never)]) 1 args fun g => do
  match g.operands with
  | [] => misuse "comm" "missing operand" 1
  | [a] => misuse "comm" s!"missing operand after {cited a}" 1
  | _ :: _ :: extra :: _ => extraOperand "comm" extra 1
  | [a, b] =>
    match ← contentOf a with
    | .error f => refuse "comm" s!"{shown a}: {f.message}" 1
    | .ok first =>
      match ← contentOf b with
      | .error f => refuse "comm" s!"{shown b}: {f.message}" 1
      | .ok second =>
        let mark := if g.has "z" then '\x00' else '\n'
        let between := (g.value? "output").getD "\t"
        let s : CommStyle := {
          rule := orderRule g
          hidden := [1, 2, 3].filter fun k => g.has (toString k)
          between := if between = "" then ['\x00'] else between.toList
          mark }
        let as := (partsOf mark first).1
        let bs := (partsOf mark second).1
        match ← s.merge (as.length + bs.length + 1) ⟨1, as, []⟩ ⟨2, bs, []⟩ ⟨false, []⟩ [] with
        | none => return 1
        | some (w, columns) =>
          if g.has "total" then
            let count (k : Nat) : List Char := (toString (columns.filter (· = k)).length).toList
            Tool.out (count 1 ++ s.between ++ count 2 ++ s.between ++ count 3 ++ s.between ++
              "total".toList ++ [mark])
          if w.told.isEmpty then return 0
          refuse "comm" "input is not in sorted order" 1

/-! ## join -/

/-- a line by its fields -/
structure JoinLine where
  text : List Char
  fields : List (List Char)
  key : List Char

/-- the fields of a line, which blanks divide unless a character does -/
def joinFields (mark : Option Char) (line : List Char) : List (List Char) :=
  match mark with
  | some '\n' => [line]
  | some m => fieldsOf m line
  | none =>
    (((String.ofList line).splitToList isBlankChar).filter (· ≠ "")).map String.toList
where
  /-- the parts of a line between characters -/
  fieldsOf (m : Char) (line : List Char) : List (List Char) :=
    let (last, fields) := line.foldr (fun c (current, fields) =>
      if c == m then ([], current :: fields) else (c :: current, fields)) ([], [])
    last :: fields

/-- which fields are printed: the key, or a field of the first or the second file -/
inductive JoinField where
  | key
  | field (file number : Nat)
  deriving DecidableEq, Repr

/-- the fields that a text lists -/
def joinFormat? (text : String) : Option (List JoinField) :=
  ((text.splitToList fun c => c == ',' || c == ' ').filter (· ≠ "")).mapM fun part =>
    if part = "0" then some .key
    else match part.toList with
      | '1' :: '.' :: cs => (numeral? 10 cs).map (.field 1 ·)
      | '2' :: '.' :: cs => (numeral? 10 cs).map (.field 2 ·)
      | _ => none

/-- how `join` works -/
structure JoinStyle where
  mark : Option Char
  /-- the character that ends lines -/
  ending : Char
  rule : OrderRule
  ignoresCase : Bool
  keys : Nat × Nat
  format : Option (List JoinField)
  filler : List Char
  /-- whether lines without a partner of the first and the second file are printed -/
  alone : Bool × Bool
  hidesPairs : Bool

namespace JoinStyle

def line (s : JoinStyle) (key : Nat) (text : List Char) : JoinLine :=
  let fields := joinFields s.mark text
  ⟨text, fields, (fields[key - 1]?).getD []⟩

def compare (s : JoinStyle) (a b : JoinLine) : Ordering :=
  if s.ignoresCase then compareOctets (a.key.map Char.toUpper) (b.key.map Char.toUpper)
  else compareOctets a.key b.key

/-- the fields of a line apart from the key -/
def others (key : Nat) (l : JoinLine) : List (List Char) :=
  l.fields.take (key - 1) ++ l.fields.drop key

/-- print a pair of lines, or one that has no partner -/
def text (s : JoinStyle) (a b : Option JoinLine) : List Char :=
  let between := [s.mark.getD ' ']
  let key := ((a.map (·.key)).getD ((b.map (·.key)).getD []))
  let filled (cs : List Char) : List Char := if cs.isEmpty then s.filler else cs
  let fields := match s.format with
    | some format => format.map fun
      | .key => filled key
      | .field file number =>
        let l := if file = 1 then a else b
        filled ((l.bind fun l => l.fields[number - 1]?).getD [])
    | none => filled key :: ((a.map (others s.keys.1)).getD [] ++ (b.map (others s.keys.2)).getD []).map filled
  between.intercalate fields

end JoinStyle

/-- what is left of a file that is joined, with the number of its next line and the line before -/
structure JoinFile where
  number : Nat
  path : String
  rest : List JoinLine
  next : Nat
  before : Option JoinLine

namespace JoinStyle

/-- print a pair of lines, or one that has no partner -/
def print (s : JoinStyle) (a b : Option JoinLine) : Activity Unit :=
  Tool.out (s.text a b ++ [s.ending])

/-- look at the line that a file has next; none if it is out of order and that ends the work -/
def look (s : JoinStyle) (f : JoinFile) (w : OrderWatch) : Activity (Option OrderWatch) := do
  match f.before, f.rest with
  | some before, line :: _ =>
    if s.compare before line == .gt && w.tells s.rule f.number then
      Tool.complain "join"
        s!"{shown f.path}:{f.next}: is not sorted: {String.ofList line.text}"
      return if s.rule = .strict then none else some (w.note f.number)
    else return some w
  | _, _ => return some w

/-- go on to the next line of a file -/
def step (s : JoinStyle) (f : JoinFile) (w : OrderWatch) : Activity (Option (JoinFile × OrderWatch)) := do
  let f : JoinFile := { f with rest := f.rest.drop 1, next := f.next + 1, before := f.rest.head? }
  return (← s.look f w).map fun w => (f, w)

/-- the lines of a file whose key is that of another line, and the rest -/
def stepWhile (s : JoinStyle) (key : JoinLine) : Nat → JoinFile → OrderWatch → List JoinLine →
    Activity (Option (List JoinLine × JoinFile × OrderWatch))
  | 0, f, w, found => return some (found.reverse, f, w)
  | n + 1, f, w, found => do
    match f.rest with
    | [] => return some (found.reverse, f, w)
    | line :: _ =>
      if s.compare line key == .eq then
        match ← s.step f w with
        | none => return none
        | some (f, w) => stepWhile s key n f w (line :: found)
      else return some (found.reverse, f, w)

/-- join two files as long as both have lines -/
def pair (s : JoinStyle) : Nat → JoinFile → JoinFile → OrderWatch →
    Activity (Option (JoinFile × JoinFile × OrderWatch))
  | 0, a, b, w => return some (a, b, w)
  | n + 1, a, b, w => do
    match a.rest, b.rest with
    | x :: _, y :: _ =>
      match s.compare x y with
      | .lt =>
        if s.alone.1 then s.print (some x) none
        match ← s.step a w with
        | none => return none
        | some (a, w) => pair s n a b { w with hasSingle := true }
      | .gt =>
        if s.alone.2 then s.print none (some y)
        match ← s.step b w with
        | none => return none
        | some (b, w) => pair s n a b { w with hasSingle := true }
      | .eq =>
        match ← s.stepWhile y (a.rest.length + 1) a w [] with
        | none => return none
        | some (xs, a, w) =>
          match ← s.stepWhile x (b.rest.length + 1) b w [] with
          | none => return none
          | some (ys, b, w) =>
            if !s.hidesPairs then
              for x in xs do
                for y in ys do s.print (some x) (some y)
            pair s n a b w
    | _, _ => return some (a, b, w)

/-- the lines of a file that are left when the other one has ended -/
def tail (s : JoinStyle) (isFirst prints : Bool) : Nat → JoinFile → OrderWatch →
    Activity (Option OrderWatch)
  | 0, _, w => return some w
  | n + 1, f, w => do
    match f.rest with
    | [] => return some w
    | line :: _ =>
      if prints then (if isFirst then s.print (some line) none else s.print none (some line))
      if w.told.contains f.number && !prints then return some w
      match ← s.step f w with
      | none => return none
      | some (f, w) => tail s isFirst prints n f w

end JoinStyle

/-- a number of a field, which counts from 1 -/
def fieldNumber? (text : String) : Option Nat := (natural? text).filter (0 < ·)

/-- what is wrong with the options of `join` -/
def joinFault? (g : Given) : Option String :=
  let keys := ["1", "2", "j"].flatMap g.values
  let files := g.values "a" ++ g.values "v"
  let parts := (g.values "o").flatMap fun text =>
    if text = "auto" then [] else (text.splitToList fun c => c == ',' || c == ' ' || c == '\t').filter (· ≠ "")
  let partFault (part : String) : Option String :=
    match part.toList with
    | ['0'] => none
    | '0' :: _ => some s!"invalid field specifier: {cited part}"
    | '1' :: '.' :: cs => fieldFault (String.ofList cs)
    | '2' :: '.' :: cs => fieldFault (String.ofList cs)
    | c :: '.' :: _ => if c.isDigit then some s!"invalid file number in field spec: {cited part}"
        else some s!"invalid file number in field spec: {cited part}"
    | _ => some (if part.startsWith "1" || part.startsWith "2" then
        s!"invalid field specifier: {cited part}" else s!"invalid file number in field spec: {cited part}")
  (keys.findSome? fieldFault).orElse fun _ =>
    ((files.find? fun text => text ≠ "1" && text ≠ "2").map fun text =>
      s!"invalid field number: {cited text}").orElse fun _ =>
    (parts.findSome? partFault).orElse fun _ =>
    ((g.values "t").find? fun text => 1 < text.length && text ≠ "\\0").map fun text =>
      s!"multi-character tab {quoted text}"
where
  /-- what is wrong with the number of a field -/
  fieldFault (text : String) : Option String :=
    if (fieldNumber? text).isSome then none else some s!"invalid field number: {cited text}"

def join (args : List String) : Activity Nat :=
  withOptions "join" (.of "iz" "12jtavoe" [("ignore-case", "i", .never),
    ("check-order", "check", .never), ("nocheck-order", "nocheck", .never), ("header", "header", .never),
    ("zero-terminated", "z", .never)]) 1 args fun g => do
  match joinFault? g with
  | some message => return ← refuse "join" message 1
  | none => pure ()
  match g.operands with
  | [] => misuse "join" "missing operand" 1
  | [a] => misuse "join" s!"missing operand after {cited a}" 1
  | _ :: _ :: extra :: _ => extraOperand "join" extra 1
  | [a, b] =>
    match ← contentOf a with
    | .error f => refuse "join" s!"{shown a}: {f.message}" 1
    | .ok first =>
      match ← contentOf b with
      | .error f => refuse "join" s!"{shown b}: {f.message}" 1
      | .ok second =>
        let key (name : String) : Nat :=
          ((g.value? name).bind fieldNumber? |>.orElse fun _ => (g.value? "j").bind fieldNumber?).getD 1
        let format := g.values "o"
        let all := g.values "a" ++ g.values "v"
        let mark := (g.value? "t").map fun text =>
          if text = "\\0" then '\x00' else text.toList.headD '\n'
        let ending := if g.has "z" then '\x00' else '\n'
        let s : JoinStyle := {
          mark
          ending
          rule := orderRule g
          ignoresCase := g.has "i"
          keys := (key "1", key "2")
          format := none
          filler := ((g.value? "e").getD "").toList
          alone := (all.contains "1", all.contains "2")
          hidesPairs := g.has "v" }
        let as := (partsOf ending first).1.map (s.line s.keys.1)
        let bs := (partsOf ending second).1.map (s.line s.keys.2)
        -- every line has as many fields as the first one has
        let ofFirst (file key : Nat) (lines : List JoinLine) : List JoinField :=
          let count := (lines.head?.map (·.fields.length)).getD 0
          ((List.range count).filter (· + 1 ≠ key)).map fun k => .field file (k + 1)
        let fixed := if format = ["auto"] then
            some (.key :: ofFirst 1 s.keys.1 as ++ ofFirst 2 s.keys.2 bs)
          else if format.isEmpty then none else joinFormat? (",".intercalate format)
        let s := { s with format := fixed }
        let hasHeader := g.has "header" && !(as.isEmpty && bs.isEmpty)
        if hasHeader then s.print as.head? bs.head?
        let skipped := if hasHeader then 1 else 0
        let file (number : Nat) (path : String) (lines : List JoinLine) : JoinFile :=
          ⟨number, path, lines.drop skipped, 1 + skipped, none⟩
        match ← s.pair (as.length + bs.length + 1) (file 1 a as) (file 2 b bs) ⟨false, []⟩ with
        | none => return 1
        | some (f, h, w) =>
          let checks := s.rule ≠ .none && w.told.length < 2
          let watch (other : JoinFile) (w : OrderWatch) : OrderWatch :=
            if other.rest.isEmpty then w else { w with hasSingle := true }
          let w? ← if (s.alone.1 || checks) && !f.rest.isEmpty then
              s.tail true s.alone.1 (f.rest.length + 1) f (watch h w)
            else pure (some w)
          match w? with
          | none => return 1
          | some w =>
            let w? ← if (s.alone.2 || checks) && !h.rest.isEmpty then
                s.tail false s.alone.2 (h.rest.length + 1) h (watch f w)
              else pure (some w)
            match w? with
            | none => return 1
            | some w =>
              if w.told.isEmpty then return 0
              refuse "join" "input is not in sorted order" 1

end PatternBuild.Shell.Tool
