import PatternBuild.Shell.Regex
import PatternBuild.Shell.Tool.Quantity

/-!
# Columns: tools that work on the parts of lines

`cut` and `paste` take lines apart and put them together, `fold`, `expand` and `unexpand` change
their shape, and `nl` and `wc` count them.
-/

namespace PatternBuild.Shell.Tool

open Activity

/-! ## cut -/

/-- a range of positions, which count from 1; without a last one it goes on to the end -/
abbrev PlaceRange := Nat × Option Nat

def inRange (n : Nat) (r : PlaceRange) : Bool := r.1 ≤ n && r.2.all (n ≤ ·)

/-- why a list of positions cannot be read -/
inductive RangeProblem where
  | zero
  | decreasing
  | noEnds
  | noNumber (text : String)
  | tooLarge (digits : String)
  deriving DecidableEq, Repr

def RangeProblem.message (isFields : Bool) : RangeProblem → String
  | .zero => if isFields then "fields are numbered from 1" else "byte/character positions are numbered from 1"
  | .decreasing => "invalid decreasing range"
  | .noEnds => "invalid range with no endpoint: -"
  | .noNumber text =>
    (if isFields then "invalid field value " else "invalid byte/character position ") ++ quoted text
  | .tooLarge digits =>
    (if isFields then "field number " else "byte/character offset ") ++ quoted digits ++ " is too large"

/-- one range of a list -/
def readRange (text : String) : Except RangeProblem PlaceRange := do
  let cs := text.toList
  let low := cs.takeWhile Char.isDigit
  let bad := RangeProblem.noNumber
  let least := (numeral? 10 low).getD 1
  if largestCount ≤ least then throw (.tooLarge (String.ofList low))
  match cs.drop low.length with
  | [] =>
    if low.isEmpty || least = 0 then throw .zero
    return (least, some least)
  | '-' :: high =>
    if !high.all Char.isDigit then throw (bad (String.ofList (high.dropWhile Char.isDigit)))
    if !low.isEmpty && least = 0 then throw .zero
    match numeral? 10 high with
    | none => if low.isEmpty then throw .noEnds else return (least, none)
    | some most =>
      if largestCount ≤ most then throw (.tooLarge (String.ofList high))
      else if most < least then throw .decreasing else return (least, some most)
  | rest => throw (bad (String.ofList rest))

/-- the ranges of a list -/
def readRanges (text : String) : Except RangeProblem (List PlaceRange) :=
  (text.splitToList fun c => c == ',' || c == ' ' || c == '\t').mapM readRange

/-- the positions that begin a range, apart from those that go on from another one -/
def startsRange (ranges : List PlaceRange) (n : Nat) : Bool :=
  ranges.any (fun r => r.1 = n) && !ranges.any fun r => r.1 < n && r.2.all (n ≤ ·)

/-- the characters of a line at some positions, with a text between ranges -/
def cutChars (ranges : List PlaceRange) (complement : Bool) (between : List Char)
    (line : List Char) : List Char :=
  let chosen (n : Nat) : Bool := ranges.any (inRange n) != complement
  let (found, _) := line.zipIdx.foldl (fun (found, wasChosen) (c, i) =>
    if chosen (i + 1) then
      let isStart := if complement then !wasChosen else !wasChosen || startsRange ranges (i + 1)
      let mark := if isStart && !found.isEmpty then between.reverse else []
      (c :: mark ++ found, true)
    else (found, false)) (([] : List Char), false)
  found.reverse

/-- the parts of a line between characters -/
def fieldsBetween (mark : Char) (line : List Char) : List (List Char) :=
  let (last, fields) := line.foldr (fun c (current, fields) =>
    if c == mark then ([], current :: fields) else (c :: current, fields)) ([], [])
  last :: fields

/-- the parts of a text at some positions, where the text has no lines but what ends them divides its
parts -/
def cutWhole (ranges : List PlaceRange) (complement : Bool) (mark : Char) (between : List Char)
    (cs : List Char) : List Char :=
  let chosen := (partsOf mark cs).1.zipIdx.filter fun (_, i) =>
    ranges.any (inRange (i + 1)) != complement
  if cs.isEmpty then [] else between.intercalate (chosen.map (·.1)) ++ [mark]

/-- the fields of a line at some positions; none if the line is left out -/
def cutFields (ranges : List PlaceRange) (complement onlyMarked : Bool) (mark : Char)
    (between : List Char) (line : List Char) : Option (List Char) :=
  if !line.contains mark then (if onlyMarked then none else some line)
  else
    let chosen := (fieldsBetween mark line).zipIdx.filter fun (_, i) =>
      ranges.any (inRange (i + 1)) != complement
    some (between.intercalate (chosen.map (·.1)))

def cut (args : List String) : Activity Nat :=
  withOptions "cut" (.of "nsz" "bcfd" [("bytes", "b", .always), ("characters", "c", .always),
    ("fields", "f", .always), ("delimiter", "d", .always), ("complement", "complement", .never),
    ("only-delimited", "s", .never), ("output-delimiter", "output", .always),
    ("zero-terminated", "z", .never)]) 1 args fun g => do
  let lists := g.options.filter fun (name, _) => ["b", "c", "f"].contains name
  match lists with
  | [] => misuse "cut" "you must specify a list of bytes, characters, or fields" 1
  | _ :: _ :: _ => misuse "cut" "only one list may be specified" 1
  | [(kind, list)] =>
    let isFields := kind = "f"
    let mark := (g.value? "d").getD "\t"
    if 1 < mark.length then misuse "cut" "the delimiter must be a single character" 1
    else if !isFields && g.has "d" then
      misuse "cut" "an input delimiter may be specified only when operating on fields" 1
    else if !isFields && g.has "s" then
      misuse "cut" "suppressing non-delimited lines makes sense\n\tonly when operating on fields" 1
    else
      match readRanges list with
      | .error p => misuse "cut" (p.message isFields) 1
      | .ok ranges =>
        let lineMark := if g.has "z" then '\x00' else '\n'
        let mark := mark.toList.headD '\x00'
        let between := match g.value? "output" with
          | some text => if text = "" then ['\x00'] else text.toList
          | none => if isFields then [mark] else []
        forOperands g.operands (fun path f => Tool.complain "cut" s!"{shown path}: {f.message}")
          fun _ fd => do
          if isFields && mark == lineMark then
            match ← readAll fd with
            | .error f => return .error f
            | .ok cs =>
              Tool.out (cutWhole ranges (g.has "complement") mark between cs)
              return .ok ()
          return (← forPartsUpTo fd lineMark blockSize (fun () line _ => do
            let text := if isFields then
                cutFields ranges (g.has "complement") (g.has "s") mark between line
              else some (cutChars ranges (g.has "complement") between line)
            match text with
            | some text => Tool.out (text ++ [lineMark])
            | none => pure ()
            return ((), true)) endless [] ()).map fun _ => ()

/-! ## paste -/

/-- the texts that a list of delimiters writes -/
def delimitersOf : List Char → List (List Char)
  | '\\' :: 'n' :: cs => ['\n'] :: delimitersOf cs
  | '\\' :: 't' :: cs => ['\t'] :: delimitersOf cs
  | '\\' :: '0' :: cs => [] :: delimitersOf cs
  | '\\' :: c :: cs => [c] :: delimitersOf cs
  | c :: cs => [c] :: delimitersOf cs
  | [] => []

/-- texts with delimiters between them, taken by turns -/
def joinByTurns (delimiters : List (List Char)) (texts : List (List Char)) : List Char :=
  (texts.zipIdx.map fun (text, i) =>
    if i = 0 then text
    else (delimiters[(i - 1) % delimiters.length]?).getD [] ++ text).flatten

/-- lines side by side, as long as there are any; standard input gives its lines by turns -/
def sideBySide (delimiters : List (List Char)) (mark : Char) :
    Nat → List (Option (List (List Char))) → List (List Char) → List Char → List Char
  | 0, _, _, found => found
  | n + 1, columns, shared, found =>
    let (row, shared, hasAny) := columns.foldl (fun (row, shared, hasAny) column =>
      match column with
      | some (line :: _) => (row ++ [line], shared, true)
      | some [] => (row ++ [[]], shared, hasAny)
      | none =>
        match shared with
        | line :: rest => (row ++ [line], rest, true)
        | [] => (row ++ [[]], [], hasAny)) (([] : List (List Char)), shared, false)
    if !hasAny then found
    else sideBySide delimiters mark n (columns.map (Option.map (List.drop 1))) shared
      (found ++ joinByTurns delimiters row ++ [mark])

/-- a text as it is shown without quotes -/
def shownBackslashes (text : String) : String :=
  if text.toList.all fun c => c == '\\' then text else shown text

def paste (args : List String) : Activity Nat :=
  withOptions "paste" (.of "sz" "d" [("delimiters", "d", .always), ("serial", "s", .never),
    ("zero-terminated", "z", .never)]) 1 args fun g => do
  let list := ((g.value? "d").getD "\t").toList
  if (list.reverse.takeWhile (· == '\\')).length % 2 = 1 then
    return ← refuse "paste"
      ("delimiter list ends with an unescaped backslash: " ++ shownBackslashes (String.ofList list)) 1
  let delimiters := delimitersOf list
  let delimiters := if delimiters.isEmpty then [[]] else delimiters
  let mark := if g.has "z" then '\x00' else '\n'
  let operands := if g.operands.isEmpty then ["-"] else g.operands
  if g.has "s" then
    forOperands operands (fun path f => Tool.complain "paste" s!"{shown path}: {f.message}")
      fun _ fd => do
      match ← readAll fd with
      | .error f => return .error f
      | .ok cs =>
        Tool.out (joinByTurns delimiters (partsOf mark cs).1 ++ [mark])
        return .ok ()
  else
    let mut columns : List (Option (List (List Char))) := []
    let mut shared : List (List Char) := []
    let mut hasFailed := false
    for path in operands do
      if hasFailed then continue
      if path = "-" then
        if !columns.contains none then
          match ← readAll 0 with
          | .ok cs => shared := (partsOf mark cs).1
          | .error _ => pure ()
        columns := columns ++ [none]
      else
        match ← contentOf path with
        | .ok cs => columns := columns ++ [some (partsOf mark cs).1]
        | .error f =>
          Tool.complain "paste" s!"{shown path}: {f.message}"
          hasFailed := true
    if hasFailed then return 1
    let rows := columns.foldl (fun n c => n + (c.getD []).length) (shared.length + 1)
    Tool.out (sideBySide delimiters mark rows columns shared [])
    return 0

/-! ## fold -/

/-- the column after a character -/
def nextColumn (countsOctets : Bool) (column : Nat) (c : Char) : Nat :=
  if countsOctets then column + 1
  else match c with
    | '\t' => column + 8 - column % 8
    | '\x08' => column - 1
    | '\r' => 0
    | _ => column + 1

/-- the column after a text -/
def columnAfter (countsOctets : Bool) (cs : List Char) : Nat :=
  cs.foldl (nextColumn countsOctets) 0

/-- a line, broken where it is too wide; `open_` is what stands on the last row, reversed -/
def foldLine (width : Nat) (countsOctets atBlanks : Bool) :
    Nat → List Char → Nat → List Char → List (List Char)
  | 0, _, _, opened => [opened.reverse]
  | _ + 1, [], _, opened => [opened.reverse]
  | n + 1, c :: cs, column, opened =>
    let next := nextColumn countsOctets column c
    if next ≤ width || opened.isEmpty then
      foldLine width countsOctets atBlanks n cs next (c :: opened)
    else
      let tail := opened.takeWhile fun c => !(c == ' ' || c == '\t')
      if atBlanks && tail.length < opened.length then
        let row := opened.drop tail.length
        row.reverse :: foldLine width countsOctets atBlanks n (c :: cs)
          (columnAfter countsOctets tail.reverse) tail
      else opened.reverse :: foldLine width countsOctets atBlanks n (c :: cs) 0 []

def fold (args : List String) : Activity Nat :=
  let args := args.map fun a => match a.toList with
    | '-' :: c :: cs => if (c :: cs).all Char.isDigit then "-w" ++ String.ofList (c :: cs) else a
    | _ => a
  withOptions "fold" (.of "bs" "w" [("bytes", "b", .never), ("spaces", "s", .never),
    ("width", "w", .always)]) 1 args fun g => do
  let text := (g.value? "w").getD "80"
  match countWithin "" 1 (largestCount - 9) text with
  | .error reason => refuse "fold" s!"invalid number of columns: {cited text}{reason}" 1
  | .ok width =>
    forOperands g.operands (fun path f => Tool.complain "fold" s!"{shown path}: {f.message}")
      fun _ fd => do
      return (← forLines fd () fun () line isEnded => do
        let rows := foldLine width (g.has "b") (g.has "s") (2 * line.length + 2) line 0 []
        Tool.out (['\n'].intercalate rows ++ if isEnded then ['\n'] else [])
        return ((), true)).map fun _ => ()

/-! ## tabs -/

/-- where tab stops are -/
structure TabStops where
  /-- the stops that are listed -/
  listed : List Nat
  /-- the distance of those behind them, and the column that it counts from -/
  further : Option (Nat × Nat)

/-- the column of the next tab stop; after the last one a tab is one blank wide -/
def TabStops.next (t : TabStops) (column : Nat) : Nat :=
  match t.listed.find? (column < ·), t.further with
  | some stop, _ => stop
  | none, some (width, start) => if width = 0 then column + 1 else column + width - (column - start) % width
  | none, none => column + 1

/-- the tab stops that a text lists, or why it lists none -/
def stopsOf (text : String) : Except String TabStops := do
  let parts := (text.splitToList fun c => c == ',' || c == ' ').filter (· ≠ "")
  let bad (part : String) : String :=
    s!"tab size contains invalid character(s): {cited (String.ofList (part.toList.dropWhile Char.isDigit))}"
  let (marked, listed) := parts.partition fun part => part.startsWith "/" || part.startsWith "+"
  let stops ← listed.mapM fun part => match natural? part with
    | some n =>
      if largestCount < n then .error ("tab stop is too large " ++ quoted part) else .ok n
    | none => .error (bad part)
  if stops.contains 0 then throw "tab size cannot be 0"
  if (stops.zip (stops.drop 1)).any fun (a, b) => b ≤ a then throw "tab sizes must be ascending"
  match marked with
  | part :: _ =>
    match natural? (String.ofList (part.toList.drop 1)) with
    | none => throw (bad (String.ofList (part.toList.drop 1)))
    | some width =>
      let last := if part.startsWith "+" then stops.getLastD 0 else 0
      return ⟨stops, some (width, last)⟩
  | [] =>
    match stops with
    | [] => return ⟨[], some (8, 0)⟩
    | [width] => return ⟨[], some (width, 0)⟩
    | stops => return ⟨stops, none⟩

/-- a line with blanks for its tabs, up to the first other character if `onlyFirst` holds -/
def expandLine (stops : TabStops) (onlyFirst : Bool) (line : List Char) : List Char :=
  let (found, _, _) := line.foldl (fun (found, column, isFirst) c =>
    if c == '\t' && (isFirst || !onlyFirst) then
      let next := stops.next column
      (List.replicate (next - column) ' ' ++ found, next, isFirst)
    else
      (c :: found, if c == '\x08' then column - 1 else column + 1, isFirst && (c == ' ' || c == '\t')))
    (([] : List Char), 0, true)
  found.reverse

/-- blanks between two columns, as tabs where they reach tab stops -/
def tabsBetween (stops : TabStops) (spells : Bool) :
    Nat → Nat → Nat → List Char
  | 0, _, _ => []
  | n + 1, low, high =>
    if high ≤ low then []
    else
      let next := stops.next low
      if next ≤ high && spells then '\t' :: tabsBetween stops spells n next high
      else List.replicate (high - low) ' '

/-- a line with tabs for its blanks -/
def unexpandLine (stops : TabStops) (all : Bool) : Nat → List Char → Nat → Bool → List Char
  | 0, cs, _, _ => cs
  | _ + 1, [], _, _ => []
  | n + 1, c :: cs, column, isFirst =>
    if (c == ' ' || c == '\t') && (isFirst || all) then
      let run := (c :: cs).takeWhile fun c => c == ' ' || c == '\t'
      let rest := (c :: cs).drop run.length
      let high := run.foldl (fun k c => if c == '\t' then stops.next k else k + 1) column
      -- a single blank in front of a tab stop stays, unless a tab follows it
      let text := if run == [' '] && !isFirst then run
        else tabsBetween stops true (high - column + 1) column high
      text ++ unexpandLine stops all n rest high isFirst
    else c :: unexpandLine stops all n cs (column + 1) false

/-- a tool that changes the tabs of lines -/
def tabTool (program : String) (change : Given → TabStops → List Char → List Char)
    (args : List String) : Activity Nat :=
  let args := args.map fun a => match a.toList with
    | '-' :: c :: cs => if (c :: cs).all (fun c => c.isDigit || c == ',') then
        "-t" ++ String.ofList (c :: cs) else a
    | _ => a
  withOptions program (.of "ai" "t" [("tabs", "t", .always), ("initial", "i", .never),
    ("all", "a", .never), ("first-only", "first", .never)]) 1 args fun g => do
  let text := ",".intercalate (g.values "t")
  match stopsOf text with
  | .error message => refuse program message 1
  | .ok stops =>
    forOperands g.operands (fun path f => Tool.complain program s!"{shown path}: {f.message}")
      fun _ fd => do
      return (← forLines fd () fun () line isEnded => do
        Tool.out (change g stops line ++ if isEnded then ['\n'] else [])
        return ((), true)).map fun _ => ()

def expand : List String → Activity Nat :=
  tabTool "expand" fun g stops => expandLine stops (g.has "i")

def unexpand : List String → Activity Nat :=
  tabTool "unexpand" fun g stops line =>
    let all := (g.has "a" || g.has "t") && !g.has "first"
    unexpandLine stops all (line.length + 1) line 0 true

/-! ## nl -/

/-- where `nl` stands: the part of a page, the next number, and the empty lines before -/
structure NumberingState where
  part : Nat
  number : Int
  blanks : Nat

/-- what is wrong with the options of `nl`, and whether that is a misuse -/
def numberingFault? (g : Given) : Option (String × Bool) :=
  let isStyle (text : String) : Bool := text = "a" || text = "t" || text = "n" || text.startsWith "p"
  let styles := [("h", "header"), ("b", "body"), ("f", "footer")].filterMap fun (name, title) =>
    ((g.values name).find? fun text => !isStyle text).map fun text =>
      (s!"invalid {title} numbering style: {cited text}", true)
  let formats := ((g.values "n").filter fun text => !(["ln", "rn", "rz"].contains text)).map fun text =>
    (s!"invalid line numbering format: {cited text}", true)
  let signed := [("v", "starting line number"), ("i", "line number increment")].filterMap
    fun (name, title) => (g.values name).findSome? fun text =>
      match integerWithin "" (-9223372036854775808) 9223372036854775807 text with
      | .ok _ => none
      | .error reason => some (s!"invalid {title}: {cited text}{reason}", false)
  let counts := [("l", "line number of blank lines", (9223372036854775807 : Int)),
    ("w", "line number field width", 2147483647)].filterMap
    fun (name, title, most) => (g.values name).findSome? fun text =>
      match integerWithin "" 1 most text with
      | .ok _ => none
      | .error reason => some (s!"invalid {title}: {cited text}{reason}", false)
  (signed ++ counts ++ styles ++ formats).head?

def nl (args : List String) : Activity Nat :=
  withOptions "nl" (.of "p" "bdfhilnsvw" [("body-numbering", "b", .always),
    ("section-delimiter", "d", .always), ("footer-numbering", "f", .always),
    ("header-numbering", "h", .always), ("line-increment", "i", .always),
    ("join-blank-lines", "l", .always), ("number-format", "n", .always), ("no-renumber", "p", .never),
    ("number-separator", "s", .always), ("starting-line-number", "v", .always),
    ("number-width", "w", .always)]) 1 args fun g => do
  match numberingFault? g with
  | some (message, isMisuse) => return ← if isMisuse then misuse "nl" message 1 else refuse "nl" message 1
  | none => pure ()
  let number (name : String) (usual : Int) : Int := ((g.value? name).bind wholeNumber?).getD usual
  let width := (number "w" 6).toNat
  let between := (g.value? "s").getD "\t"
  let start := number "v" 1
  let joined := (number "l" 1).toNat
  let style (part : Nat) : String :=
    (g.value? (if part = 0 then "h" else if part = 1 then "b" else "f")).getD
      (if part = 1 then "t" else "n")
  let mark := match ((g.value? "d").getD "\\:").toList with
    | [c] => [c, ':']
    | cs => cs
  let spelled (n : Int) : String :=
    let digits := toString n.natAbs
    let sign := if n < 0 then "-" else ""
    match g.value? "n" with
    | some "ln" => padRight width (sign ++ digits)
    | some "rz" => sign ++ String.ofList (List.replicate (width - sign.length - digits.length) '0') ++ digits
    | _ => padLeft width (sign ++ digits)
  let mut state : NumberingState := ⟨1, start, 0⟩
  let (found, code) ← contents "nl" g.operands
  for (_, cs) in found do
    for line in linesOf cs do
      if line == mark ++ mark ++ mark || line == mark ++ mark || line == mark then
        let part := if line == mark then 2 else if line == mark ++ mark then 1 else 0
        state := ⟨part, if g.has "p" then state.number else start, 0⟩
        Tool.out ['\n']
      else
        let isBlank := line.isEmpty
        let blanks := if isBlank then state.blanks + 1 else 0
        let isNumbered : Bool := match (style state.part).toList with
          | 'a' :: _ => !isBlank || joined ≤ 1 || blanks % joined = 0
          | 't' :: _ => !isBlank
          | 'p' :: pattern =>
            ((Regex.read .basic pattern).map fun r => r.occurs false line).toOption.getD false
          | _ => false
        if isNumbered then
          if 9223372036854775807 < state.number then return ← refuse "nl" "line number overflow" 1
          Tool.out ((spelled state.number ++ between).toList ++ line ++ ['\n'])
          state := { state with number := state.number + number "i" 1, blanks }
        else
          Tool.out (List.replicate (width + between.length) ' ' ++ line ++ ['\n'])
          state := { state with blanks }
  return code

/-! ## wc -/

/-- what is counted in a text -/
structure Counts where
  lines : Nat
  words : Nat
  octets : Nat
  widest : Nat

namespace Counts

def none : Counts := ⟨0, 0, 0, 0⟩

def plus (a b : Counts) : Counts :=
  ⟨a.lines + b.lines, a.words + b.words, a.octets + b.octets, max a.widest b.widest⟩

/-- count a text; a word holds a character that can be shown -/
def of (cs : List Char) : Counts :=
  let (counts, column, _) := cs.foldl (fun (t : Counts × Nat × Bool) c =>
    let (k, column, inWord) := t
    let k := { k with octets := k.octets + 1 }
    match c with
    | '\n' => ({ k with lines := k.lines + 1, widest := max k.widest column }, 0, false)
    | '\r' => ({ k with widest := max k.widest column }, 0, false)
    | '\x0c' => ({ k with widest := max k.widest column }, 0, false)
    | '\t' => (k, column + 8 - column % 8, false)
    | ' ' => (k, column + 1, false)
    | '\x0b' => (k, column, false)
    | c =>
      if isHidden c then (k, column, inWord)
      else ({ k with words := if inWord then k.words else k.words + 1 }, column + 1, true))
    (none, 0, false)
  { counts with widest := max counts.widest column }

end Counts

def wc (args : List String) : Activity Nat :=
  withOptions "wc" (.of "lwcmL" "" [("lines", "l", .never), ("words", "w", .never),
    ("bytes", "c", .never), ("chars", "m", .never), ("max-line-length", "L", .never),
    ("total", "total", .always), ("files0-from", "from", .always)]) 1 args fun g =>
  withChoice "wc" "--total" [["auto"], ["always"], ["only"], ["never"]] 1 ((g.value? "total").getD "auto")
    fun wanted => do
  let isUsual := !(["l", "w", "c", "m", "L"].any g.has)
  let mut listed : List String := []
  match g.value? "from" with
  | some path =>
    match g.operands with
    | extra :: _ =>
      Tool.complain "wc" s!"extra operand {cited extra}"
      tell "file operands cannot be combined with --files0-from\n"
      tryHelp "wc"
      return 1
    | [] =>
      match ← contentOf path with
      | .error f => return ← refuse "wc" s!"cannot open {quoted path} for reading: {f.message}" 1
      | .ok cs => listed := (partsOf '\x00' cs).1.map String.ofList
  | none => pure ()
  let isListed := g.has "from"
  let operands := if isListed then listed else if g.operands.isEmpty then ["-"] else g.operands
  let columns (k : Counts) : List Nat :=
    (if isUsual || g.has "l" then [k.lines] else []) ++ (if isUsual || g.has "w" then [k.words] else []) ++
    (if g.has "m" then [k.octets] else []) ++ (if isUsual || g.has "c" then [k.octets] else []) ++
    (if g.has "L" then [k.widest] else [])
  -- the widest number that there may be, by the sizes of the files
  let d ← disk
  let mut total := 0
  let mut least := 1
  for path in operands do
    if path = "-" then
      match ← streamOf 0 with
      | some (_, .file n _ _) => total := total + (d.file n).content.length
      | _ => least := 7
    else
      match d.stat path with
      | .ok (_, .file n) => total := total + (d.file n).content.length
      | .ok _ => least := 7
      | .error _ => pure ()
  let width := if operands.length = 1 && (columns .none).length = 1 || isListed || wanted = "only" then 1
    else max least (toString total).length
  let report (k : Counts) (name : Option String) : Activity Unit := do
    let numbers := (columns k).map fun n => padLeft width (toString n)
    Tool.say (" ".intercalate (numbers ++ name.toList) ++ "\n")
  let mut sum := Counts.none
  let mut code := 0
  for path in operands do
    match ← openOperand path with
    | .error f =>
      Tool.complain "wc" s!"{shown path}: {f.message}"
      code := 1
    | .ok fd =>
      let name := if g.operands.isEmpty && !isListed then none else some path
      let report (k : Counts) (name : Option String) : Activity Unit :=
        if wanted = "only" then return else report k name
      match ← readAll fd with
      | .error f =>
        Tool.complain "wc" s!"{shown path}: {f.message}"
        report .none name
        code := 1
      | .ok cs =>
        let counts := Counts.of cs
        report counts name
        sum := sum.plus counts
      close fd
  let wantsTotal := match wanted with
    | "auto" => decide (1 < operands.length)
    | wanted => wanted ≠ "never"
  if wantsTotal then report sum (if wanted = "only" then none else some "total")
  return code

end PatternBuild.Shell.Tool
