import PatternBuild.Shell.Tool.Quantity

/-!
# Pieces: files cut into others of certain sizes

`split` cuts a text into pieces and writes each into a file of its own.  How a text is cut is a
function of the text, and the name of a piece is a function of its number.
-/

namespace PatternBuild.Shell.Tool

open Activity

/-! ## files of pieces -/

/-- write a piece into a file of its own; false if that fails -/
def writePiece (program path : String) (cs : List Char) : Activity Bool := do
  match ← openToWrite path false with
  | .error f =>
    Tool.complain program s!"{shown path}: {f.message}"
    return false
  | .ok fd =>
    let isWritten ← write fd cs
    close fd
    if !isWritten then Tool.complain program s!"{shown path}: No space left on device"
    return isWritten

/-! ## cutting by size -/

/-- how a text is cut; of some cuts one piece can be chosen by its number -/
inductive Division where
  /-- so many lines in a piece -/
  | lines (count : Nat)
  /-- so many octets in a piece -/
  | octets (count : Nat)
  /-- so many octets at most, in whole lines where that is possible -/
  | lineOctets (count : Nat)
  /-- so many pieces of about one size -/
  | parts (chosen : Option Nat) (count : Nat)
  /-- the same in whole lines -/
  | lineParts (chosen : Option Nat) (count : Nat)
  /-- so many pieces, each line in the next one -/
  | turns (chosen : Option Nat) (count : Nat)

/-- the lines of a text with what ends them -/
def wholeLines (mark : Char) (cs : List Char) : List (List Char) :=
  let (parts, isEnded) := partsOf mark cs
  if isEnded then parts.map (· ++ [mark])
  else parts.dropLast.map (· ++ [mark]) ++ parts.getLast?.toList

/-- groups of so many items -/
def groupsOf {α : Type} (count : Nat) : Nat → List α → List (List α)
  | 0, _ => []
  | n + 1, xs => if xs.isEmpty then [] else xs.take count :: groupsOf count n (xs.drop count)

/-- pieces of at most so many octets, cut behind the last line that fits if there is one -/
def lineBlocks (mark : Char) (count : Nat) : Nat → List Char → List (List Char)
  | 0, _ => []
  | n + 1, cs =>
    if cs.isEmpty then []
    else
      let block := cs.take count
      let piece := if block.length < count then block
        else
          let tail := block.reverse.takeWhile (· ≠ mark)
          if tail.length = block.length then block else block.take (block.length - tail.length)
      piece :: lineBlocks mark count n (cs.drop piece.length)

/-- the number of the first octet of a piece, of pieces with whole lines; a piece takes the lines that
begin in its part of the text -/
def linePart (size count position : Nat) : Nat :=
  let part := max size count / count
  min (position / part) (count - 1)

/-- pieces with the lines that begin in so many parts of a text -/
def partsOfLines (mark : Char) (count : Nat) (cs : List Char) : List (List Char) :=
  let size := cs.length
  let placed := ((wholeLines mark cs).foldl (fun (position, placed) line =>
    (position + line.length, (linePart size count position, line) :: placed)) (0, [])).2.reverse
  (List.range count).map fun k => ((placed.filter (·.1 = k)).map (·.2)).flatten

/-- cut a text -/
def Division.pieces (d : Division) (mark : Char) (cs : List Char) : List (List Char) :=
  match d with
  | .lines count => (groupsOf count (cs.length + 1) (wholeLines mark cs)).map List.flatten
  | .octets count => groupsOf count (cs.length + 1) cs
  | .lineOctets count => lineBlocks mark count (cs.length + 1) cs
  | .parts _ count =>
    let part := max cs.length count / count
    (List.range count).map fun k =>
      if k + 1 = count then cs.drop (k * part) else (cs.drop (k * part)).take part
  | .lineParts _ count => partsOfLines mark count cs
  | .turns _ count =>
    let lines := (wholeLines mark cs).zipIdx
    (List.range count).map fun k => ((lines.filter fun (_, i) => i % count = k).map (·.1)).flatten

/-- the piece that alone is wanted -/
def Division.chosen? : Division → Option Nat
  | .parts chosen _ => chosen
  | .lineParts chosen _ => chosen
  | .turns chosen _ => chosen
  | _ => none

/-- how many pieces there are, whatever the text -/
def Division.count? : Division → Option Nat
  | .parts _ count => some count
  | .lineParts _ count => some count
  | .turns _ count => some count
  | _ => none

/-! ## names of pieces -/

/-- how pieces are named -/
structure PieceNames where
  start : String
  letters : List Char
  width : Nat
  /-- the number of the first one -/
  first : Nat
  /-- whether names get longer when there are no more of their length -/
  grows : Bool
  ending : String

namespace PieceNames

/-- a number in the letters of names, in so many places; the last place comes first -/
def placesOf (letters : List Char) : Nat → Nat → List Char
  | 0, _ => []
  | w + 1, n => (letters[n % letters.length]?).getD 'a' :: placesOf letters w (n / letters.length)

/-- the letters of a name; those that grow keep the last letter of the first place for longer names -/
def spelled (letters : List Char) (grows : Bool) (width n : Nat) : Nat → Option (List Char)
  | 0 => none
  | fuel + 1 =>
    let base := letters.length
    let room := if grows then (base - 1) * Nat.pow base (width - 1) else Nat.pow base width
    if n < room then some (placesOf letters width n).reverse
    else if grows then
      (spelled letters grows (width + 1) (n - room) fuel).map fun rest => letters.getLastD 'z' :: rest
    else none

/-- the name of a piece, unless there are no more names -/
def name? (p : PieceNames) (i : Nat) : Option String :=
  (spelled p.letters p.grows p.width (p.first + i) (i + 1)).map fun cs =>
    p.start ++ String.ofList cs ++ p.ending

end PieceNames

/-- the number of places that a count of names needs -/
def placesFor (base : Nat) : Nat → Nat → Nat
  | 0, _ => 1
  | fuel + 1, n => if n < base then 1 else 1 + placesFor base fuel (n / base)

/-! ## split -/

/-- what `split` is told to do -/
structure SplitRules where
  division : Division
  mark : Char
  names : PieceNames
  /-- whether empty pieces are left out -/
  skipsEmpty : Bool
  filter : Option String
  isVerbose : Bool
  /-- the path that is read -/
  input : String

/-- why there are no such rules -/
structure PieceProblem where
  message : String
  hints : Bool

/-- the number that an option gives, which is not zero -/
def pieceCount (what letters : String) (most : Nat) (text : String) : Except PieceProblem Nat :=
  (countWithin letters 1 most text).mapError fun reason => ⟨s!"{what}: {cited text}{reason}", false⟩

/-- a count of pieces, and which of them alone is wanted -/
def pieceChoice (text : String) : Except PieceProblem (Option Nat × Nat) := do
  match splitAt? '/' text.toList with
  | (k, some n) =>
    let count ← pieceCount "invalid number of chunks" "" largestCount (String.ofList n)
    let chosen ← pieceCount "invalid chunk number" "" count (String.ofList k)
    return (some (chosen - 1), count)
  | (_, none) => return (none, ← pieceCount "invalid number of chunks" "" largestCount text)

/-- the cut that an option asks for -/
def divisionOf (letter text : String) : Except PieceProblem Division := do
  match letter with
  | "b" => return .octets (← pieceCount "invalid number of bytes" sizeLetters largestSize text)
  | "C" => return .lineOctets (← pieceCount "invalid number of lines" sizeLetters largestSize text)
  | "n" =>
    match text.toList with
    | 'l' :: '/' :: rest => do
      let (chosen, count) ← pieceChoice (String.ofList rest)
      return .lineParts chosen count
    | 'r' :: '/' :: rest => do
      let (chosen, count) ← pieceChoice (String.ofList rest)
      return .turns chosen count
    | _ => do
      let (chosen, count) ← pieceChoice text
      return .parts chosen count
  | _ => return .lines (← pieceCount "invalid number of lines" "" largestCount text)

/-- the character that ends records -/
def recordMark (texts : List String) : Except PieceProblem Char := do
  let marks ← texts.mapM fun text =>
    match text.toList with
    | [] => throw ⟨"empty record separator", false⟩
    | [c] => pure c
    | ['\\', '0'] => pure '\x00'
    | _ => throw ⟨s!"multi-character separator {cited text}", false⟩
  match marks with
  | [] => return '\n'
  | m :: rest =>
    if rest.any (· != m) then throw ⟨"multiple separator characters specified", false⟩
    return m

/-- the letters in names of pieces, with the number of the first one if it is given -/
def nameLettersOf (g : Given) : List Char × Option String :=
  let hex := "0123456789abcdef".toList
  let given (name : String) : Option String := (g.value? name).filter (· ≠ "")
  match g.last? ["d", "x", "numeric", "hex"] with
  | some "x" => (hex, none)
  | some "hex" => (hex, given "hex")
  | some "d" => ("0123456789".toList, none)
  | some _ => ("0123456789".toList, given "numeric")
  | none => ("abcdefghijklmnopqrstuvwxyz".toList, none)

/-- how pieces are named -/
def pieceNames (g : Given) (start : String) (count? : Option Nat) : Except PieceProblem PieceNames := do
  let ending := g.valueOf "additional"
  if ending.contains '/' then
    throw ⟨s!"invalid suffix {cited ending}, contains directory separator", true⟩
  let (letters, firstText?) := nameLettersOf g
  let base := letters.length
  let width ← match g.value? "a" with
    | none => pure 0
    | some text =>
      match countWithin "" 0 2305843009213693951 text with
      | .ok n => pure n
      | .error reason => throw ⟨s!"invalid suffix length: {cited text}{reason}", false⟩
  let first ← match firstText? with
    | none => pure 0
    | some text =>
      match if text.toList.all fun c => letters.contains c then numeral? base text.toList else none with
      | some n => pure n
      | none =>
        throw ⟨s!"{cited text}: invalid start value for {if base = 16 then 16 else 10} suffix", true⟩
  let last? := count?.map fun count => count - 1 + if first < count then first else 0
  let needed := match last? with
    | some last => placesFor base last last
    | none => 0
  if width ≠ 0 && width < needed then
    throw ⟨s!"the suffix length needs to be at least {needed}", false⟩
  let used := if width = 0 then max 2 needed else width
  if used < (firstText?.getD "").length then
    throw ⟨"numerical suffix start value is too large for the suffix length", true⟩
  return ⟨start, letters, used, first, width = 0 && firstText?.isNone && count?.isNone, ending⟩

/-- read the options of `split` -/
def splitRules (g : Given) : Except PieceProblem SplitRules := do
  let digits := String.join ((g.options.filter fun (name, _) =>
    name.toList.all Char.isDigit).map (·.1))
  let chosen := (g.options.filter fun (name, _) => ["b", "C", "l", "n"].contains name) ++
    if digits = "" then [] else [("l", digits)]
  let division ← match chosen with
    | [] => pure (Division.lines 1000)
    | [(letter, text)] => divisionOf letter text
    | (letter, text) :: _ => do
      discard (divisionOf letter text)
      throw ⟨"cannot split in more than one way", true⟩
  let mark ← recordMark (g.values "t")
  match g.operands with
  | _ :: _ :: extra :: _ => throw ⟨s!"extra operand {cited extra}", true⟩
  | operands =>
    let names ← pieceNames g ((operands.drop 1).headD "x") division.count?
    if division.chosen?.isSome && g.has "filter" then
      throw ⟨"--filter does not process a chunk extracted to stdout", true⟩
    return {
      division
      mark
      names
      skipsEmpty := g.has "e"
      filter := g.value? "filter"
      isVerbose := g.has "verbose"
      input := operands.headD "-" }

/-- give a piece to a command; the outcome is its exit code -/
def filterPiece (programs : Programs) (command name : String) (cs : List Char) : Activity Nat := do
  let p ← own
  let (m, pipe) := (← machine).addPipe true
  let (m, n) := m.addStream (.reader pipe)
  modifyMachine fun _ => m
  discard flush
  modifyMachine fun m => m.setPipe pipe ((m.pipe pipe).write cs)
  modifyOwn fun p => { p with
    environment := (p.environment.filter (·.1 ≠ "FILE")) ++ [("FILE", name)] }
  let shell := ((p.environment.lookup "SHELL").filter (· ≠ "")).getD "/bin/sh"
  let code ← withDescriptors do
    setDescriptor 0 n
    programs.run [shell, "-c", command]
  modifyOwn fun q => { q with environment := p.environment }
  match code with
  | .ok 0 => return 0
  | .ok code =>
    Tool.complain "split" s!"with FILE={name}, exit {code} from command: {command}"
    return code
  | .error f =>
    Tool.complain "split" s!"failed to run command: \"{shell} -c {command}\": {f.message}"
    return 1

/-- write pieces one after the other until one cannot be written -/
def writePieces (programs : Programs) (r : SplitRules) : List (List Char) → Nat → Activity Nat
  | [], _ => return 0
  | cs :: rest, i => do
    match r.names.name? i with
    | none => refuse "split" "output file suffixes exhausted" 1
    | some name =>
      if r.isVerbose then
        Tool.say (if r.filter.isSome then s!"executing with FILE={quoted name}\n"
          else s!"creating file {quoted name}\n")
      let code ← match r.filter with
        | some command => filterPiece programs command name cs
        | none =>
          let isInput := (← disk).realPath? name == (← disk).realPath? r.input && r.input ≠ "-" &&
            (← disk).isPresent name
          if isInput then refuse "split" s!"{cited name} would overwrite input; aborting" 1
          else pure (if ← writePiece "split" name cs then 0 else 1)
      if code = 0 then writePieces programs r rest (i + 1) else return code

def split (programs : Programs) (args : List String) : Activity Nat :=
  withOptions "split" (.of "dexu0123456789" "abClnt" [("suffix-length", "a", .always),
    ("additional-suffix", "additional", .always), ("bytes", "b", .always),
    ("line-bytes", "C", .always), ("numeric-suffixes", "numeric", .maybe),
    ("hex-suffixes", "hex", .maybe), ("elide-empty-files", "e", .never), ("filter", "filter", .always),
    ("lines", "l", .always), ("number", "n", .always), ("separator", "t", .always),
    ("unbuffered", "u", .never), ("verbose", "verbose", .never)]) 1 args fun g => do
  match splitRules g with
  | .error p => if p.hints then misuse "split" p.message 1 else refuse "split" p.message 1
  | .ok r =>
    match ← openOperand r.input with
    | .error f => refuse "split" s!"cannot open {quoted r.input} for reading: {f.message}" 1
    | .ok fd =>
      let isSized := match ← streamOf fd with
        | some (_, .file _ _ _) => true
        | _ => false
      let needsSize := match r.division with
        | .parts _ _ => true
        | .lineParts _ _ => true
        | _ => false
      if needsSize && !isSized then
        return ← refuse "split" s!"{shown r.input}: cannot determine file size" 1
      match ← readAll fd with
      | .error f => refuse "split" s!"{shown r.input}: {f.message}" 1
      | .ok cs =>
        close fd
        let pieces := r.division.pieces r.mark cs
        match r.division.chosen? with
        | some k =>
          Tool.out ((pieces[k]?).getD [])
          return 0
        | none =>
          writePieces programs r (if r.skipsEmpty then pieces.filter (!·.isEmpty) else pieces) 0

end PatternBuild.Shell.Tool
