import PatternBuild.Text.Blank

/-!
# TOML documents

A document binds keys to values, directly or under the headers of tables.  `Toml.parse` reads the
whole format.  Of fractions and moments in time it checks the form alone and keeps them as they
are written, as no setting takes one.

Readers take the characters ahead and return what they read with the characters after it.
-/

namespace PatternBuild

/-- how a table came to be, which decides what may still be added to it -/
inductive TableKind where
  /-- written out as a value -/
  | inline
  /-- by a dotted key -/
  | dotted
  /-- by a header of its own -/
  | header
  /-- by the header of a table inside it -/
  | implied
  deriving DecidableEq, Repr

/-- a value of a document -/
inductive Toml where
  | text (s : String)
  | whole (n : Int)
  /-- the mark of a base without digits after it, which is no number yet -/
  | digitless (base : Nat)
  | truth (b : Bool)
  /-- a number that is not whole, as written -/
  | fraction (word : String)
  /-- a date, a time of day or both, as written -/
  | moment (word : String)
  | array (items : List Toml)
  | table (kind : TableKind) (entries : List (String × Toml))
  deriving Repr

namespace Toml

/-- a reader of what lies ahead -/
abbrev Reader (α : Type) := List Char → Option (α × List Char)

/-! ## blanks and line ends -/

def isSpace (c : Char) : Bool := c == ' ' || c == '\t'

/-- a control character that may stand neither in comments nor in strings -/
def isControl (c : Char) : Bool := (c.toNat < 0x20 && c != '\t') || c.toNat == 0x7F

def skipSpaces (cs : List Char) : List Char := cs.dropWhile isSpace

/-- the end of a line, or of the document -/
def lineEnd? : List Char → Option (List Char)
  | [] => some []
  | '\n' :: cs => some cs
  | '\r' :: '\n' :: cs => some cs
  | _ => none

/-- skip a comment, if there is one -/
def skipComment : List Char → List Char
  | '#' :: cs => cs.dropWhile fun c => !isControl c
  | cs => cs

/-- skip spaces, comments and line ends, from inside a comment or outside -/
def skipLinesFrom (isComment : Bool) : List Char → List Char
  | [] => []
  | '\n' :: cs => skipLinesFrom false cs
  | '\r' :: '\n' :: cs => skipLinesFrom false cs
  | c :: cs =>
    if isComment then if isControl c then c :: cs else skipLinesFrom true cs
    else if isSpace c then skipLinesFrom false cs
    else if c == '#' then skipLinesFrom true cs
    else c :: cs

/-- skip spaces, comments and line ends -/
def skipLines (cs : List Char) : List Char := skipLinesFrom false cs

/-! ## strings -/

/-- the value of a hexadecimal digit -/
def hexValue? (c : Char) : Option Nat :=
  if c.isDigit then some (c.toNat - '0'.toNat)
  else if 'a' ≤ c ∧ c ≤ 'f' then some (c.toNat - 'a'.toNat + 10)
  else if 'A' ≤ c ∧ c ≤ 'F' then some (c.toNat - 'A'.toNat + 10)
  else none

/-- a character given by exactly `digits` hexadecimal digits -/
def codePoint? (digits : Nat) (cs : List Char) : Option (Char × List Char) := do
  let values ← (cs.take digits).mapM hexValue?
  if values.length ≠ digits then none
  else
    let n := values.foldl (fun n d => n * 16 + d) 0
    if n.isValidChar then some (Char.ofNat n, cs.drop digits) else none

/-- what a backslash and the characters after it stand for -/
def escape? : List Char → Option (Char × List Char)
  | 'b' :: cs => some ('\x08', cs)
  | 'e' :: cs => some ('\x1b', cs)
  | 't' :: cs => some ('\t', cs)
  | 'n' :: cs => some ('\n', cs)
  | 'f' :: cs => some ('\x0c', cs)
  | 'r' :: cs => some ('\r', cs)
  | '"' :: cs => some ('"', cs)
  | '\\' :: cs => some ('\\', cs)
  | 'x' :: cs => codePoint? 2 cs
  | 'u' :: cs => codePoint? 4 cs
  | 'U' :: cs => codePoint? 8 cs
  | _ => none

/-- the rest of a string on one line, up to the closing quote -/
def lineString (quote : Char) (escapes : Bool) : Nat → Reader (List Char)
  | 0, _ => none
  | _ + 1, [] => none
  | n + 1, c :: cs =>
    if c = quote then some ([], cs)
    else if isControl c then none
    else if c = '\\' ∧ escapes = true then do
      let (d, cs) ← escape? cs
      let (rest, cs) ← lineString quote escapes n cs
      return (d :: rest, cs)
    else do
      let (rest, cs) ← lineString quote escapes n cs
      return (c :: rest, cs)

/-- skip spaces and line ends -/
def skipBlankLines : List Char → List Char
  | '\n' :: cs => skipBlankLines cs
  | '\r' :: '\n' :: cs => skipBlankLines cs
  | c :: cs => if isSpace c then skipBlankLines cs else c :: cs
  | [] => []

/-- skip the line end after a backslash, with all blanks around it -/
def skipFold (cs : List Char) : Option (List Char) := (lineEnd? (skipSpaces cs)).map skipBlankLines

/-- the rest of a string over several lines, up to three closing quotes; up to two quotes more
belong to the string -/
def longString (quote : Char) (escapes : Bool) : Nat → Reader (List Char)
  | 0, _ => none
  | _ + 1, [] => none
  | n + 1, c :: cs =>
    let run := (c :: cs).takeWhile (· == quote)
    if 3 ≤ run.length then
      if run.length ≤ 5 then some (run.drop 3, (c :: cs).drop run.length) else none
    else if c = '\r' then
      match cs with
      | '\n' :: cs =>
        (longString quote escapes n cs).map fun (rest, cs) => ('\r' :: '\n' :: rest, cs)
      | _ => none
    else if isControl c ∧ c ≠ '\n' then none
    else if c = '\\' ∧ escapes = true then
      match escape? cs with
      | some (d, cs) => (longString quote escapes n cs).map fun (rest, cs) => (d :: rest, cs)
      | none => (skipFold cs).bind (longString quote escapes n)
    else (longString quote escapes n cs).map fun (rest, cs) => (c :: rest, cs)

/-- a line end right after the opening quotes does not count -/
def skipFirstLineEnd : List Char → List Char
  | '\n' :: cs => cs
  | '\r' :: '\n' :: cs => cs
  | cs => cs

/-- a string of any kind; the number bounds its length -/
def string (n : Nat) : Reader String := fun cs =>
  let finish (r : Option (List Char × List Char)) := r.map fun (s, rest) => (String.ofList s, rest)
  match cs with
  | '"' :: '"' :: '"' :: cs => finish (longString '"' true n (skipFirstLineEnd cs))
  | '\'' :: '\'' :: '\'' :: cs =>
    finish (longString '\'' false n (skipFirstLineEnd cs))
  | '"' :: cs => finish (lineString '"' true n cs)
  | '\'' :: cs => finish (lineString '\'' false n cs)
  | _ => none

/-! ## keys -/

def isBareKeyChar (c : Char) : Bool := c.isAlphanum || c == '_' || c == '-'

/-- one part of a key -/
def simpleKey (n : Nat) : Reader String := fun cs =>
  match cs with
  | '"' :: '"' :: '"' :: _ => none
  | '\'' :: '\'' :: '\'' :: _ => none
  | '"' :: _ => string n cs
  | '\'' :: _ => string n cs
  | _ =>
    let bare := cs.takeWhile isBareKeyChar
    if bare.isEmpty then none else some (String.ofList bare, cs.drop bare.length)

/-- how many parts a key may have -/
def maxParts : Nat := 80

/-- at most so many parts joined by dots, with spaces around them -/
def parts (n : Nat) : Nat → Reader (List String)
  | 0, _ => none
  | more + 1, cs => do
    let (part, cs) ← simpleKey n (skipSpaces cs)
    let cs := skipSpaces cs
    match cs with
    | '.' :: cs =>
      let (others, cs) ← parts n more cs
      return (part :: others, cs)
    | _ => return ([part], cs)

/-- a key; the number bounds the length of its parts -/
def key (n : Nat) : Reader (List String) := parts n maxParts

/-! ## numbers -/

/-- digits of a base, single underscores between them -/
def digits? (base : Nat) (cs : List Char) : Option Nat :=
  let groups := Text.splitOn (· == '_') cs
  if groups.any List.isEmpty then none
  else do
    let values ← groups.flatten.mapM hexValue?
    if values.all (· < base) then some (values.foldl (fun n d => n * base + d) 0) else none

/-- a whole number in decimal digits, without leading zeros -/
def decimal? (cs : List Char) : Option Nat :=
  match cs with
  | ['0'] => some 0
  | '0' :: _ => none
  | _ => digits? 10 cs

def isSign (c : Char) : Bool := c == '+' || c == '-'

/-- whether characters are digits, single underscores between them -/
def isDigits (cs : List Char) : Bool := (digits? 10 cs).isSome

/-- whether characters are the digits of an exponent, with or without a sign -/
def isExponent : List Char → Bool
  | c :: cs => if isSign c then isDigits cs else isDigits (c :: cs)
  | [] => false

/-- whether a word without a sign is a number that is not whole: digits with a point, an exponent
or both after them, or a word for what is no number or infinite -/
def isFraction (cs : List Char) : Bool :=
  cs = ['i', 'n', 'f'] || cs = ['n', 'a', 'n'] ||
  let isPart (c : Char) : Bool := c.isDigit || c == '_'
  let afterWhole := cs.dropWhile isPart
  (decimal? (cs.takeWhile isPart)).isSome &&
  match afterWhole with
  | '.' :: cs =>
    isDigits (cs.takeWhile isPart) &&
    match cs.dropWhile isPart with
    | [] => true
    | e :: cs => (e == 'e' || e == 'E') && isExponent cs
  | e :: cs => (e == 'e' || e == 'E') && isExponent cs
  | [] => false

/-! ## moments -/

/-- a number of exactly so many digits, within bounds -/
def field? (digits low high : Nat) (cs : List Char) : Option (List Char) :=
  let ds := cs.take digits
  let n := ds.foldl (fun n d => n * 10 + (d.toNat - '0'.toNat)) 0
  if ds.length = digits ∧ ds.all Char.isDigit = true ∧ low ≤ n ∧ n ≤ high then some (cs.drop digits)
  else none

/-- the days of a month -/
def daysOf (year month : Nat) : Nat :=
  if month = 2 then
    if year % 4 = 0 ∧ (year % 100 ≠ 0 ∨ year % 400 = 0) then 29 else 28
  else if month = 4 ∨ month = 6 ∨ month = 9 ∨ month = 11 then 30
  else 31

/-- the characters after a date -/
def afterDate? (cs : List Char) : Option (List Char) := do
  let number (ds : List Char) : Nat := ds.foldl (fun n d => n * 10 + (d.toNat - '0'.toNat)) 0
  match ← field? 4 0 9999 cs with
  | '-' :: afterYear =>
    match ← field? 2 1 12 afterYear with
    | '-' :: afterMonth =>
      field? 2 1 (daysOf (number (cs.take 4)) (number (afterYear.take 2))) afterMonth
    | _ => none
  | _ => none

/-- the characters after a time of day; its seconds may be left out -/
def afterTime? (cs : List Char) : Option (List Char) := do
  match ← field? 2 0 23 cs with
  | ':' :: cs =>
    match ← field? 2 0 59 cs with
    | ':' :: cs =>
      match ← field? 2 0 60 cs with
      | '.' :: cs => if (cs.head?.map Char.isDigit).getD false then some (cs.dropWhile Char.isDigit)
                     else none
      | cs => some cs
    | cs => some cs
  | _ => none

/-- whether characters name a distance from universal time, or nothing -/
def isOffset : List Char → Bool
  | [] => true
  | ['Z'] => true
  | ['z'] => true
  | c :: cs =>
    isSign c &&
    match field? 2 0 23 cs with
    | some (':' :: cs) => field? 2 0 59 cs == some []
    | _ => false

/-- whether a word is a date, a time of day or both -/
def isMoment (cs : List Char) : Bool :=
  match afterDate? cs with
  | some [] => true
  | some (c :: cs) =>
    (c == 'T' || c == 't' || c == ' ') &&
    match afterTime? cs with
    | some rest => isOffset rest
    | none => false
  | none => afterTime? cs == some []

/-! ## words -/

/-- a word that is no string and no whole number -/
def otherWord? (cs : List Char) : Option Toml :=
  let unsigned := match cs with
    | c :: rest => if isSign c then rest else cs
    | [] => []
  if isFraction unsigned then some (.fraction (String.ofList cs))
  else if isMoment cs then some (.moment (String.ofList cs))
  else none

/-- a word that is no string and no fraction: a boolean or a whole number -/
def plainWord? (cs : List Char) : Option Toml :=
  match cs with
  | ['t', 'r', 'u', 'e'] => some (.truth true)
  | ['f', 'a', 'l', 's', 'e'] => some (.truth false)
  | ['0', 'x'] => some (.digitless 16)
  | ['0', 'o'] => some (.digitless 8)
  | ['0', 'b'] => some (.digitless 2)
  | '0' :: 'x' :: cs => (digits? 16 cs).map fun n => .whole n
  | '0' :: 'o' :: cs => (digits? 8 cs).map fun n => .whole n
  | '0' :: 'b' :: cs => (digits? 2 cs).map fun n => .whole n
  | '+' :: cs => (decimal? cs).map fun n => .whole n
  | '-' :: cs => (decimal? cs).map fun n => .whole (-(n : Int))
  | cs => (decimal? cs).map fun n => .whole n

/-- a word that is no string -/
def word? (cs : List Char) : Option Toml := plainWord? cs <|> otherWord? cs

def isWordChar (c : Char) : Bool :=
  c.isAlphanum || c == '_' || c == '-' || c == '+' || c == '.' || c == ':'

/-- the word ahead; between a date and a time of day there may be one space -/
def takeWord (cs : List Char) : List Char :=
  let word := cs.takeWhile isWordChar
  if afterDate? word = some [] then
    match cs.drop word.length with
    | ' ' :: c :: rest =>
      if c.isDigit then word ++ ' ' :: (c :: rest).takeWhile isWordChar else word
    | _ => word
  else word

/-! ## tables -/

/-- the value of a key among the entries of a table -/
def binding? (entries : List (String × Toml)) (k : String) : Option Toml :=
  (entries.find? (fun e => e.1 = k)).map (·.2)

def replaceEntry (entries : List (String × Toml)) (k : String) (v : Toml) : List (String × Toml) :=
  entries.map fun e => if e.1 = k then (k, v) else e

/-- bind a dotted key; no key is bound twice, and only tables made by dotted keys are entered -/
def assign (entries : List (String × Toml)) (v : Toml) : List String →
    Option (List (String × Toml))
  | [] => none
  | [k] => if (binding? entries k).isSome then none else some (entries ++ [(k, v)])
  | k :: ks =>
    match binding? entries k with
    | none => (assign [] v ks).map fun inner => entries ++ [(k, .table .dotted inner)]
    | some (.table .dotted inner) =>
      (assign inner v ks).map fun inner => replaceEntry entries k (.table .dotted inner)
    | some _ => none

/-- change the table that a header names, making it and those above it as needed -/
def underHeader (change : List (String × Toml) → Option (List (String × Toml)))
    (entries : List (String × Toml)) : List String → Option (List (String × Toml))
  | [] => change entries
  | k :: ks =>
    match binding? entries k with
    | none =>
      (underHeader change [] ks).map fun inner => entries ++ [(k, .table .implied inner)]
    | some (.table kind inner) =>
      if kind = .inline then none
      else (underHeader change inner ks).map fun inner => replaceEntry entries k (.table kind inner)
    | some _ => none

/-- open the table of a header; no table has two headers -/
def openTable (entries : List (String × Toml)) (path : List String) :
    Option (List (String × Toml)) :=
  underHeader (fun inner =>
    match path.getLast? with
    | none => none
    | some k =>
      match binding? inner k with
      | none => some (inner ++ [(k, .table .header [])])
      | some (.table .implied content) => some (replaceEntry inner k (.table .header content))
      | some _ => none) entries path.dropLast

/-- open a new table at the end of the array that a header in double brackets names -/
def openItem (entries : List (String × Toml)) (path : List String) :
    Option (List (String × Toml)) :=
  underHeader (fun inner =>
    match path.getLast? with
    | none => none
    | some k =>
      match binding? inner k with
      | none => some (inner ++ [(k, .array [.table .header []])])
      | some (.array items) => some (replaceEntry inner k (.array (items ++ [.table .header []])))
      | some _ => none) entries path.dropLast

/-! ## values -/

mutual

/-- a value; the first number bounds how much is read, the second how deep values may still lie
in one another -/
def value : Nat → Nat → Reader Toml
  | 0, _, _ => none
  | n + 1, depth, cs =>
    match cs with
    | '[' :: cs =>
      if depth = 0 then none else (items n (depth - 1) cs).map fun (xs, cs) => (.array xs, cs)
    | '\x7b' :: cs =>
      if depth = 0 then none
      else (bindings n (depth - 1) [] cs).map fun (es, cs) => (.table .inline es, cs)
    | '"' :: _ => (string (n + 1) cs).map fun (s, cs) => (.text s, cs)
    | '\'' :: _ => (string (n + 1) cs).map fun (s, cs) => (.text s, cs)
    | _ =>
      let word := takeWord cs
      (word? word).map fun v => (v, cs.drop word.length)

/-- the items of an array up to its closing bracket -/
def items : Nat → Nat → Reader (List Toml)
  | 0, _, _ => none
  | n + 1, depth, cs =>
    match skipLines cs with
    | ']' :: cs => some ([], cs)
    | cs => do
      let (x, cs) ← value n depth cs
      match skipLines cs with
      | ']' :: cs => return ([x], cs)
      | ',' :: cs =>
        let (xs, cs) ← items n depth cs
        return (x :: xs, cs)
      | _ => none

/-- the bindings of a table in braces, up to the closing one -/
def bindings (n depth : Nat) (entries : List (String × Toml)) (cs : List Char) :
    Option (List (String × Toml) × List Char) :=
  match n with
  | 0 => none
  | n + 1 =>
    match skipLines cs with
    | '\x7d' :: cs => some (entries, cs)
    | cs => do
      let (path, cs) ← key (n + 1) cs
      match skipLines cs with
      | '=' :: cs =>
        let (v, cs) ← value n depth (skipLines cs)
        let entries ← assign entries v path
        match skipLines cs with
        | '\x7d' :: cs => return (entries, cs)
        | ',' :: cs => bindings n depth entries cs
        | _ => none
      | _ => none

end

/-- how deep values may lie in one another -/
def maxDepth : Nat := 80

/-! ## documents -/

/-- what has been read of a document -/
structure Reading where
  entries : List (String × Toml)
  /-- the header that is in force, and whether it names an item of an array -/
  header : List String
  inArray : Bool

/-- bind a key under the header in force -/
def Reading.bind (r : Reading) (path : List String) (v : Toml) : Option Reading := do
  if r.header.isEmpty then
    return { r with entries := ← assign r.entries v path }
  else if r.inArray then
    -- an item of an array of tables; such arrays hold no settings, so the keys are only checked
    let _ ← assign [] v path
    return r
  else
    return { r with entries := ← underHeader (assign · v path) r.entries r.header }

/-- one line of a document, up to its end; the number bounds what is read -/
def line (size : Nat) (r : Reading) (cs : List Char) : Option (Reading × List Char) :=
  match skipSpaces cs with
  | '[' :: '[' :: cs => do
    let (path, cs) ← key size cs
    match cs with
    | ']' :: ']' :: cs => return (⟨← openItem r.entries path, path, true⟩, cs)
    | _ => none
  | '[' :: cs => do
    let (path, cs) ← key size cs
    match cs with
    | ']' :: cs => return (⟨← openTable r.entries path, path, false⟩, cs)
    | _ => none
  | cs =>
    if cs.isEmpty || cs.head? == some '#' || (lineEnd? cs).isSome then some (r, cs)
    else do
      let (path, cs) ← key size cs
      match cs with
      | '=' :: cs =>
        let (v, cs) ← value size maxDepth (skipSpaces cs)
        return (← r.bind path v, cs)
      | _ => none

/-- all lines of a document; the number bounds the lines -/
def document (n : Nat) (r : Reading) (cs : List Char) : Option (List (String × Toml)) :=
  match n with
  | 0 => none
  | n + 1 =>
    if cs.isEmpty then some r.entries
    else do
      let (r, cs) ← line (n + 1) r cs
      document n r (← lineEnd? (skipComment (skipSpaces cs)))

/-- the bindings of a document; a byte order mark in front is skipped -/
def parse (text : String) : Option (List (String × Toml)) :=
  let cs := match text.toList with
    | '\uFEFF' :: cs => cs
    | cs => cs
  document (cs.length + 1) ⟨[], [], false⟩ cs

end Toml

end PatternBuild
