import PatternBuild.Shell.Escape
import PatternBuild.Shell.Rendering
import PatternBuild.Shell.Script
import PatternBuild.Shell.Switches
import PatternBuild.Shell.Wildcard

/-!
# Expansion

Braces make several words of one, and words become fields.
-/

/-!
## Braces: words that stand for several

`Braces.expand` makes several words of one with alternatives or a range between braces.  Quoted text
and expansions are taken as they are.
-/

namespace PatternBuild.Shell.Braces

/-- a unit of a word: a character outside quotes, or a whole piece -/
inductive Atom where
  | char (c : Char)
  | piece (p : Piece)

def unitsOf (w : Word) : List Atom :=
  w.flatMap fun
    | .plain text => text.toList.map .char
    | p => [.piece p]

/-- units as a word -/
def wordOf : List Atom → Word
  | [] => []
  | .piece p :: us => p :: wordOf us
  | .char c :: us =>
    match wordOf us with
    | .plain text :: w => .plain (c.toString ++ text) :: w
    | w => .plain c.toString :: w

def isChar (c : Char) : Atom → Bool
  | .char d => c == d
  | .piece _ => false

/-- what stands before the end of a part, and what after it: the end is `stop` outside inner braces,
and a closing brace only ends what holds a comma or two dots -/
def upTo (stop : Char) (depth : Nat) (hasParts : Bool) :
    List Atom → Option (List Atom × List Atom)
  | [] => none
  | u :: us =>
    let goOn (depth : Nat) (hasParts : Bool) : Option (List Atom × List Atom) :=
      (upTo stop depth hasParts us).map fun (inside, after) => (u :: inside, after)
    if isChar stop u && depth = 0 && hasParts then some ([], us)
    else if isChar '{' u then goOn (depth + 1) hasParts
    else if isChar '}' u then goOn (depth - 1) hasParts
    else if depth ≠ 0 then goOn depth hasParts
    else
      let isDots := isChar '.' u && us.head?.any (isChar '.') && !((us.drop 1).head?.any (isChar '}'))
      goOn depth (hasParts || isChar ',' u || isDots)

/-- the parts between commas outside inner braces -/
def parts : Nat → List Atom → List (List Atom)
  | 0, us => [us]
  | n + 1, us =>
    match upTo ',' 0 true us with
    | some (part, rest) => part :: parts n rest
    | none => [us]

/-- the first pair of braces that hold parts: what stands before, between and after them -/
def firstPair? : List Atom → Option (List Atom × List Atom × List Atom)
  | [] => none
  | u :: us =>
    let later := (firstPair? us).map fun (before, inside, after) => (u :: before, inside, after)
    if isChar '{' u then
      match upTo '}' 0 false us with
      | some (inside, after) => some ([], inside, after)
      | none => later
    else later

/-! ### ranges -/

/-- numbers from one to another in steps -/
def rangeOf (first last step : Int) : List Int :=
  let step : Nat := max 1 step.natAbs
  let count := (last - first).natAbs / step + 1
  (List.range count).map fun (i : Nat) =>
    if first ≤ last then first + (i * step : Nat) else first - (i * step : Nat)

/-- an integer with its sign, and whether zeros lead it -/
def integer? (cs : List Char) : Option (Int × Bool) :=
  let (isNegative, digits) := match cs with
    | '-' :: ds => (true, ds)
    | '+' :: ds => (false, ds)
    | ds => (false, ds)
  (numeral? 10 digits).map fun n =>
    (if isNegative then -(n : Int) else n, digits.length ≠ 1 && digits.head? == some '0')

/-- a number as wide as asked for, with zeros in front -/
def padded (width : Nat) (n : Int) : String :=
  let digits := (toString n.natAbs).toList
  let sign := if n < 0 then ['-'] else []
  String.ofList (sign ++ List.replicate (width - sign.length - digits.length) '0' ++ digits)

/-- the members of a range -/
def range? (inside : List Atom) : Option (List (List Atom)) := do
  let cs ← inside.mapM fun
    | .char c => some c
    | .piece _ => none
  let texts := (String.ofList cs).splitOn ".."
  let (first, last, step) ← match texts with
    | [a, b] => some (a.toList, b.toList, 1)
    | [a, b, c] => (integer? c.toList).map fun (n, _) => (a.toList, b.toList, n)
    | _ => none
  let member (text : String) : List Atom := text.toList.map .char
  match integer? first, integer? last with
  | some (a, zerosA), some (b, zerosB) =>
    let width := if zerosA || zerosB then max first.length last.length else 0
    some ((rangeOf a b step).map fun n => member (padded width n))
  | _, _ =>
    match first, last with
    | [a], [b] =>
      if a.isAlpha && b.isAlpha then
        some ((rangeOf a.toNat b.toNat step).map fun n => [.char (Char.ofNat n.toNat)])
      else none
    | _, _ => none

/-! ### expansion -/

/-- every beginning with every end -/
def products (as bs : List (List Atom)) : List (List Atom) :=
  as.flatMap fun a => bs.map (a ++ ·)

def expandUpTo : Nat → List Atom → List (List Atom)
  | 0, us => [us]
  | n + 1, us =>
    match firstPair? us with
    | none => [us]
    | some (before, inside, after) =>
      let literally := .char '{' :: inside ++ [.char '}']
      let middle :=
        if inside.any (isChar ',') then (parts inside.length inside).flatMap (expandUpTo n)
        else (range? inside).getD [literally]
      products (products [before] middle) (expandUpTo n after)

/-- the words that a word stands for -/
def expand (w : Word) : List Word :=
  let us := unitsOf w
  (expandUpTo (us.length + 1) us).map wordOf

end PatternBuild.Shell.Braces

/-!
## Expansion: from words to fields

A word is expanded to marks: characters that know whether they are quoted and whether they may be
split, boundaries between fields, and holds, which keep a field that may be empty.  `fields` splits
the marks, `fieldsOf` also puts names of files in place of patterns, and `wholeText` joins all to
one text.  Commands inside words are run by the function that is given.
-/

namespace PatternBuild.Shell

open Text

/-- a unit of an expanded word -/
inductive Mark where
  | char (c : Char) (isQuoted splits : Bool)
  /-- keeps the field it stands in -/
  | hold
  /-- the boundary of two fields -/
  | boundary
  deriving DecidableEq, Repr

namespace Expansion

open Activity

/-! ### marks -/

/-- where a piece stands -/
inductive Place where
  /-- in a word that is split -/
  | bare
  /-- in a word that takes the place of a parameter and is split -/
  | inParam
  | inDouble
  /-- in a word that is not split -/
  | whole
  deriving DecidableEq, Repr

/-- where the word after a parameter stands -/
def Place.ofWord : Place → Place
  | .bare => .inParam
  | place => place

/-- the marks of a value -/
def valueMarks (place : Place) (text : String) : List Mark :=
  let inDouble := place == .inDouble
  text.toList.map fun c => .char c inDouble (!inDouble)

/-- the marks of text without expansions -/
def textMarks (isQuoted : Bool) (text : String) : List Mark :=
  text.toList.map fun c => .char c isQuoted false

/-- every text in a field of its own -/
def fieldMarks (place : Place) (texts : List String) : List Mark :=
  List.intercalate [.boundary]
    (texts.map fun a => (if place = .inDouble then [.hold] else []) ++ valueMarks place a)

/-- the text of marks; fields are joined by a blank -/
def joined (ms : List Mark) : String :=
  String.ofList (ms.flatMap fun
    | .char c _ _ => [c]
    | .hold => []
    | .boundary => [' '])

/-- the characters of marks, and whether they are quoted -/
def glyphs (ms : List Mark) : List Glyph :=
  ms.flatMap fun
    | .char c q _ => [(c, q)]
    | .hold => []
    | .boundary => [(' ', true)]

/-! ### splitting -/

/-- the field being built, and whether it is there even if empty -/
structure Splitting where
  /-- the fields so far, the latest first -/
  done : List (List Glyph)
  current : List Glyph
  isHeld : Bool
  /-- whether a blank has just ended a field -/
  afterBlank : Bool

def Splitting.close (s : Splitting) : Splitting :=
  if s.isHeld then ⟨s.current.reverse :: s.done, [], false, s.afterBlank⟩ else s

/-- split by the characters of `ifs`, of which blanks count as one -/
def Splitting.step (ifs : List Char) (s : Splitting) : Mark → Splitting
  | .hold => { s with isHeld := true, afterBlank := false }
  | .boundary => { s.close with afterBlank := false }
  | .char c q splits =>
    if splits && ifs.contains c then
      if c == ' ' || c == '\t' || c == '\n' then
        if s.isHeld then { s.close with afterBlank := true } else s
      else if s.isHeld then { s.close with afterBlank := false }
      else if s.afterBlank then { s with afterBlank := false }
      else { s with done := [] :: s.done }
    else { s with current := (c, q) :: s.current, isHeld := true, afterBlank := false }

/-- the fields of an expanded word -/
def fields (ifs : List Char) (ms : List Mark) : List (List Glyph) :=
  (ms.foldl (Splitting.step ifs) ⟨[], [], false, false⟩).close.done.reverse

/-! ### parameters -/

/-- the separators of fields -/
def separators : Activity String := do
  return ((← own).boundTo? "IFS" |>.bind (·.value) |>.bind (·.text?)).getD " \t\n"

/-- what a parameter holds -/
inductive Found where
  | nothing
  | one (text : String)
  /-- several texts, which between double quotes make one if they are joined -/
  | several (texts : List String) (areJoined : Bool)
  deriving DecidableEq, Repr

namespace Found

def ofText? : Option String → Found
  | some text => .one text
  | none => .nothing

def texts : Found → List String
  | .nothing => []
  | .one text => [text]
  | .several texts _ => texts

/-- whether there is no value, or one without characters -/
def isEmpty : Found → Bool
  | .nothing => true
  | .one text => text.isEmpty
  | .several texts _ => texts = [] || texts = [""]

def isNothing : Found → Bool
  | .nothing => true
  | .one _ => false
  | .several texts _ => texts.isEmpty

def map (f : String → String) : Found → Found
  | .nothing => .nothing
  | .one text => .one (f text)
  | .several texts areJoined => .several (texts.map f) areJoined

end Found

/-- the marks of what a parameter holds -/
def foundMarks (place : Place) (found : Found) : Activity (List Mark) := do
  match found with
  | .nothing => return []
  | .one text => return valueMarks place text
  | .several texts areJoined =>
    let ifs ← separators
    let together := valueMarks place ((String.ofList (ifs.toList.take 1)).intercalate texts)
    match place with
    | .inDouble => return if areJoined then together else fieldMarks place texts
    | .whole =>
      return if areJoined || !(← own).isExtended then together
        else valueMarks place (" ".intercalate texts)
    | _ => return fieldMarks place texts

/-- whether a subscript means every item, and then whether the items are joined -/
def everyItem? : Option Word → Option Bool
  | some [.plain "@"] => some false
  | some [.plain "*"] => some true
  | _ => none

/-- whether a parameter stands for a field for each of several texts -/
def isList (name : String) (index : Option Word) : Bool :=
  name == "@" || everyItem? index == some false

/-- what a parameter holds, by its name; the key of an item is given -/
def foundFor (name : String) (every : Option Bool) (key : Option String) : Activity Found := do
  let s ← get
  let p := s.own
  match name with
  | "@" => return .several p.args false
  | "*" => return .several p.args true
  | "?" => return .one (toString p.status)
  | "#" => return .one (toString p.args.length)
  | "$" => return .one (toString p.shown)
  | "-" => return .one p.optionLetters
  | "!" => return .ofText? (p.lastBackground.map toString)
  | "0" => return .one p.name
  | "_" => if p.isExtended then return .one p.lastArg
  | _ => pure ()
  if name.toList.all Char.isDigit then
    return .ofText? (name.toNat?.bind fun n => p.args[n - 1]?)
  let v ← valueOf? name
  match every, key with
  | some areJoined, _ =>
    return match v with
      | some v => .several (v.items.map (·.2)) areJoined
      | none => .several [] areJoined
  | none, some key => return .ofText? (v.bind (·.get? key))
  | none, none => return .ofText? (v.bind (·.text?))

/-- refuse a parameter without a value, if that is a fault -/
def missing (name : String) : Activity Unit := do
  if (← own).options.unsetIsFault && name != "@" && name != "*" then
    giveUpUnset name

/-! ### tildes -/

/-- the home directory of a user -/
def homeOf? : String → Option String
  | "root" => some "/root"
  | "daemon" => some "/usr/sbin"
  | "bin" => some "/bin"
  | "nobody" => some "/nonexistent"
  | _ => none

/-- the directory that a tilde and a name stand for -/
def tildeValue? (name : String) : Activity (Option String) := do
  let isExtended := (← own).isExtended
  match name with
  | "" =>
    let home ← textOf? "HOME"
    return if isExtended && home.isNone then some "/root" else home
  | "+" => if isExtended then textOf? "PWD" else return none
  | "-" => if isExtended then textOf? "OLDPWD" else return none
  | _ => return homeOf? name

/-- the marks of a text that a tilde may start; `isLast` tells that nothing follows it -/
def tildeMarks (isLast : Bool) (text : List Char) : Activity (List Mark) := do
  let literal := textMarks false (String.ofList text)
  match text with
  | '~' :: after =>
    let name := after.takeWhile (· ≠ '/')
    let rest := after.drop name.length
    if rest.isEmpty && !isLast then return literal
    match ← tildeValue? (String.ofList name) with
    | some home => return .hold :: textMarks true home ++ textMarks false (String.ofList rest)
    | none => return literal
  | _ => return literal

/-- the marks of texts between colons, each of which a tilde may start -/
def tildesMarks (isLast : Bool) : List (List Char) → Activity (List Mark)
  | [] => pure []
  | [part] => tildeMarks isLast part
  | part :: more => do
    let ms ← tildeMarks true part
    return ms ++ .char ':' false false :: (← tildesMarks isLast more)

/-- the marks of the text at the start of a word that is assigned -/
def assignedMarks (isLast : Bool) (text : String) : Activity (List Mark) :=
  tildesMarks isLast (Text.splitOn (· == ':') text.toList)

/-- the marks of the text at the start of a word -/
def startMarks (isLast : Bool) (text : String) : Activity (List Mark) := do
  let cs := text.toList
  let name := cs.takeWhile isNameChar
  match cs.drop name.length with
  | '=' :: value =>
    if (← own).isExtended && isName name then
      return textMarks false (String.ofList (name ++ ['='])) ++
        (← assignedMarks isLast (String.ofList value))
    else tildeMarks isLast cs
  | _ => tildeMarks isLast cs

/-! ### uses of parameters -/

/-- the whole numbers that a slice starts with and takes -/
def sliceBounds (texts : List String) : Activity (Int × Option Int) := do
  match texts with
  | [] => return (0, none)
  | [offset] => return (← compute offset, none)
  | offset :: length :: _ => return (← compute offset, some (← compute length))

/-- a part of a list of a given size: from an offset on, both counted from the end if negative;
none if it would have less than no members -/
def sliceOf? {α : Type} (items : List α) (offset : Int) (length : Option Int) : Option (List α) :=
  let size : Int := items.length
  let start := if offset < 0 then size + offset else offset
  if start < 0 || size < start then some []
  else
    match length with
    | none => some (items.drop start.toNat)
    | some n =>
      if 0 ≤ n then some ((items.drop start.toNat).take n.toNat)
      else
        let stop := size + n
        if stop < start then none else some ((items.take stop.toNat).drop start.toNat)

/-- a text with others in place of what a pattern matches -/
def replaceIn (scope : ReplaceScope) (pattern : List Wildcard) (by_ : List Char → List Char)
    (text : List Char) : List Char :=
  match scope with
  | .atStart =>
    match Wildcard.longestFit? pattern text with
    | some n => by_ (text.take n) ++ text.drop n
    | none => text
  | .atEnd =>
    match (Wildcard.fitLengthsAtEnd pattern text).head? with
    | some n =>
      let start := text.length - n
      text.take start ++ by_ (text.drop start)
    | none => text
  | .first => walk false (text.length + 1) text
  | .all => walk true (text.length + 1) text
where
  /-- replace from the front on, once or every time -/
  walk (isAll : Bool) : Nat → List Char → List Char
    | 0, cs => cs
    | n + 1, cs =>
      match cs with
      | [] => []
      | c :: rest =>
        match Wildcard.longestFit? pattern cs with
        | some (k + 1) =>
          by_ (cs.take (k + 1)) ++ (if isAll then walk isAll n (cs.drop (k + 1)) else cs.drop (k + 1))
        | _ => c :: walk isAll n rest

/-- what takes the place of a match: an ampersand outside quotes stands for it -/
def replacement (gs : List Glyph) (found : List Char) : List Char :=
  gs.flatMap fun (c, isQuoted) => if c == '&' && !isQuoted then found else [c]

/-- the glyphs of a replacement: outside quotes, a backslash quotes an ampersand or a backslash -/
def ampersandGlyphs : List Glyph → List Glyph
  | ('\\', false) :: ('&', false) :: gs => ('&', true) :: ampersandGlyphs gs
  | ('\\', false) :: ('\\', false) :: gs => ('\\', true) :: ampersandGlyphs gs
  | g :: gs => g :: ampersandGlyphs gs
  | [] => []

/-- a text in other letters, where a pattern matches -/
def recaseIn (how : LetterChange) (isAll : Bool) (pattern : List Wildcard) (text : String) : String :=
  let change (c : Char) : Char := if Wildcard.fits pattern [c] then how.apply true c else c
  match isAll, text.toList with
  | true, cs => String.ofList (cs.map change)
  | false, c :: cs => String.ofList (change c :: cs)
  | false, [] => ""

/-- the letters that tell of the marks of a variable -/
def attributeLetters (v : Variable) : String :=
  let letters : List (Bool × Char) := [
    (v.value.any fun x => x.isArray && !x.isKeyed, 'a'), (v.value.any Value.isKeyed, 'A'),
    (v.isWhole, 'i'), (v.isReference, 'n'), (v.isReadOnly, 'r'), (v.isExported, 'x'),
    (v.letters == some .capital, 'c'), (v.letters == some .lower, 'l'), (v.letters == some .upper, 'u')]
  String.ofList ((letters.filter (·.1)).map (·.2))

/-- the items of an array as they are written -/
def itemsText (v : Value) : String :=
  let items := v.items.map fun (k, text) =>
    let key := if v.isKeyed && asNeeded k ≠ k then inWideDoubleQuotes k else k
    s!"[{key}]={inWideDoubleQuotes text}"
  "(" ++ " ".intercalate items ++ (if v.isKeyed && !items.isEmpty then " )" else ")")

/-- the start of a command that declares a variable -/
def declarationHead (name : String) (v : Variable) : String :=
  let letters := attributeLetters v
  let shown := if letters.isEmpty then "-" else letters
  s!"declare -{shown} {name}"

/-- a variable as a command that declares it -/
def declaration (quote : String → String) (name : String) (v : Variable) : String :=
  let head := declarationHead name v
  match v.value with
  | none => head
  | some (.text text) => head ++ "=" ++ quote text
  | some value => if v.isBare then head else head ++ "=" ++ itemsText value

/-- what parameters hold, in another form -/
def transformed (letter : Char) (name : String) (found : Found) : Activity Found := do
  let v := ((← own).boundTo? name).getD .none
  match letter with
  | 'U' => return found.map (inLetters .upper)
  | 'L' => return found.map (inLetters .lower)
  | 'u' => return found.map (recaseIn .upper false (Wildcard.ofText "?"))
  | 'Q' => return found.map inWideQuotes
  | 'E' => return found.map fun text =>
      String.ofList (unescape .dollarQuote text.toList).1
  | 'P' => return found
  | 'a' => return if found.isNothing then .nothing else .one (attributeLetters v)
  | 'A' =>
    match found with
    | .several _ _ => return .one (declaration inSingleQuotes name v)
    | .one text =>
      return .one ((if (attributeLetters v).isEmpty then name else declarationHead name v) ++ "=" ++
        inWideQuotes text)
    | .nothing => return .nothing
  | 'K' =>
    match found, v.value with
    | .several _ areJoined, some value =>
      let shown := " ".intercalate (value.items.map fun (k, text) =>
        s!"{asNeeded k} {inWideDoubleQuotes text}")
      return .several [if value.isKeyed then shown ++ " " else shown] areJoined
    | _, _ => return found.map inWideQuotes
  | 'k' =>
    match found, v.value with
    | .several _ areJoined, some value =>
      return .several (value.items.flatMap fun (k, text) => [k, text]) areJoined
    | _, _ => return found.map inWideQuotes
  | _ => giveUp s!"$\x7b{name}@{letter}\x7d: bad substitution"

/-! ### words -/

/-- expands the pieces of words -/
abbrev Expander := Place → Word → Activity (List Mark)

/-- the parameter that the value of another one names: its name and its subscript -/
def namedBy (text : String) : String × Option Word :=
  let cs := text.toList
  let name := cs.takeWhile (· ≠ '[')
  match cs.drop name.length with
  | _ :: inside =>
    if inside.getLast? = some ']' then (String.ofList name, some [.plain (String.ofList inside.dropLast)])
    else (text, none)
  | [] => (text, none)

/-- what a parameter holds, by its name and subscript -/
def paramFound (expand : Expander) (name : String) (index : Option Word) : Activity Found := do
  match everyItem? index, index with
  | some areJoined, _ => foundFor name (some areJoined) none
  | none, some word =>
    let subscript := joined (← expand .whole word)
    let key ← keyOf name subscript
    foundFor name none (some key)
  | none, none => foundFor name none none

/-- the marks of a word after a parameter; outside double quotes a tilde may start it -/
def givenMarks (expand : Expander) (place : Place) (word : Word) : Activity (List Mark) := do
  match word with
  | .plain text :: more =>
    if place == .inDouble || !text.startsWith "~" then expand place word
    else
      let head := text.toList.takeWhile (· ≠ '/')
      let rest := text.toList.drop head.length
      let ms ← tildeMarks (more.isEmpty || !rest.isEmpty) head
      return ms ++ (← expand place (.plain (String.ofList rest) :: more))
  | word => expand place word

/-- the pattern that a word writes -/
def patternIn (expand : Expander) (word : Word) : Activity (List Wildcard) := do
  return Wildcard.read true (glyphs (← givenMarks expand .whole word))

/-- the glyphs of what takes the place of a match -/
def replacementGlyphs (expand : Expander) (word : Word) : Activity (List Glyph) := do
  let gs := glyphs (← givenMarks expand .whole word)
  if !(← own).settings.contains "patsub_replacement" then return gs.map fun g => (g.1, true)
  return ampersandGlyphs gs

/-- the part of what a parameter holds that a slice takes -/
def sliced (name : String) (found : Found) (bounds : Int × Option Int) : Activity Found := do
  let (offset, length) := bounds
  let p ← own
  let orRefuse {α : Type} (part : Option (List α)) : Activity (List α) :=
    match part with
    | some items => pure items
    | none => giveUp s!"{length.getD 0}: substring expression < 0"
  match found with
  | .nothing => return .nothing
  | .one text => return .one (String.ofList (← orRefuse (sliceOf? text.toList offset length)))
  | .several texts areJoined =>
    if name == "@" || name == "*" then
      let all := p.name :: texts
      let from_ : Int := if offset < 0 && texts.length < offset.natAbs then all.length else offset
      return .several (← orRefuse (sliceOf? all from_ length)) areJoined
    else
      match (p.boundTo? name).bind (·.value) with
      | some (.indexed items) =>
        let last : Nat := (items.getLast?.map fun item => item.1 + 1).getD 0
        let start : Int := if offset < 0 then last + offset else offset
        let kept := if start < 0 then [] else items.filter fun (n, _) => start ≤ n
        return .several ((← orRefuse (sliceOf? kept 0 length)).map (·.2)) areJoined
      | _ => return .several (← orRefuse (sliceOf? texts offset length)) areJoined

/-- assign the value of a parameter that had none -/
def assignParam (expand : Expander) (name : String) (index : Option Word) (text : String) :
    Activity Unit := do
  if !(isName name.toList) then
    giveUp (if (← own).isExtended then s!"${name}: cannot assign in this way"
      else s!"{name}: bad variable name")
  match index with
  | none => assign name text
  | some word =>
    let key ← keyOf name (joined (← expand .whole word))
    assignItem name key false text

/-- the names of variables that start with a text -/
def namesFrom (start : String) : Activity (List String) := do
  return ((← own).bindings.entries.filter fun (name, v) =>
    (v.value.isSome || (v.isLive && name ≠ "FUNCNAME")) && name.startsWith start).map (·.1)

/-- the marks of a parameter and what is done with its value -/
def paramMarks (expand : Expander) (place : Place) (name : String) (index : Option Word)
    (isIndirect : Bool) (use : ParamUse) (words : List Word) : Activity (List Mark) := do
  let p ← own
  -- an indirect parameter gives the name of the one that is meant
  let refersTo : Option Variable := p.bindings.get? name
  if isIndirect && use == .value && refersTo.any (·.isReference) then
    return valueMarks place (p.meant name Process.maxReferences)
  let (name, index) ← if isIndirect then do
      match ← paramFound expand name index with
      | .one text => pure (namedBy text)
      | _ => giveUp s!"{name}: invalid indirect expansion"
    else pure (name, index)
  let shown := match index with
    | some [.plain i] => s!"{name}[{i}]"
    | _ => name
  let found ← paramFound expand name index
  let word := words.headD []
  let given : Activity (List Mark) := do
    let ms ← givenMarks expand place.ofWord word
    return if place == .inDouble then .hold :: ms else ms
  let isMissing (orEmpty : Bool) : Bool := found.isNothing || (orEmpty && found.isEmpty)
  -- a parameter without a value has no other form either
  let changed (f : Found → Activity Found) : Activity (List Mark) := do
    if found == .nothing then
      missing shown
      return []
    foundMarks place (← f found)
  match use with
  | .value =>
    if found == .nothing then missing shown
    foundMarks place found
  | .length =>
    match found with
    | .nothing =>
      missing shown
      return valueMarks place "0"
    | .one text => return valueMarks place (toString text.length)
    | .several texts _ =>
      if p.isExtended then return valueMarks place (toString texts.length)
      let between := ((← separators).toList.take 1).length
      return valueMarks place
        (toString ((texts.map String.length).foldl (· + ·) (between * (texts.length - 1))))
  | .default orEmpty => if isMissing orEmpty then given else foundMarks place found
  | .alternative orEmpty =>
    if isMissing orEmpty then return if place == .inDouble then [.hold] else []
    else given
  | .assign orEmpty =>
    if isMissing orEmpty then
      let text := joined (← givenMarks expand (if place == .inDouble then .inDouble else .whole) word)
      assignParam expand name index text
      foundMarks place (← paramFound expand name index)
    else foundMarks place found
  | .demand orEmpty =>
    if isMissing orEmpty then
      let text := joined (← givenMarks expand (if place == .inDouble then .inDouble else .whole) word)
      let usual := match orEmpty, p.isExtended with
        | true, true => "parameter null or not set"
        | true, false => "parameter not set or null"
        | false, _ => "parameter not set"
      complain (shown ++ ": " ++ if words.isEmpty then usual else text)
      stop (.exit (unsetCode p))
    else foundMarks place found
  | .cut atEnd longest =>
    changed fun found => do
      let pattern ← patternIn expand word
      return found.map fun text => String.ofList (Wildcard.cut pattern atEnd longest text.toList)
  | .slice =>
    changed fun found => do
      let texts ← words.mapM fun w => do return joined (← expand .inDouble w)
      sliced name found (← onBehalf name (sliceBounds texts))
  | .replace scope =>
    changed fun found => do
      let pattern ← patternIn expand word
      let gs ← replacementGlyphs expand (words[1]?.getD [])
      return found.map fun text =>
        String.ofList (replaceIn scope pattern (replacement gs) text.toList)
  | .recase how isAll =>
    changed fun found => do
      let pattern ← if word.isEmpty then pure (Wildcard.ofText "?") else patternIn expand word
      return found.map (recaseIn how isAll pattern)
  | .transform letter => changed (transformed letter name)
  | .names => foundMarks place (.several (← namesFrom name) (everyItem? index == some true))
  | .keys =>
    let keys := ((← valueOf? name).map fun v => v.items.map (·.1)).getD []
    foundMarks place (.several keys (everyItem? index == some true))
  | .unknown =>
    let rest := match word with
      | [.plain text] => text
      | _ => ""
    giveUp (if p.isExtended then s!"$\x7b{shown}{rest}\x7d: bad substitution" else "Bad substitution")

/-- octets without line feeds at their end -/
def withoutLastNewlines (cs : List Char) : List Char :=
  (cs.reverse.dropWhile (· == '\n')).reverse

/-- what a command prints, as its value -/
def outputOf (run : Command → Activity Nat) (command : Command) : Activity String := do
  let (code, cs) ← collect do
    let child ← forked true
    asProcess { child with depth := child.depth - 1 } (run (.subshell command))
  modifyOwn fun p => { p with outputStatus := some code }
  return String.ofList (withoutLastNewlines (cs.filter (· ≠ '\x00')))

/-- the number of the first descriptor that leads to a process -/
def processDescriptor : Nat := 63

/-- a pipe from or to a command that runs beside the shell, as the path of a descriptor -/
def processPath (isRead : Bool) (command : Command) : Activity String := do
  let (m, pipe) := (← machine).addPipe false
  let (m, reader) := m.addStream (.reader pipe)
  let (m, writer) := m.addStream (.writer pipe)
  modifyMachine fun _ => m
  let p ← own
  let fd := ((List.range (processDescriptor + 1)).reverse.find? fun n =>
    !p.descriptors.contains n).getD (processDescriptor + 1)
  let child ← forked false
  let (theirs, theirStream, mine) := if isRead then (1, writer, reader) else (0, reader, writer)
  launch { child with descriptors := child.descriptors.insert theirs theirStream } command false
  modifyMachine fun m => if isRead then m.addReader p.host pipe else m.addWriter p.host pipe
  setDescriptor fd mine
  modifyOwn fun p => { p with
    lastBackground := some child.number
    children := p.children ++ [child.number]
    substitutions := child.number :: p.substitutions }
  return s!"/dev/fd/{fd}"

/-- the marks of a piece; further pieces are expanded by `expand` -/
def pieceMarks (run : Command → Activity Nat) (expand : Expander) (place : Place) :
    Piece → Activity (List Mark)
  | .plain text =>
    pure (if place = .inParam then valueMarks place text else textMarks false text)
  | .quoted text => pure (.hold :: textMarks true text)
  | .double pieces => do
    let ms ← expand .inDouble pieces
    match pieces with
    | [.param name index _ _ _] => return if isList name index then ms else .hold :: ms
    | _ => return .hold :: ms
  | .output command => do return valueMarks place (← outputOf run command)
  | .arithmetic pieces => do
    let value ← compute (joined (← expand .inDouble pieces))
    return valueMarks place (toString value)
  | .param name index isIndirect use words =>
    paramMarks expand place name index isIndirect use words
  | .process isRead command => do return textMarks true (← processPath isRead command)
  | .element name index isAppended => do
    let subscript ← expand place index
    return textMarks false (name ++ "[") ++ subscript ++
      textMarks false (if isAppended then "]+=" else "]=")
  | .elements _ => pure []

/-- the marks of pieces, from left to right, which are nested at most `n` deep -/
def marksUpTo (run : Command → Activity Nat) : Nat → Expander
  | 0, _, _ => giveUp "Bad substitution"
  | n + 1, place, w => do
    return (← w.mapM (pieceMarks run (marksUpTo run n) place)).flatten

/-- a number of nested words that no script reaches -/
def maxNesting : Nat := 100000

def marksIn (run : Command → Activity Nat) : Expander := marksUpTo run maxNesting

/-- the marks of a whole word; a tilde may start it -/
def marks (run : Command → Activity Nat) (place : Place) : Word → Activity (List Mark)
  | .plain text :: more => do
    let ms ← startMarks more.isEmpty text
    return ms ++ (← marksIn run place more)
  | w => marksIn run place w

/-- the text of a field -/
def fieldText (field : List Glyph) : String := String.ofList (field.map (·.1))

/-- how the shell takes patterns for names of files -/
def nameRules (p : Process) : NameRules where
  hasGroups := p.settings.contains "extglob"
  showsHidden := p.settings.contains "dotglob"
  hasDots := !p.isExtended
  goesDeep := p.settings.contains "globstar"
  ignoresCase := p.settings.contains "nocaseglob"

/-- the names of files that a field matches, or the field itself -/
def namesFor (field : List Glyph) : Activity (List String) := do
  let p ← own
  let rules := nameRules p
  if p.options.noFileNames || !(Wildcard.isActive rules.hasGroups field) then
    return [fieldText field]
  match fileNames rules (← disk) field with
  | [] =>
    if p.settings.contains "failglob" then giveUp s!"no match: {fieldText field}"
    return if p.settings.contains "nullglob" then [] else [fieldText field]
  | names => return names

/-- the fields of a word without alternatives, with the names of files in place of patterns that
match some -/
def wordFields (run : Command → Activity Nat) (w : Word) : Activity (List String) := do
  let ms ← marks run .bare w
  let found := fields (← separators).toList ms
  return (← found.mapM namesFor).flatten

/-- the fields of a word -/
def fieldsOf (run : Command → Activity Nat) (w : Word) : Activity (List String) := do
  let p ← own
  if p.settings.contains "braceexpand" then
    return (← (Braces.expand w).mapM (wordFields run)).flatten
  else wordFields run w

/-- the text of a word that is not split -/
def wholeText (run : Command → Activity Nat) (w : Word) : Activity String := do
  return joined (← marks run .whole w)

/-- the text of a word that is assigned -/
def assignedText (run : Command → Activity Nat) (w : Word) : Activity String := do
  match w with
  | .plain text :: more =>
    let ms ← assignedMarks more.isEmpty text
    return joined (ms ++ (← marksIn run .whole more))
  | w => return joined (← marksIn run .whole w)

/-- the text of a word that is an argument and writes an assignment; it is not split -/
def declaredText (run : Command → Activity Nat) (w : Word) : Activity String := do
  match w with
  | .plain text :: more =>
    let cs := text.toList
    let head := cs.takeWhile (· ≠ '=')
    let value := String.ofList (cs.drop (head.length + 1))
    let ms ← assignedMarks more.isEmpty value
    return joined (textMarks false (String.ofList (head ++ ['='])) ++ ms ++
      (← marksIn run .whole more))
  | w => return joined (← marksIn run .whole w)

/-- the pattern that a word writes -/
def patternOf (run : Command → Activity Nat) (w : Word) : Activity (List Wildcard) := do
  return Wildcard.read (← own).isExtended (glyphs (← marks run .whole w))

/-- the text of an inline text -/
def inlineText (run : Command → Activity Nat) (w : Word) : Activity String := do
  return joined (← marksIn run .inDouble w)

end Expansion

end PatternBuild.Shell
