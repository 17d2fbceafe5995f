import PatternBuild.Shell.Regex
import PatternBuild.Shell.Tool.Listing
import PatternBuild.Shell.Tool.Running

/-!
# Find: files that meet conditions

The arguments of `find` write an expression, which is decided for everything at and below some
paths.  Some of its parts act on what they see, and always hold or tell whether they succeeded.
-/

namespace PatternBuild.Shell.Tool

open Activity Path

namespace Find

/-! ## expressions -/

/-- how a number is compared: it is the given one, or more, or less -/
inductive Bound where
  | exactly (n : Nat)
  | above (n : Nat)
  | below (n : Nat)
  deriving DecidableEq, Repr

def Bound.holds (k : Nat) : Bound → Bool
  | .exactly n => k = n
  | .above n => n < k
  | .below n => k < n

/-- which text of a file a pattern is matched with -/
inductive NamePart where
  | name
  | path
  | target
  deriving DecidableEq, Repr

/-- how bits of a mode are compared: all of them are the given ones, or they hold all of those, or
any of them -/
inductive BitsRule where
  | exactly
  | all
  | any
  deriving DecidableEq, Repr

/-- how an age is compared: it is less than the given one but not by more than a width, or it is more,
or less -/
inductive AgeRule where
  | within (width : Nat)
  | above
  | below
  deriving DecidableEq, Repr

def AgeRule.holds (age time : Nat) : AgeRule → Bool
  | .within width => age < time && time ≤ age + width
  | .above => time < age
  | .below => age < time

/-- an expression about a file -/
inductive Criterion where
  | const (value : Bool)
  | fits (part : NamePart) (pattern : List Wildcard) (ignoresCase : Bool)
  | regex (expression : Regex) (ignoresCase : Bool)
  | kind (letters : List Char) (followsLinks : Bool)
  | newer (moment : Nat)
  | size (bound : Bound) (unit : Nat)
  | empty
  | mode (rule : BitsRule) (bits : Nat)
  /-- how many nanoseconds ago it was changed, as `rule` compares it -/
  | age (rule : AgeRule) (time : Nat)
  | links (bound : Bound)
  | inode (bound : Bound)
  | allowed (bits : Nat)
  | same (location : Location)
  /-- actions: what is printed goes to a file if one is named -/
  | print (ending : String) (target : Option String)
  | format (text : String) (target : Option String)
  | long
  | run (words : List String) (inDir asks : Bool)
  /-- a program that is run for many files at once, with a number of its own -/
  | gather (number : Nat) (words : List String)
  | delete
  | prune
  | quit
  | not (a : Criterion)
  | both (a b : Criterion)
  | either (a b : Criterion)
  | last (a b : Criterion)
  deriving Repr

/-- whether an expression acts by itself -/
def Criterion.acts : Criterion → Bool
  | .print _ _ => true
  | .format _ _ => true
  | .long => true
  | .run _ _ _ => true
  | .gather _ _ => true
  | .delete => true
  | .not a => a.acts
  | .both a b => a.acts || b.acts
  | .either a b => a.acts || b.acts
  | .last a b => a.acts || b.acts
  | _ => false

/-- the files that an expression prints to -/
def Criterion.targets : Criterion → List String
  | .print _ target => target.toList
  | .format _ target => target.toList
  | .not a => a.targets
  | .both a b => a.targets ++ b.targets
  | .either a b => a.targets ++ b.targets
  | .last a b => a.targets ++ b.targets
  | _ => []

/-- the programs that an expression runs for many files at once -/
def Criterion.gathered : Criterion → List (Nat × List String)
  | .gather n words => [(n, words)]
  | .not a => a.gathered
  | .both a b => a.gathered ++ b.gathered
  | .either a b => a.gathered ++ b.gathered
  | .last a b => a.gathered ++ b.gathered
  | _ => []

/-- what holds for the whole search -/
structure Settings where
  least : Nat
  most : Option Nat
  /-- what is in a directory comes before it -/
  insideFirst : Bool
  followsNamed : Bool
  followsAll : Bool
  isExtended : Bool
  gathers : Nat
  zone : Calendar.Zone

/-! ## reading -/

/-- a pattern, in which a backslash quotes the next character -/
def patternOf (text : String) : List Wildcard :=
  let rec glyphs : List Char → List Glyph
    | '\\' :: c :: cs => (c, true) :: glyphs cs
    | c :: cs => (c, false) :: glyphs cs
    | [] => []
  Wildcard.read false (glyphs text.toList)

/-- a regular expression as it is usually written: groups and bars have backslashes, and the signs of
repetition have none -/
def usualRegex : List Char → List Char
  | '\\' :: c :: cs =>
    if c == '(' || c == ')' || c == '|' then c :: usualRegex cs else '\\' :: c :: usualRegex cs
  | c :: cs =>
    if c == '(' || c == ')' || c == '|' || c == '{' || c == '}' then '\\' :: c :: usualRegex cs
    else c :: usualRegex cs
  | [] => []

/-- a number with a sign -/
def boundOf? (text : String) : Option Bound :=
  let count? (text : String) : Option Nat := (natural? text).filter (· ≤ largestCount)
  match text.toList with
  | '+' :: cs => (count? (String.ofList cs)).map .above
  | '-' :: cs => (count? (String.ofList cs)).map .below
  | _ => (count? text).map .exactly

/-- the age that a number of days or minutes writes, each of so many seconds; a day counts only when it
is over -/
def ageOf? (text : String) (seconds : Nat) : Option (AgeRule × Nat) := do
  let cs := text.toList
  let isSigned := cs.head?.any fun c => c == '+' || c == '-'
  let (n, e, rest) ← Floating.decimal? (if isSigned then cs.drop 1 else cs)
  if !rest.isEmpty then none
  let second := 1000000000
  let unit := seconds * second
  let time := if e < 0 then n * unit / Nat.pow 10 e.natAbs else n * Nat.pow 10 e.toNat * unit
  let isDay := seconds = 86400
  match cs with
  | '+' :: _ => return (.above, if isDay then time + unit else time)
  | '-' :: _ => return (.below, if isDay then time + second else time)
  | _ => return (.within unit, if isDay then time + unit else time)

/-- the unit behind a size -/
def sizeUnit? : Char → Option Nat
  | 'b' => some 512
  | 'c' => some 1
  | 'w' => some 2
  | 'k' => some 1024
  | 'M' => some 1048576
  | 'G' => some 1073741824
  | _ => none

/-- the size that a text writes -/
def sizeOf? (text : String) : Option (Bound × Nat) :=
  match text.toList.getLast? with
  | none => none
  | some c =>
    if c.isDigit then (boundOf? text).map (·, 512)
    else (sizeUnit? c).bind fun unit =>
      (boundOf? (String.ofList text.toList.dropLast)).map (·, unit)

/-- the mode that a text writes, and how it is compared -/
def modeOf? (text : String) : Option (BitsRule × Nat) :=
  let (rule, digits) : BitsRule × String := match text.toList with
    | '-' :: cs => (.all, String.ofList cs)
    | '/' :: cs => (.any, String.ofList cs)
    | _ => (.exactly, text)
  (Mode.changed? 0 false digits 0).map ((rule, ·))

/-- the words of a program up to the mark that ends them, which tells whether it runs for many files
at once -/
def programWords : List String → List String → Option (List String × Bool × List String)
  | _, [] => none
  | seen, ";" :: rest => some (seen.reverse, false, rest)
  | "\x7b\x7d" :: seen, "+" :: rest => some (seen.reverse, true, rest)
  | seen, w :: rest => programWords (w :: seen) rest

/-- what is known when an expression is read -/
structure Place where
  disk : Disk
  settings : Settings

/-- an expression, and what is known and left behind it -/
abbrev Parsed := Criterion × Place × List String

/-- one part of an expression -/
def primary (p : Place) (name : String) (rest : List String) : Except String Parsed := do
  let d := p.disk
  let value : Except String (String × List String) := match rest with
    | v :: rest => .ok (v, rest)
    | [] => .error s!"missing argument to \x60{name}'"
  let one (f : String → Except String Criterion) : Except String Parsed := do
    let (v, rest) ← value
    return (← f v, p, rest)
  let set (f : Nat → Settings → Settings) : Except String Parsed := do
    let (v, rest) ← value
    match natural? v with
    | some n =>
      if n = 9223372036854775807 then throw v
      if 2147483647 < n then throw s!"{v}: Numerical result out of range"
      return (.const true, { p with settings := f n p.settings }, rest)
    | none => throw s!"Expected a positive decimal integer argument to {name}, but got {quoted v}"
  let number (f : Bound → Criterion) : Except String Parsed := one fun v =>
    match boundOf? v with
    | some b => .ok (f b)
    | none => .error s!"invalid argument \x60{v}' to \x60{name}'"
  let age (seconds : Nat) : Except String Parsed := one fun v =>
    match ageOf? v seconds with
    | some (rule, time) => .ok (.age rule time)
    | none => .error s!"invalid argument \x60{v}' to \x60{name}'"
  let moment (path : String) : Except String Nat :=
    match d.stat path with
    | .ok (_, node) => .ok (d.modifiedOf node)
    | .error f => .error s!"{quoted path}: {f.message}"
  let ok (e : Criterion) : Except String Parsed := .ok (e, p, rest)
  let program (inDir asks : Bool) : Except String Parsed :=
    match programWords [] rest with
    | none => .error s!"missing argument to \x60{name}'"
    | some ([], _, _) => .error s!"missing argument to \x60{name}'"
    | some (words, true, rest) =>
      let n := p.settings.gathers
      .ok (.gather n words.dropLast, { p with settings := { p.settings with gathers := n + 1 } }, rest)
    | some (words, false, rest) => .ok (.run words inDir asks, p, rest)
  let regexOf (ignoresCase : Bool) : Except String Parsed := one fun v =>
    let text := if p.settings.isExtended then v.toList else usualRegex v.toList
    match Regex.read .extended text with
    | .ok r => .ok (.regex r ignoresCase)
    | .error fault => .error s!"failed to compile regular expression {quoted v}: {fault.message}"
  match name with
  | "-name" => one fun v => .ok (.fits .name (patternOf v) false)
  | "-iname" => one fun v => .ok (.fits .name (patternOf (v.map Char.toLower)) true)
  | "-path" => one fun v => .ok (.fits .path (patternOf v) false)
  | "-wholename" => one fun v => .ok (.fits .path (patternOf v) false)
  | "-ipath" => one fun v => .ok (.fits .path (patternOf (v.map Char.toLower)) true)
  | "-iwholename" => one fun v => .ok (.fits .path (patternOf (v.map Char.toLower)) true)
  | "-lname" => one fun v => .ok (.fits .target (patternOf v) false)
  | "-ilname" => one fun v => .ok (.fits .target (patternOf (v.map Char.toLower)) true)
  | "-regex" => regexOf false
  | "-iregex" => regexOf true
  | "-type" => kinds false
  | "-xtype" => kinds true
  | "-newer" => one fun v => do return .newer (← moment v)
  | "-anewer" => one fun v => do return .newer (← moment v)
  | "-cnewer" => one fun v => do return .newer (← moment v)
  | "-newermm" => one fun v => do return .newer (← moment v)
  | "-newermt" => one fun v => match Calendar.readMomentIn? p.settings.zone d.now v with
    | some t => .ok (.newer t.toNat)
    | none => .error s!"I cannot figure out how to interpret {quoted v} as a date or time"
  | "-size" => one fun v => match sizeOf? v with
    | some (b, unit) => .ok (.size b unit)
    | none =>
      match v.toList.getLast? with
      | none => .error "invalid null argument to -size"
      | some c =>
        if c.isDigit || (sizeUnit? c).isSome then .error s!"Invalid argument \x60{v}' to -size"
        else .error s!"invalid -size type \x60{c}'"
  | "-empty" => ok .empty
  | "-perm" => one fun v => match modeOf? v with
    | some (rule, bits) => .ok (.mode rule bits)
    | none => .error s!"invalid mode {quoted v}"
  | "-mtime" => age 86400
  | "-atime" => age 86400
  | "-ctime" => age 86400
  | "-mmin" => age 60
  | "-amin" => age 60
  | "-cmin" => age 60
  | "-links" => number .links
  | "-inum" => number .inode
  | "-uid" => number fun b => .const (b.holds 0)
  | "-gid" => number fun b => .const (b.holds 0)
  | "-user" => one fun v => if v = "root" || v = "0" then .ok (.const true)
      else if (natural? v).isSome then .ok (.const false)
      else .error s!"invalid user name or UID argument to -user: {quoted v}"
  | "-group" => one fun v => if v = "root" || v = "0" then .ok (.const true)
      else if (natural? v).isSome then .ok (.const false)
      else .error s!"{quoted v} is not the name of an existing group"
  | "-nouser" => ok (.const false)
  | "-nogroup" => ok (.const false)
  | "-readable" => ok (.const true)
  | "-writable" => ok (.const true)
  | "-executable" => ok (.allowed 0o111)
  | "-samefile" => one fun v => match d.stat v with
    | .ok (l, _) => .ok (.same l)
    | .error f => .error s!"{quoted v}: {f.message}"
  | "-fstype" => one fun _ => .ok (.const false)
  | "-used" => number fun _ => .const false
  | "-true" => ok (.const true)
  | "-false" => ok (.const false)
  | "-print" => ok (.print "\n" none)
  | "-print0" => ok (.print "\x00" none)
  | "-fprint" => one fun v => .ok (.print "\n" (some v))
  | "-fprint0" => one fun v => .ok (.print "\x00" (some v))
  | "-printf" => one fun v => .ok (.format v none)
  | "-fprintf" => do
    let (path, rest) ← value
    match rest with
    | format :: rest => return (.format format (some path), p, rest)
    | [] => throw s!"missing argument to \x60{name}'"
  | "-ls" => ok .long
  | "-exec" => program false false
  | "-execdir" => program true false
  | "-ok" => program false true
  | "-okdir" => program true true
  | "-delete" => .ok (.delete, { p with settings := { p.settings with insideFirst := true } }, rest)
  | "-prune" => ok .prune
  | "-quit" => ok .quit
  | "-depth" => .ok (.const true, { p with settings := { p.settings with insideFirst := true } }, rest)
  | "-d" => .ok (.const true, { p with settings := { p.settings with insideFirst := true } }, rest)
  | "-maxdepth" => set fun n s => { s with most := some n }
  | "-mindepth" => set fun n s => { s with least := n }
  | "-regextype" => do
    let (v, rest) ← value
    let isExtended := ["posix-extended", "posix-egrep", "egrep", "awk", "gnu-awk", "posix-awk"].contains v
    return (.const true, { p with settings := { p.settings with isExtended } }, rest)
  | "-follow" => .ok (.const true,
      { p with settings := { p.settings with followsAll := true, followsNamed := true } }, rest)
  | "-mount" => ok (.const true)
  | "-xdev" => ok (.const true)
  | "-noleaf" => ok (.const true)
  | "-daystart" => ok (.const true)
  | "-nowarn" => ok (.const true)
  | "-warn" => ok (.const true)
  | "-ignore_readdir_race" => ok (.const true)
  | name =>
    if name.startsWith "-" && 1 < name.length then .error s!"unknown predicate \x60{name}'"
    else .error s!"paths must precede expression: \x60{name}'"
where
  /-- letters of kinds, with commas between them -/
  kinds (followsLinks : Bool) : Except String Parsed :=
    match rest with
    | [] => .error s!"missing argument to \x60{name}'"
    | v :: rest =>
      let letters := v.splitOn ","
      match letters.find? fun l => l.length ≠ 1 || !("bcdpflsD".contains (l.toList.headD ' ')) with
      | some bad =>
        .error (if 1 < bad.length && "bcdpflsD".contains (bad.toList.headD ' ') then
          "Must separate multiple arguments to -type using: ','"
          else s!"Unknown argument to {name}: {String.ofList (bad.toList.take 1)}")
      | none => .ok (.kind (letters.map fun l => l.toList.headD ' ') followsLinks, p, rest)

mutual

/-- parts with commas between them -/
def listed : Nat → Place → List String → Except String Parsed
  | 0, _, _ => .error "expression too deep"
  | n + 1, p, ts => do
    let (a, p, ts) ← alternatives n p ts
    moreListed n a p ts

def moreListed : Nat → Criterion → Place → List String → Except String Parsed
  | 0, _, _, _ => .error "expression too deep"
  | n + 1, a, p, ts =>
    match ts with
    | "," :: ts => do
      let (b, p, ts) ← alternatives n p ts
      moreListed n (.last a b) p ts
    | ts => .ok (a, p, ts)

def alternatives : Nat → Place → List String → Except String Parsed
  | 0, _, _ => .error "expression too deep"
  | n + 1, p, ts => do
    let (a, p, ts) ← conjunction n p ts
    moreAlternatives n a p ts

def moreAlternatives : Nat → Criterion → Place → List String → Except String Parsed
  | 0, _, _, _ => .error "expression too deep"
  | n + 1, a, p, ts =>
    match ts with
    | op :: ts' =>
      if op = "-o" || op = "-or" then
        if ts'.isEmpty then .error s!"expected an expression after '{op}'"
        else do
          let (b, p, ts) ← conjunction n p ts'
          moreAlternatives n (.either a b) p ts
      else .ok (a, p, ts)
    | [] => .ok (a, p, ts)

def conjunction : Nat → Place → List String → Except String Parsed
  | 0, _, _ => .error "expression too deep"
  | n + 1, p, ts => do
    let (a, p, ts) ← term n p ts
    moreConjunction n a p ts

def moreConjunction : Nat → Criterion → Place → List String → Except String Parsed
  | 0, _, _, _ => .error "expression too deep"
  | n + 1, a, p, ts =>
    match ts with
    | [] => .ok (a, p, [])
    | op :: rest =>
      if op = "-o" || op = "-or" || op = "," || op = ")" then .ok (a, p, ts)
      else
        let isAnd := op = "-a" || op = "-and"
        if isAnd && rest.isEmpty then .error s!"expected an expression after '{op}'"
        else do
          let (b, p, ts) ← term n p (if isAnd then rest else ts)
          moreConjunction n (.both a b) p ts

def term : Nat → Place → List String → Except String Parsed
  | 0, _, _ => .error "expression too deep"
  | n + 1, p, ts =>
    match ts with
    | [] => .error "expected an expression"
    | "(" :: ")" :: _ => .error "invalid expression; empty parentheses are not allowed."
    | "(" :: ts => do
      let (a, p, ts) ← listed n p ts
      match ts with
      | ")" :: ts => return (a, p, ts)
      | _ => throw "invalid expression; I was expecting to find a ')' somewhere but did not see one."
    | ")" :: _ => .error "invalid expression; you have too many ')'"
    | op :: ts =>
      if op = "!" || op = "-not" then
        if ts.isEmpty then .error s!"expected an expression after '{op}'"
        else do
          let (a, p, ts) ← term n p ts
          return (.not a, p, ts)
      else if op = "-o" || op = "-or" || op = "-a" || op = "-and" then
        .error s!"invalid expression; you have used a binary operator '{op}' with nothing before it."
      else primary p op ts

end

/-! ## deciding -/

/-- a file that is looked at -/
structure Item where
  path : String
  /-- the path that the search started from, and how far below it this is -/
  start : String
  depth : Nat
  location : Location
  node : DiskNode

/-- the name of a file -/
def Item.name (i : Item) : String := if i.depth = 0 then baseOf i.path else
  String.ofList (i.path.toList.reverse.takeWhile (· ≠ '/')).reverse

/-- the directory part of a path -/
def Item.dir (i : Item) : String :=
  let cs := i.path.toList
  let above := (cs.reverse.dropWhile (· ≠ '/')).drop 1
  if !cs.contains '/' then "." else String.ofList above.reverse

/-- the path below the one that the search started from -/
def Item.below (i : Item) : String :=
  let rest := i.path.toList.drop i.start.length
  String.ofList (if rest.head? == some '/' then rest.drop 1 else rest)

/-- how a search goes on -/
structure Progress where
  code : Nat
  isPruned : Bool
  isOver : Bool
  /-- the paths that programs are to be run for, by the number of the program -/
  gathered : List (Nat × String)
  /-- the descriptors of files that are printed to -/
  targets : List (String × Nat)

def kindChar : DiskNode → Char
  | .file _ => 'f'
  | n => kindLetter n

/-- what a letter of a format shows -/
def field? (z : Calendar.Zone) (d : Disk) (i : Item) (c : Char) : Option String :=
  let t := d.modifiedOf i.node
  let part := Calendar.fillWith '0' 10 (toString (t % 1000000000 * 10))
  let seconds := s!"{t / 1000000000}.{part}"
  match c with
  | 'p' => some i.path
  | 'f' => some (if i.path = "/" then "/" else i.name)
  | 'h' => some i.dir
  | 'P' => some i.below
  | 'H' => some i.start
  | 'd' => some (toString i.depth)
  | 's' => some (toString (d.sizeOf i.node))
  | 'm' => some (Mode.octal 1 (d.modeOf i.node))
  | 'M' => some ((kindLetter i.node).toString ++ modeLetters (d.modeOf i.node))
  | 'y' => some (kindChar i.node).toString
  | 'Y' => some (match i.node with
    | .link _ _ =>
      match d.stat (Disk.pathOf i.location) with
      | .ok (_, node) => (kindChar node).toString
      | .error .tooManyLinks => "L"
      | .error _ => "N"
    | n => (kindChar n).toString)
  | 'l' => some (match i.node with
    | .link target _ => target
    | _ => "")
  | 'n' => some (toString (linksOf d i.location i.node))
  | 'i' => some (toString (fileNumber d i.location i.node))
  | 'u' => some "root"
  | 'g' => some "root"
  | 'U' => some "0"
  | 'G' => some "0"
  | 'k' => some (toString (blocksOf d i.node / 2))
  | 'b' => some (toString (blocksOf d i.node))
  | 'D' => some "66305"
  | 'F' => some "ext4"
  | 'S' => some "1"
  | 'a' => some (Calendar.formatIn z t "%a %b %e %H:%M:%S.%N0 %Y")
  | 'c' => some (Calendar.formatIn z t "%a %b %e %H:%M:%S.%N0 %Y")
  | 't' => some (Calendar.formatIn z t "%a %b %e %H:%M:%S.%N0 %Y")
  | '@' => some seconds
  | _ => none

/-- print by a format; the flag tells whether the output ends early -/
def formatText (z : Calendar.Zone) (d : Disk) (i : Item) : Nat → List Char → List Char
  | 0, _ => []
  | _ + 1, [] => []
  | n + 1, '\\' :: cs =>
    match cs with
    | 'c' :: _ => []
    | cs =>
      match readEscape .programFormat cs with
      | .octets text rest => text ++ formatText z d i n rest
      | .stop => []
  | n + 1, '%' :: '%' :: cs => '%' :: formatText z d i n cs
  | n + 1, '%' :: cs =>
    let (t, after) := readDirective allFlags false cs
    let timed := t.conversion.any fun c => "TAC".toList.contains c
    match t.conversion with
    | none => ['%']
    | some c =>
      let (text?, after) : Option String × List Char :=
        if timed then
          match after with
          | k :: rest =>
            (if k == '@' then field? z d i '@'
              else if k == '+' then
                some (Calendar.formatIn z (d.modifiedOf i.node) "%Y-%m-%d+%H:%M:%S.%N0")
              else if k == 'S' then some (Calendar.formatIn z (d.modifiedOf i.node) "%S.%N0")
              else if k == 'T' then some (Calendar.formatIn z (d.modifiedOf i.node) "%H:%M:%S.%N0")
              else some (Calendar.formatIn z (d.modifiedOf i.node) (String.ofList ['%', k])), rest)
          | [] => (none, [])
        else (field? z d i c, after)
      match text? with
      | some text =>
        let directive := t.directive (match t.width with
          | some (.fixed k) => (k : Int)
          | _ => 0) (match t.precision with
          | some (.fixed k) => some (k : Int)
          | _ => none) 's'
        let padded := if directive.zeros && !directive.alignsLeft then
            (Calendar.fillWith '0' directive.width text).toList
          else directive.text text.toList
        padded ++ formatText z d i n after
      | none => '%' :: cs.take (cs.length - after.length) ++ formatText z d i n after
  | n + 1, c :: cs => c :: formatText z d i n cs

/-- print to a file, or to the standard output -/
def printTo (g : Progress) (target : Option String) (cs : List Char) : Activity Unit := do
  match target.bind fun path => g.targets.lookup path with
  | some fd => discard (write fd cs)
  | none => Tool.out cs

/-- words with a path in place of braces -/
def withPath (words : List String) (path : String) : List String :=
  words.map fun w => path.intercalate (w.splitOn "\x7b\x7d")

/-- run a program for a file -/
def runProgram (programs : Programs) (i : Item) (words : List String) (inDir asks : Bool) :
    Activity Bool := do
  let path := if inDir then (if i.path = "/" then "/" else "./" ++ i.name) else i.path
  let call := withPath words path
  if asks then
    let shownCall := s!"< {firstOf words} ... {i.path} > ? "
    if !(← confirmed shownCall) then return false
  discard flush
  let outer := (← own).cwd
  if inDir && 0 < i.location.length then modifyOwn fun p => { p with cwd := i.location.dropLast }
  let result ← programs.run call
  modifyOwn fun p => { p with cwd := outer }
  match result with
  | .ok code => return code = 0
  | .error f =>
    Tool.complain "find" s!"{quoted (firstOf words)}: {f.message}"
    return false

/-- decide an expression for a file -/
def decide (programs : Programs) (i : Item) : Criterion → Progress → Activity (Bool × Progress)
  | .const b, g => return (b, g)
  | .not a, g => do
    let (x, g) ← decide programs i a g
    return (!x, g)
  | .both a b, g => do
    let (x, g) ← decide programs i a g
    if !x || g.isOver then return (x, g) else decide programs i b g
  | .either a b, g => do
    let (x, g) ← decide programs i a g
    if x || g.isOver then return (x, g) else decide programs i b g
  | .last a b, g => do
    let (_, g) ← decide programs i a g
    if g.isOver then return (false, g) else decide programs i b g
  | .print ending target, g => do
    printTo g target (i.path ++ ending).toList
    return (true, g)
  | .format text target, g => do
    printTo g target (formatText (← currentZone) (← disk) i (text.length + 1) text.toList)
    return (true, g)
  | .long, g => do
    let d ← disk
    let z ← currentZone
    let t := d.modifiedOf i.node
    let date := Calendar.formatIn z t (if d.now < t + 15778476 * 1000000000 then "%b %e %H:%M" else "%b %e  %Y")
    let arrow := match i.node with
      | .link target _ => " -> " ++ target
      | _ => ""
    let links := toString (linksOf d i.location i.node)
    Tool.say s!"{padLeft 9 (toString (fileNumber d i.location i.node))} {
      padLeft 6 (toString (blocksOf d i.node / 2))} {(kindLetter i.node).toString ++
      modeLetters (d.modeOf i.node)} {padLeft 3 links} root     root     {
      padLeft 8 (toString (d.sizeOf i.node))} {date} {i.path}{arrow}\n"
    return (true, g)
  | .run words inDir asks, g => do return (← runProgram programs i words inDir asks, g)
  | .gather n _, g => return (true, { g with gathered := (n, i.path) :: g.gathered })
  | .delete, g => do
    if i.path = "." then return (true, g)
    let d ← disk
    let change : Except DiskFault Disk := match i.node with
      | .dir _ _ => removeDir d i.path
      | _ => d.remove i.location
    match change with
    | .ok d =>
      setDisk d
      return (true, g)
    | .error f =>
      Tool.complain "find" s!"cannot delete {quoted i.path}: {f.message}"
      return (false, { g with code := 1 })
  | .prune, g => return (true, { g with isPruned := true })
  | .quit, g => return (true, { g with isOver := true })
  | e, g => do
    let d ← disk
    return (test d e, g)
where
  /-- decide a part that does not act -/
  test (d : Disk) : Criterion → Bool
    | .fits part pattern ignoresCase =>
      let text := match part, i.node with
        | .name, _ => if i.path = "/" then "/" else i.name
        | .path, _ => i.path
        | .target, .link target _ => target
        | .target, _ => ""
      let isAsked := match part, i.node with
        | .target, .link _ _ => true
        | .target, _ => false
        | _, _ => true
      isAsked && Wildcard.fits pattern (if ignoresCase then text.toList.map Char.toLower else text.toList)
    | .regex r ignoresCase =>
      match r.matchAt? (Regex.subject ignoresCase i.path.toList) false 0 with
      | some found => (found.lookup 0).any fun (_, j) => j = i.path.length
      | none => false
    | .kind letters followsLinks =>
      let node := if followsLinks then
          match d.stat (Disk.pathOf i.location) with
          | .ok (_, node) => node
          | .error _ => i.node
        else i.node
      letters.contains (kindChar node)
    | .newer t => t < d.modifiedOf i.node
    | .size b unit => b.holds ((d.sizeOf i.node + unit - 1) / unit)
    | .empty =>
      match i.node with
      | .file n => (d.file n).content.isEmpty
      | .dir _ _ => (d.namesIn i.location).isEmpty
      | _ => false
    | .mode rule bits =>
      let mode := d.modeOf i.node &&& 0o7777
      match rule with
      | .exactly => mode = bits
      | .all => mode &&& bits = bits
      | .any => bits = 0 || mode &&& bits ≠ 0
    | .age rule time => rule.holds (d.now - d.modifiedOf i.node) time
    | .links b => b.holds (linksOf d i.location i.node)
    | .inode b => b.holds (fileNumber d i.location i.node)
    | .allowed bits => d.modeOf i.node &&& bits ≠ 0
    | .same l => l = i.location || match d.node? l, i.node with
      | some (.file a), .file b => a = b
      | _, _ => false
    | _ => false

/-! ## searching -/

/-- go through what is at and below a path -/
def search (programs : Programs) (s : Settings) (e : Criterion) : Nat → String → String → Nat → Progress →
    Activity Progress
  | 0, _, _, _, g => return g
  | n + 1, start, path, depth, g => do
    let d ← disk
    let follows := s.followsAll || (depth = 0 && s.followsNamed)
    let found := if follows then
        match d.stat path with
        | .ok x => .ok x
        | .error _ => d.linkStat path
      else d.linkStat path
    match found with
    | .error f =>
      Tool.complain "find" s!"{quoted path}: {f.message}"
      return { g with code := 1 }
    | .ok (l, node) =>
      let i : Item := ⟨path, start, depth, l, node⟩
      let isDir := match node with
        | .dir _ _ => true
        | _ => false
      let decideHere (g : Progress) : Activity Progress := do
        if depth < s.least || s.most.any (· < depth) then return g
        return (← decide programs i e { g with isPruned := false }).2
      let inside (g : Progress) : Activity Progress := do
        let mut g := g
        let names := (← disk).namesIn l
        for name in names do
          if !g.isOver then
            g ← search programs s e n start (entryPath path name) (depth + 1) g
        return g
      let goesDown := isDir && s.most.all (depth < ·)
      if s.insideFirst then
        let g ← if goesDown then inside g else pure g
        if g.isOver then return g else decideHere g
      else
        let g ← decideHere { g with isPruned := false }
        if goesDown && !g.isPruned && !g.isOver then inside g else return g

/-- whether an argument starts the expression -/
def startsExpr (a : String) : Bool :=
  (a.startsWith "-" && 1 < a.length) || a = "(" || a = "!"

end Find

open Find in
def find (programs : Programs) (args : List String) : Activity Nat := do
  let isOption (a : String) : Bool := a = "-H" || a = "-L" || a = "-P" || a.startsWith "-O"
  let options := args.takeWhile isOption
  let rest := args.drop options.length
  let paths := rest.takeWhile fun a => !startsExpr a
  let words := rest.drop paths.length
  let last := (options.filter fun a => !a.startsWith "-O").getLast?
  let settings : Find.Settings := ⟨0, none, false, last = some "-H" || last = some "-L", last = some "-L",
    false, 0, ← currentZone⟩
  let d ← disk
  let read : Except String (Criterion × Find.Settings) := do
    if words.isEmpty then return (.print "\n" none, settings)
    let (e, p, rest) ← listed (8 * words.length + 16) ⟨d, settings⟩ words
    match rest with
    | [] => return (if e.acts then e else .both e (.print "\n" none), p.settings)
    | ")" :: _ => throw "invalid expression; you have too many ')'"
    | other :: _ => throw s!"paths must precede expression: \x60{other}'"
  match read with
  | .error message => refuse "find" message 1
  | .ok (e, s) =>
    let mut targets : List (String × Nat) := []
    for path in e.targets.eraseDups do
      match ← openToWrite path false with
      | .ok fd => targets := targets ++ [(path, fd)]
      | .error f => return ← refuse "find" s!"{quoted path}: {f.message}" 1
    let mut g : Progress := ⟨0, false, false, [], targets⟩
    for path in if paths.isEmpty then ["."] else paths do
      if !g.isOver then g ← search programs s e deepest path path 0 g
    for (n, words) in e.gathered do
      let paths := (g.gathered.filter (·.1 = n)).map (·.2) |>.reverse
      if !paths.isEmpty then
        let code ← runFor programs (words ++ paths) fun name f =>
          Tool.complain "find" s!"{quoted name}: {f.message}"
        if code ≠ 0 then g := { g with code := 1 }
    for (_, fd) in targets do close fd
    return g.code

end PatternBuild.Shell.Tool
