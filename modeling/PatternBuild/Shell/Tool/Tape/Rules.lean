import PatternBuild.Archive
import PatternBuild.Shell.Tool.Changes
import PatternBuild.Shell.Tool.Editor.Run
import PatternBuild.Shell.Tool.Find
import PatternBuild.Shell.Tool.Paths

/-!
# What work with an archive is about

Which members are meant, and what is to be done with them.
-/

/-!
## Matching: which members of an archive are meant

A name or a pattern means a member and, unless told otherwise, all below it.  Patterns that exclude
members also fit behind any slash.
-/

namespace PatternBuild.Shell.Tool.Tape

/-- how a pattern is compared with names -/
structure Matching where
  /-- it must fit from the start of a name on, not only behind a slash -/
  isAnchored : Bool
  ignoresCase : Bool
  hasWildcards : Bool
  /-- wildcards stand for slashes too -/
  crossesSlashes : Bool
  /-- what fits a directory fits all below it -/
  isRecursive : Bool
  deriving DecidableEq, Repr

/-- a name and the names of the directories above it -/
def withDirs (name : List Char) : List (List Char) :=
  name :: (List.range name.length).filterMap fun i =>
    if name[i]? == some '/' && 0 < i then some (name.take i) else none

/-- a name and what follows each of its slashes -/
def withTails : List Char → List (List Char)
  | [] => []
  | cs => cs :: go cs
where
  /-- what follows the slashes of a name -/
  go : List Char → List (List Char)
    | '/' :: c :: rest => if c == '/' then go (c :: rest) else (c :: rest) :: go (c :: rest)
    | _ :: rest => go rest
    | [] => []

/-- whether two lists fit part by part -/
def fitAll (fits : List Char → List Char → Bool) : List (List Char) → List (List Char) → Bool
  | [], [] => true
  | p :: ps, q :: qs => fits p q && fitAll fits ps qs
  | _, _ => false

/-- whether a pattern fits exactly one name -/
def Matching.fitsName (m : Matching) (pattern name : List Char) : Bool :=
  let lowered (cs : List Char) : List Char := if m.ignoresCase then cs.map Char.toLower else cs
  let pattern := lowered pattern
  let name := lowered name
  let fits (pattern name : List Char) : Bool := Wildcard.fits (Find.patternOf (String.ofList pattern)) name
  if !m.hasWildcards then pattern == name
  else if m.crossesSlashes then fits pattern name
  else fitAll fits (Path.parts pattern) (Path.parts name)

/-- whether a pattern means a name -/
def Matching.fits (m : Matching) (pattern name : List Char) : Bool :=
  let fitsFrom (name : List Char) : Bool :=
    (if m.isRecursive then withDirs name else [name]).any fun part => m.fitsName pattern part
  (if m.isAnchored then [name] else withTails name).any fitsFrom

/-- whether a text has signs that stand for other characters in patterns -/
def hasSigns (cs : List Char) : Bool := cs.any fun c => "*?[\\".toList.contains c

/-! ### names as they are given -/

/-- a character from at most three octal digits, and what follows them -/
def octalChar (cs : List Char) : Char × List Char :=
  let digits := (cs.take 3).takeWhile fun c => '0' ≤ c && c ≤ '7'
  (Char.ofNat (digits.foldl (fun n c => 8 * n + (c.toNat - 48)) 0 % 256), cs.drop digits.length)

/-- a text whose marked characters are put in, in at most `n` steps -/
def unmarkedUpTo : Nat → List Char → List Char
  | 0, cs => cs
  | n + 1, cs =>
    let letters : List (Char × Char) := [('\\', '\\'), ('a', '\x07'), ('b', '\x08'), ('f', '\x0c'),
      ('n', '\n'), ('r', '\r'), ('t', '\t'), ('v', '\x0b'), ('?', '\x7f')]
    match cs with
    | '\\' :: c :: rest =>
      match letters.lookup c with
      | some found => found :: unmarkedUpTo n rest
      | none =>
        if '0' ≤ c && c ≤ '7' then
          let (found, rest) := octalChar (c :: rest)
          found :: unmarkedUpTo n rest
        else '\\' :: c :: unmarkedUpTo n rest
    | c :: rest => c :: unmarkedUpTo n rest
    | [] => []

/-- a text whose marked characters are put in -/
def unmarked (cs : List Char) : List Char := unmarkedUpTo cs.length cs

/-- a text in which a backslash marks what cannot be shown, itself, and some further characters -/
def marked (further : List Char) (cs : List Char) : String :=
  let letters : List (Char × Char) := [('\x07', 'a'), ('\x08', 'b'), ('\x0c', 'f'), ('\n', 'n'),
    ('\r', 'r'), ('\t', 't'), ('\x0b', 'v'), ('\\', '\\')]
  let mark (c : Char) : List Char := match letters.lookup c with
    | some l => ['\\', l]
    | none =>
      if further.contains c then ['\\', c]
      else if isHidden c then
        let digits := Nat.toDigits 8 c.toNat
        '\\' :: List.replicate (3 - digits.length) '0' ++ digits
      else [c]
  String.ofList (cs.flatMap mark)

/-- a name without slashes at its end -/
def bare (cs : List Char) : List Char :=
  let found := (cs.reverse.dropWhile (· == '/')).reverse
  if found.isEmpty then cs.take 1 else found

/-- the length of what makes a name lead out of a directory: slashes in front, and all up to the last
part of two points -/
def leadLength (cs : List Char) : Nat :=
  let rec go : Nat → List Char → Nat → Nat → Nat
    | 0, _, _, found => found
    | _ + 1, [], _, found => found
    | n + 1, rest, place, found =>
      let found := match rest with
        | '.' :: '.' :: more => if more.isEmpty || more.head? == some '/' then place + 2 else found
        | _ => found
      let word := rest.takeWhile (· ≠ '/')
      let used := min rest.length (word.length + 1)
      go n (rest.drop used) (place + used) found
  let start := go (cs.length + 1) cs 0 0
  start + ((cs.drop start).takeWhile (· == '/')).length

/-- whether a part of a name is two points -/
def climbs (cs : List Char) : Bool := (Path.parts cs).contains ['.', '.']

/-- a name without its first parts, of which there are so many; nothing if there are no more -/
def stripped : Nat → List Char → List Char
  | 0, cs => cs
  | n + 1, cs =>
    let rest := (cs.dropWhile (· == '/')).dropWhile (· ≠ '/')
    stripped n (rest.dropWhile (· == '/'))

end PatternBuild.Shell.Tool.Tape

/-!
## Rules: what `tar` is told to do

Options and operands are read in the order in which they are given: a directory, a way to compare or a
pattern holds for what follows it.
-/

namespace PatternBuild.Shell.Tool.Tape

open Activity Archive Editor

/-- what is done with an archive -/
inductive Work where
  | create
  | append
  | update
  | join
  | delete
  | extract
  | list
  | compare
  | testLabel
  deriving DecidableEq, Repr

/-- what happens to files in the way of those that are taken out -/
inductive Clearing where
  /-- they are taken away -/
  | usual
  | keepsDirs
  /-- they stay, which is an error -/
  | keeps
  | skips
  | keepsNewer
  | overwrites
  | unlinksFirst
  deriving DecidableEq, Repr

/-- what is left out of a directory with a certain file -/
inductive Omission where
  /-- all but the directory and the file -/
  | contents
  /-- all but the directory -/
  | below
  | all
  deriving DecidableEq, Repr

/-- a replacement in names -/
structure NameChange where
  pattern : LinePattern
  change : Substitution
  forFiles : Bool
  forHardLinks : Bool
  forSymbolicLinks : Bool

/-- what is named for a work, in order -/
inductive Naming where
  | name (text : List Char) (matching : Matching)
  | dir (path : String)
  /-- the names in a file -/
  | listed (path : String) (matching : Matching) (endedByZeros verbatim : Bool)

structure Rules where
  work : Option Work
  archive : String
  format : Format
  /-- the size of records in blocks -/
  blocking : Nat
  verbosity : Nat
  toOutput : Bool
  command : Option String
  keepsLead : Bool
  follows : Bool
  splitsLinks : Bool
  packs : Bool
  packsBySuffix : Bool
  clearing : Clearing
  keepsModes : Bool
  keepsTimes : Bool
  emptiesDirs : Bool
  strips : Nat
  changes : List NameChange
  showsChanged : Bool
  showsNumbers : Bool
  showsSeconds : Bool
  inUniversalTime : Bool
  user : Option (List Char × Nat)
  group : Option (List Char × Nat)
  modeChange : Option String
  modified : Option Int
  newerThan : Option Int
  newerByChange : Bool
  excludes : List (List Char × Matching)
  omissions : List (Omission × String × Bool)
  descends : Bool
  removesFiles : Bool
  ignoresZeros : Bool
  checksLinks : Bool
  asks : Bool
  topDir : Option String
  backsUp : Bool
  label : Option String
  showsBlocks : Bool
  occurrence : Option Nat
  isLiteral : Bool
  toleratesUnreadable : Bool
  isVerified : Bool
  showsTotals : Bool
  showsOmitted : Bool
  nulNames : Bool
  verbatimNames : Bool
  unmarksNames : Bool
  namings : List Naming
  /-- how names and patterns are compared that follow -/
  anchors : Option Bool
  ignoresCase : Bool
  wildcards : Option Bool
  crossesSlashes : Bool

def Rules.start : Rules where
  work := none
  archive := "-"
  format := .extended
  blocking := 20
  verbosity := 0
  toOutput := false
  command := none
  keepsLead := false
  follows := false
  splitsLinks := false
  packs := false
  packsBySuffix := false
  clearing := .usual
  keepsModes := true
  keepsTimes := true
  emptiesDirs := false
  strips := 0
  changes := []
  showsChanged := false
  showsNumbers := false
  showsSeconds := false
  inUniversalTime := false
  user := none
  group := none
  modeChange := none
  modified := none
  newerThan := none
  newerByChange := false
  excludes := []
  omissions := []
  descends := true
  removesFiles := false
  ignoresZeros := false
  checksLinks := false
  asks := false
  topDir := none
  backsUp := false
  label := none
  showsBlocks := false
  occurrence := none
  isLiteral := false
  toleratesUnreadable := false
  isVerified := false
  showsTotals := false
  showsOmitted := false
  nulNames := false
  verbatimNames := false
  unmarksNames := true
  namings := []
  anchors := none
  ignoresCase := false
  wildcards := none
  crossesSlashes := true

/-- how a pattern that excludes is compared -/
def Rules.exclusion (r : Rules) : Matching :=
  ⟨r.anchors.getD false, r.ignoresCase, r.wildcards.getD true, r.crossesSlashes, r.descends⟩

/-- how a name that is wanted is compared -/
def Rules.inclusion (r : Rules) : Matching :=
  ⟨r.anchors.getD true, r.ignoresCase, r.wildcards.getD false, r.crossesSlashes, r.descends⟩

/-- whether a name is excluded -/
def Rules.excludes? (r : Rules) (name : List Char) : Bool :=
  r.excludes.any fun (pattern, matching) => matching.fits pattern name

/-! ### options -/

/-- long options that do not stand for letters, with a value as the rule says -/
def longOnly : List (String × ValueRule) := [("delete", .never), ("test-label", .never),
  ("check-device", .never), ("hole-detection", .always), ("ignore-failed-read", .never), ("level", .always),
  ("no-check-device", .never), ("no-seek", .never), ("occurrence", .maybe), ("sparse-version", .always),
  ("add-file", .always), ("exclude", .always), ("exclude-backups", .never), ("exclude-caches", .never),
  ("exclude-caches-all", .never), ("exclude-caches-under", .never), ("exclude-ignore", .always),
  ("exclude-ignore-recursive", .always), ("exclude-tag", .always), ("exclude-tag-all", .always),
  ("exclude-tag-under", .always), ("exclude-vcs", .never), ("exclude-vcs-ignores", .never),
  ("no-null", .never), ("no-recursion", .never), ("no-unquote", .never), ("no-verbatim-files-from", .never),
  ("null", .never), ("recursion", .never), ("unquote", .never), ("verbatim-files-from", .never),
  ("anchored", .never), ("ignore-case", .never), ("no-anchored", .never), ("no-ignore-case", .never),
  ("no-wildcards", .never), ("no-wildcards-match-slash", .never), ("wildcards", .never),
  ("wildcards-match-slash", .never), ("keep-directory-symlink", .never), ("keep-newer-files", .never),
  ("no-overwrite-dir", .never), ("one-top-level", .maybe), ("overwrite", .never), ("overwrite-dir", .never),
  ("recursive-unlink", .never), ("remove-files", .never), ("skip-old-files", .never),
  ("ignore-command-error", .never), ("no-ignore-command-error", .never), ("to-command", .always),
  ("atime-preserve", .maybe), ("clamp-mtime", .never), ("delay-directory-restore", .never),
  ("group", .always), ("group-map", .always), ("mode", .always), ("mtime", .always),
  ("no-delay-directory-restore", .never), ("no-same-owner", .never), ("no-same-permissions", .never),
  ("numeric-owner", .never), ("owner", .always), ("owner-map", .always), ("same-owner", .never),
  ("sort", .always), ("acls", .never), ("no-acls", .never), ("no-selinux", .never), ("no-xattrs", .never),
  ("selinux", .never), ("xattrs", .never), ("xattrs-exclude", .always), ("xattrs-include", .always),
  ("force-local", .never), ("rmt-command", .always), ("rsh-command", .always), ("volno-file", .always),
  ("record-size", .always), ("old-archive", .never), ("portability", .never), ("pax-option", .always),
  ("posix", .never), ("lzip", .never), ("lzma", .never), ("lzop", .never), ("no-auto-compress", .never),
  ("zstd", .never), ("backup", .maybe), ("hard-dereference", .never), ("newer-mtime", .always),
  ("one-file-system", .never), ("suffix", .always), ("strip-components", .always), ("transform", .always),
  ("xform", .always), ("checkpoint", .maybe), ("checkpoint-action", .always), ("full-time", .never),
  ("index-file", .always), ("no-quote-chars", .always), ("quote-chars", .always), ("quoting-style", .always),
  ("show-defaults", .never), ("show-omitted-dirs", .never), ("show-snapshot-field-ranges", .never),
  ("show-transformed-names", .never), ("show-stored-names", .never), ("totals", .maybe), ("utc", .never),
  ("warning", .always), ("help", .never), ("restrict", .never), ("usage", .never), ("version", .never)]

/-- long options that stand for letters -/
def longLetters : List (String × String) := [("catenate", "A"), ("concatenate", "A"), ("create", "c"),
  ("diff", "d"), ("compare", "d"), ("append", "r"), ("list", "t"), ("update", "u"), ("extract", "x"),
  ("get", "x"), ("listed-incremental", "g"), ("incremental", "G"), ("seek", "n"), ("sparse", "S"),
  ("directory", "C"), ("files-from", "T"), ("exclude-from", "X"), ("keep-old-files", "k"),
  ("unlink-first", "U"), ("verify", "W"), ("to-stdout", "O"), ("touch", "m"), ("preserve-permissions", "p"),
  ("same-permissions", "p"), ("preserve-order", "s"), ("same-order", "s"), ("file", "f"),
  ("info-script", "F"), ("new-volume-script", "F"), ("tape-length", "L"), ("multi-volume", "M"),
  ("blocking-factor", "b"), ("read-full-records", "B"), ("ignore-zeros", "i"), ("format", "H"),
  ("label", "V"), ("auto-compress", "a"), ("use-compress-program", "I"), ("bzip2", "j"), ("xz", "J"),
  ("gzip", "z"), ("gunzip", "z"), ("ungzip", "z"), ("compress", "Z"), ("uncompress", "Z"),
  ("dereference", "h"), ("starting-file", "K"), ("newer", "N"), ("after-date", "N"),
  ("absolute-names", "P"), ("check-links", "l"), ("block-number", "R"), ("verbose", "v"),
  ("interactive", "w"), ("confirmation", "w")]

/-- letters of options that take a value -/
def valuedLetters : String := "gCTXFLfbHVIKN"

def optionRules : OptionRules :=
  .of "AcdrtuxGnSkUWOmpsMBijJzZahPlRvwo?" valuedLetters
    (longOnly.map (fun (name, rule) => (name, name, rule)) ++
      longLetters.map fun (name, letter) =>
        (name, letter, if valuedLetters.contains letter then .always else .never))

/-- why the arguments cannot be used -/
structure Misuse where
  message : String
  /-- what follows the message -/
  tail : String

/-- the hint after what cannot be asked for -/
def hint : String := "Try 'tar --help' or 'tar --usage' for more information.\n"

/-- what is told when the work cannot go on -/
def stopping : String := "tar: Error is not recoverable: exiting now\n"

/-- read a replacement in names, and what follows it -/
def readChange (usual : Bool × Bool × Bool) (cs : List Char) :
    Option (NameChange × List Char) := do
  match cs with
  | 's' :: mark :: rest =>
    let (pattern, rest) ← upToMark mark true (rest.length + 1) rest
    let (replacement, rest) ← upToMark mark false (rest.length + 1) rest
    let flags := rest.takeWhile (· ≠ ';')
    if flags.any fun c => !("gixrRsShH".toList.contains c || c.isDigit) then none
    else
      let parsed := readPattern (flags.contains 'x') pattern (flags.contains 'i') false
      match parsed with
      | .ok (some p) =>
        let digits := flags.filter Char.isDigit
        let number := (String.ofList digits).toNat?.getD 1
        let choose (on off : Char) (usual : Bool) : Bool :=
          if flags.contains on then true else if flags.contains off then false else usual
        some (⟨p, ⟨some p, replacementParts (replacement.length + 1) replacement, number, flags.contains 'g', false,
          false, none⟩, choose 'r' 'R' usual.1, choose 'h' 'H' usual.2.1, choose 's' 'S' usual.2.2⟩,
          rest.drop (flags.length + 1))
      | _ => none
  | _ => none

/-- read replacements in names that semicolons separate -/
def readChanges : Nat → Bool × Bool × Bool → List Char → Option (List NameChange)
  | 0, _, _ => some []
  | n + 1, usual, cs =>
    if cs.isEmpty then some []
    else
      let mark := "flags=".toList
      if mark.isPrefixOf cs then
        let flags := (cs.drop mark.length).takeWhile (· ≠ ';')
        let usual := flags.foldl (fun (files, hard, symbolic) c =>
          match c with
          | 'r' => (true, hard, symbolic)
          | 'R' => (false, hard, symbolic)
          | 'h' => (files, true, symbolic)
          | 'H' => (files, false, symbolic)
          | 's' => (files, hard, true)
          | 'S' => (files, hard, false)
          | _ => (files, hard, symbolic)) (if flags.any Char.isLower then (false, false, false) else usual)
        readChanges n usual (cs.drop (mark.length + flags.length + 1))
      else do
        let (change, rest) ← readChange usual cs
        return change :: (← readChanges n usual rest)

/-- the name and the number of an owner -/
def owner? (text : String) : List Char × Nat :=
  match text.splitOn ":" with
  | [name, number] => (name.toList, number.toNat?.getD 0)
  | _ => match text.toNat? with
    | some n => (if n = 0 then "root".toList else [], n)
    | none => (text.toList, 0)

/-- the names of files of programs for versions -/
def versionNames : List String := ["CVS", ".cvsignore", "RCS", "SCCS", ".git", ".gitignore", ".gitattributes",
  ".gitmodules", ".arch-ids", "\x7barch\x7d", "=RELEASE-ID", "=meta-update", "=update", ".bzr", ".bzrignore",
  ".bzrtags", ".hg", ".hgignore", ".hgtags", "_darcs"]

/-- the formats by name -/
def formatNames : List (String × Format) := [("v7", .early), ("oldgnu", .extended), ("gnu", .extended),
  ("ustar", .standard), ("posix", .annotated), ("pax", .annotated)]

/-- ways to show names -/
def namedStyles : List String := ["literal", "shell", "shell-always", "shell-escape", "shell-escape-always", "c",
  "c-maybe", "escape", "locale", "clocale"]

/-- the moment that a text or the file of a path names, in seconds -/
def momentNamed (text : String) : Activity (Except String Int) := do
  let d ← disk
  if text.startsWith "/" || text.startsWith "." then
    match d.stat text with
    | .ok (_, node) => return .ok ((d.modifiedOf node : Int) / 1000000000)
    | .error f => return .error s!"{text}: Cannot stat: {f.message}"
  else
    match Calendar.readMomentIn? (← currentZone) d.now text with
    | some t => return .ok (t.fdiv 1000000000)
    | none => return .ok (-9223372036854775807)

/-- work is asked for; there can be only one -/
def Rules.ask (r : Rules) (work : Work) : Except Misuse Rules :=
  if r.work.isSome && r.work ≠ some work then
    .error ⟨"You may not specify more than one '-Acdtrux', '--delete' or  '--test-label' option", hint⟩
  else .ok { r with work := some work }

/-- add patterns that exclude -/
def Rules.excluding (r : Rules) (patterns : List (List Char)) : Rules :=
  { r with excludes := r.excludes ++ patterns.map fun p => (p, r.exclusion) }

/-- take an option without further effects into account -/
def Rules.withOption (r : Rules) (name value : String) : Except Misuse Rules :=
  let wrong (what : String) : Except Misuse Rules := .error ⟨s!"{value}: {what}", hint⟩
  match name with
  | "c" => r.ask .create
  | "r" => r.ask .append
  | "u" => r.ask .update
  | "A" => r.ask .join
  | "delete" => r.ask .delete
  | "x" => r.ask .extract
  | "t" => (r.ask .list).map fun r => { r with verbosity := r.verbosity + 1 }
  | "d" => r.ask .compare
  | "test-label" => r.ask .testLabel
  | "f" => .ok { r with archive := value }
  | "v" => .ok { r with verbosity := r.verbosity + 1 }
  | "O" => .ok { r with toOutput := true }
  | "to-command" => .ok { r with command := some value }
  | "P" => .ok { r with keepsLead := true }
  | "h" => .ok { r with follows := true }
  | "hard-dereference" => .ok { r with splitsLinks := true }
  | "z" => .ok { r with packs := true }
  | "I" => .ok { r with packs := true }
  | "a" => .ok { r with packsBySuffix := true }
  | "k" => .ok { r with clearing := .keeps }
  | "skip-old-files" => .ok { r with clearing := .skips }
  | "keep-newer-files" => .ok { r with clearing := .keepsNewer }
  | "overwrite" => .ok { r with clearing := .overwrites }
  | "overwrite-dir" => .ok { r with clearing := .usual }
  | "no-overwrite-dir" => .ok { r with clearing := .keepsDirs }
  | "U" => .ok { r with clearing := .unlinksFirst }
  | "recursive-unlink" => .ok { r with emptiesDirs := true }
  | "p" => .ok { r with keepsModes := true }
  | "no-same-permissions" => .ok { r with keepsModes := false }
  | "m" => .ok { r with keepsTimes := false }
  | "show-transformed-names" => .ok { r with showsChanged := true }
  | "show-stored-names" => .ok { r with showsChanged := true }
  | "numeric-owner" => .ok { r with showsNumbers := true }
  | "full-time" => .ok { r with showsSeconds := true }
  | "utc" => .ok { r with inUniversalTime := true }
  | "owner" => .ok { r with user := some (owner? value) }
  | "group" => .ok { r with group := some (owner? value) }
  | "remove-files" => .ok { r with removesFiles := true }
  | "i" => .ok { r with ignoresZeros := true }
  | "l" => .ok { r with checksLinks := true }
  | "w" => .ok { r with asks := true }
  | "one-top-level" => .ok { r with topDir := some value }
  | "V" => .ok { r with label := some value }
  | "R" => .ok { r with showsBlocks := true }
  | "ignore-failed-read" => .ok { r with toleratesUnreadable := true }
  | "W" => .ok { r with isVerified := true }
  | "totals" => .ok { r with showsTotals := true }
  | "show-omitted-dirs" => .ok { r with showsOmitted := true }
  | "backup" => .ok { r with backsUp := true }
  | "suffix" => .ok { r with backsUp := true }
  | "o" => .ok { r with format := .early }
  | "old-archive" => .ok { r with format := .early }
  | "portability" => .ok { r with format := .early }
  | "posix" => .ok { r with format := .annotated }
  | "H" => match formatNames.lookup value with
    | some format => .ok { r with format }
    | none => wrong "Invalid archive format"
  | "b" => match value.toNat? with
    | some n => if n = 0 then wrong "Invalid blocking factor" else .ok { r with blocking := n }
    | none => wrong "Invalid blocking factor"
  | "record-size" => match value.toNat? with
    | some n =>
      if n = 0 || n % blockLength ≠ 0 then .error ⟨"Record size must be a multiple of 512.", hint⟩
      else .ok { r with blocking := n / blockLength }
    | none => wrong "Invalid record size"
  | "strip-components" => match value.toNat? with
    | some n => .ok { r with strips := n }
    | none => wrong "Invalid number of elements"
  | "occurrence" => match if value = "" then some 1 else value.toNat? with
    | some n => .ok { r with occurrence := some n }
    | none => wrong "Invalid number"
  | "transform" | "xform" => match readChanges (value.length + 1) (true, true, true) value.toList with
    | some changes => .ok { r with changes := r.changes ++ changes }
    | none => .error ⟨"Invalid transform expression", hint⟩
  | "mode" =>
    if (Mode.changed? 0 false value 0).isSome then .ok { r with modeChange := some value }
    else .error ⟨"Invalid mode given on option", stopping⟩
  | "exclude" => .ok (r.excluding [value.toList])
  | "exclude-backups" => .ok (r.excluding ((["\x2e#*", "*~", "#*#"] : List String).map String.toList))
  | "exclude-vcs" => .ok (r.excluding (versionNames.map String.toList))
  | "exclude-caches" => .ok { r with omissions := r.omissions ++ [(.contents, "CACHEDIR.TAG", true)] }
  | "exclude-caches-under" => .ok { r with omissions := r.omissions ++ [(.below, "CACHEDIR.TAG", true)] }
  | "exclude-caches-all" => .ok { r with omissions := r.omissions ++ [(.all, "CACHEDIR.TAG", true)] }
  | "exclude-tag" => .ok { r with omissions := r.omissions ++ [(.contents, value, false)] }
  | "exclude-tag-under" => .ok { r with omissions := r.omissions ++ [(.below, value, false)] }
  | "exclude-tag-all" => .ok { r with omissions := r.omissions ++ [(.all, value, false)] }
  | "no-recursion" => .ok { r with descends := false }
  | "recursion" => .ok { r with descends := true }
  | "null" => .ok { r with nulNames := true, verbatimNames := true }
  | "no-null" => .ok { r with nulNames := false, verbatimNames := false }
  | "verbatim-files-from" => .ok { r with verbatimNames := true }
  | "no-verbatim-files-from" => .ok { r with verbatimNames := false }
  | "unquote" => .ok { r with unmarksNames := true }
  | "no-unquote" => .ok { r with unmarksNames := false }
  | "anchored" => .ok { r with anchors := some true }
  | "no-anchored" => .ok { r with anchors := some false }
  | "ignore-case" => .ok { r with ignoresCase := true }
  | "no-ignore-case" => .ok { r with ignoresCase := false }
  | "wildcards" => .ok { r with wildcards := some true }
  | "no-wildcards" => .ok { r with wildcards := some false }
  | "wildcards-match-slash" => .ok { r with crossesSlashes := true }
  | "no-wildcards-match-slash" => .ok { r with crossesSlashes := false }
  | "C" => .ok { r with namings := r.namings ++ [.dir value] }
  | "T" => .ok { r with namings := r.namings ++ [.listed value r.inclusion r.nulNames r.verbatimNames] }
  | "add-file" => .ok { r with namings := r.namings ++ [.name value.toList r.inclusion] }
  | "quoting-style" =>
    if namedStyles.contains value then .ok { r with isLiteral := value = "literal" }
    else .error ⟨s!"Unknown quoting style '{value}'. Try 'tar --quoting-style=help' to get a list.", stopping⟩
  | "sort" =>
    if ["none", "name", "inode"].any fun known => known.startsWith value then .ok r
    else .error ⟨s!"invalid argument '{value}' for '--sort'", "Valid arguments are:\n  - 'none'\n  - 'name'\n  - 'inode'\n"⟩
  | _ => .ok r

/-- take an option into account, of which some look at files -/
def Rules.plus (r : Rules) (name value : String) : Activity (Except Misuse Rules) := do
  let moment (f : Int → Rules) : Activity (Except Misuse Rules) := do
    match ← momentNamed value with
    | .ok t =>
      if t < -9223372036854775806 then
        Tool.complain "tar" s!"Substituting -9223372036854775807 for unknown date format {cited value}"
      return .ok (f t)
    | .error message => return .error ⟨message, stopping⟩
  match name with
  | "mtime" => moment fun t => { r with modified := some t }
  | "N" => moment fun t => { r with newerThan := some t, newerByChange := true }
  | "newer-mtime" => moment fun t => { r with newerThan := some t, newerByChange := false }
  | "X" =>
    match ← contentOf value with
    | .ok cs =>
      let patterns := (linesOf cs).map fun line => (line.reverse.dropWhile (· == ' ')).reverse
      return .ok (r.excluding (patterns.filter fun p => !p.isEmpty))
    | .error f => return .error ⟨s!"{value}: {f.message}", stopping⟩
  | _ => return r.withOption name value

/-- take arguments into account, one after the other -/
def Rules.plusAll (r : Rules) : List Argument → Activity (Except Misuse Rules)
  | [] => return .ok r
  | .operand text :: rest =>
    Rules.plusAll { r with namings := r.namings ++ [.name text.toList r.inclusion] } rest
  | .option name value :: rest => do
    match ← r.plus name value with
    | .ok r => r.plusAll rest
    | .error m => return .error m

/-! ### the first word -/

/-- letters without a dash, whose values are the words that follow -/
def spread : List Char → List String → Except Char (List String)
  | [], words => .ok words
  | c :: cs, words =>
    if valuedLetters.contains c then
      match words with
      | value :: rest => do
        return ("-" ++ c.toString) :: value :: (← spread cs rest)
      | [] => .error c
    else do return ("-" ++ c.toString) :: (← spread cs words)

/-- arguments whose first word may be letters without a dash -/
def spreadFirst (args : List String) : Except Char (List String) :=
  match args with
  | first :: rest =>
    if first.startsWith "-" || first = "" then .ok args else spread first.toList rest
  | [] => .ok []

end PatternBuild.Shell.Tool.Tape
