import PatternBuild.Shell.Variables

/-!
# Switches: options of shells

An option is on or off.  Every language has a table of options, all of which have names and some of
which have letters; the language with extensions has settings besides, which have names only.  What
is on is kept in the process: the options on which much depends have places of their own, and the
others are in a list of names.
-/

namespace PatternBuild.Shell

/-! ## tables -/

/-- the options of the plain language, in the order in which they are listed -/
def plainSwitches : List (String × Option Char) :=
  [("errexit", 'e'), ("noglob", 'f'), ("ignoreeof", 'I'), ("interactive", 'i'), ("monitor", 'm'),
    ("noexec", 'n'), ("stdin", 's'), ("xtrace", 'x'), ("verbose", 'v'), ("vi", 'V'), ("emacs", 'E'),
    ("noclobber", 'C'), ("allexport", 'a'), ("notify", 'b'), ("nounset", 'u'), ("privileged", 'p'),
    ("nolog", none), ("debug", none)]

/-- the options of the language with extensions -/
def wideSwitches : List (String × Option Char) :=
  [("allexport", 'a'), ("braceexpand", 'B'), ("emacs", none), ("errexit", 'e'), ("errtrace", 'E'),
    ("functrace", 'T'), ("hashall", 'h'), ("histexpand", 'H'), ("history", none),
    ("ignoreeof", none), ("interactive-comments", none), ("keyword", 'k'), ("monitor", 'm'),
    ("noclobber", 'C'), ("noexec", 'n'), ("noglob", 'f'), ("nolog", none), ("notify", 'b'),
    ("nounset", 'u'), ("onecmd", 't'), ("physical", 'P'), ("pipefail", none), ("posix", none),
    ("privileged", 'p'), ("verbose", 'v'), ("vi", none), ("xtrace", 'x')]

/-- the settings of the language with extensions -/
def settingNames : List String :=
  ["autocd", "assoc_expand_once", "cdable_vars", "cdspell", "checkhash", "checkjobs",
    "checkwinsize", "cmdhist", "compat31", "compat32", "compat40", "compat41", "compat42",
    "compat43", "compat44", "complete_fullquote", "direxpand", "dirspell", "dotglob", "execfail",
    "expand_aliases", "extdebug", "extglob", "extquote", "failglob", "force_fignore",
    "globasciiranges", "globskipdots", "globstar", "gnu_errfmt", "histappend", "histreedit",
    "histverify", "hostcomplete", "huponexit", "inherit_errexit", "interactive_comments",
    "lastpipe", "lithist", "localvar_inherit", "localvar_unset", "login_shell", "mailwarn",
    "no_empty_cmd_completion", "nocaseglob", "nocasematch", "noexpand_translation", "nullglob",
    "patsub_replacement", "progcomp", "progcomp_alias", "promptvars", "restricted_shell",
    "shift_verbose", "sourcepath", "varredir_close", "xpg_echo"]

/-- what is on in the language with extensions unless it is switched off -/
def usualSettings : List String :=
  ["braceexpand", "hashall", "interactive-comments", "checkwinsize", "cmdhist",
    "complete_fullquote", "extquote", "force_fignore", "globasciiranges", "globskipdots",
    "hostcomplete", "interactive_comments", "patsub_replacement", "progcomp", "promptvars",
    "sourcepath"]

/-- settings by which the language is that of an earlier version -/
def earlierVersions : List String := settingNames.filter (·.startsWith "compat")

/-! ## switching -/

namespace Process

/-- the options that a process has -/
def switches (p : Process) : List (String × Option Char) :=
  if p.isExtended then wideSwitches else plainSwitches

/-- whether an option or a setting is on -/
def isOn (p : Process) (name : String) : Bool :=
  match name with
  | "errexit" => p.options.exitOnError
  | "nounset" => p.options.unsetIsFault
  | "noglob" => p.options.noFileNames
  | "noexec" => p.options.readOnly
  | "verbose" => p.options.verbose
  | "xtrace" => p.options.trace
  | "allexport" => p.options.exportAll
  | "noclobber" => p.options.noOverwrite
  | "pipefail" => p.options.failingPipes
  | name => p.settings.contains name

/-- the names among some that are on, between colons -/
def namesOn (p : Process) (names : List String) : String := ":".intercalate (names.filter p.isOn)

/-- a process whose variables tell which options and settings are on -/
def tellingSwitches (p : Process) : Process :=
  if !p.isExtended then p
  else
    let put (p : Process) (name text : String) : Process :=
      match p.bindings.get? name with
      | some v => { p with bindings := p.bindings.insert name { v with value := some (.text text) } }
      | none => p
    put (put p "SHELLOPTS" (p.namesOn (wideSwitches.map (·.1)))) "BASHOPTS" (p.namesOn settingNames)

/-- a process with some names among those that are on, or not -/
def withSetting (p : Process) (name : String) (on : Bool) : Process :=
  let others := p.settings.filter (· ≠ name)
  { p with settings := if on then name :: others else others }

/-- a process with an option or a setting on or off -/
def withSwitch (p : Process) (name : String) (on : Bool) : Process :=
  let o := p.options
  let p := match name with
    | "errexit" => { p with options := { o with exitOnError := on } }
    | "nounset" => { p with options := { o with unsetIsFault := on } }
    | "noglob" => { p with options := { o with noFileNames := on } }
    | "noexec" => { p with options := { o with readOnly := on } }
    | "verbose" => { p with options := { o with verbose := on } }
    | "xtrace" => { p with options := { o with trace := on } }
    | "allexport" => { p with options := { o with exportAll := on } }
    | "noclobber" => { p with options := { o with noOverwrite := on } }
    | "pipefail" => { p with options := { o with failingPipes := on } }
    | "interactive-comments" => (p.withSetting name on).withSetting "interactive_comments" on
    | "interactive_comments" => (p.withSetting name on).withSetting "interactive-comments" on
    -- there is nothing to log
    | "nolog" => if p.isExtended then p else p.withSetting name on
    | "vi" => (if on && p.isExtended then p.withSetting "emacs" false else p).withSetting name on
    | "emacs" => (if on && p.isExtended then p.withSetting "vi" false else p).withSetting name on
    | name => p.withSetting name on
  p.tellingSwitches

/-- a process with an option switched, by its name -/
def switchNamed? (p : Process) (name : String) (on : Bool) : Option Process :=
  if p.switches.any (·.1 = name) then some (p.withSwitch name on) else none

/-- a process with an option switched, by its letter -/
def switch? (p : Process) (letter : Char) (on : Bool) : Option Process :=
  if p.isExtended && letter == 'r' then some p
  else match p.switches.find? (·.2 == some letter) with
    | some ("vi", _) => some ((if on then p.withSetting "emacs" false else p).withSwitch "vi" on)
    | some ("emacs", _) => some ((if on then p.withSetting "vi" false else p).withSwitch "emacs" on)
    | some (name, _) => some (p.withSwitch name on)
    | none => none

/-- whether an option is on, by its name; false if there is none -/
def isOptionOn (p : Process) (name : String) : Bool :=
  p.switches.any (·.1 = name) && p.isOn name

/-- the options with their states, as they are listed -/
def optionTable (p : Process) : List (String × Bool) := p.switches.map fun (name, _) => (name, p.isOn name)

/-- the letters of the options that are on -/
def optionLetters (p : Process) : String :=
  let letters : List Char := p.switches.filterMap fun (name, letter) =>
    if p.isOn name then letter else none
  if p.isExtended then
    let lower := letters.filter Char.isLower
    let upper := letters.filter Char.isUpper
    let ordered (cs : List Char) : List Char := cs.mergeSort fun a b => a.toNat ≤ b.toNat
    let origin : List Char := match p.origin with
      | .text => ['c']
      | .input => ['s']
      | .file => []
    String.ofList (ordered lower ++ ordered upper ++ origin)
  else
    let isInput := p.origin == .input && !p.isOn "stdin"
    let letters := (p.switches.filterMap fun (name, letter) =>
      if p.isOn name || (name = "stdin" && isInput) then letter else none).reverse
    String.ofList letters

/-- a process with a setting on or off; some tell how the shell was started, and stay -/
def switchSetting (p : Process) (name : String) (on : Bool) : Process :=
  if name = "login_shell" || name = "restricted_shell" then p
  else if earlierVersions.contains name then
    let others := earlierVersions.foldl (fun p other => p.withSetting other false) p
    let version := if on then String.ofList (name.toList.drop 6) else "52"
    (others.withSwitch name on).bind "BASH_COMPAT" { Variable.none with value := some (.text version) }
  else p.withSwitch name on

end Process

/-! ## reading options in front of arguments -/

/-- options read from the front of arguments -/
structure OptionReading where
  process : Process
  /-- whether the arguments are those with which a shell starts -/
  isStart : Bool
  /-- whether a script follows as text, or is read from the input -/
  isCommand : Bool
  isInput : Bool
  /-- whether `--` or `-` ended the options -/
  isEnded : Bool
  /-- whether `-` ended them -/
  isDash : Bool
  /-- the lists of options that are asked for: whether each is one of commands -/
  lists : List Bool
  /-- why the rest was not read -/
  fault : Option String
  rest : List String

namespace OptionReading

/-- nothing read yet -/
def start (process : Process) (isStart : Bool) (args : List String) : OptionReading :=
  ⟨process, isStart, false, false, false, false, [], none, args⟩

/-- read the name of an option; without one, the options are listed -/
def name (on : Bool) (r : OptionReading) : OptionReading :=
  let isName (text : String) : Bool :=
    !r.process.isExtended || !(text = "" || text.startsWith "-" || text.startsWith "+")
  match r.rest with
  | name :: rest =>
    if !isName name then { r with lists := r.lists ++ [!on] }
    else match r.process.switchNamed? name on with
      | some process => { r with process, rest }
      | none =>
        { r with fault := some (if r.process.isExtended then s!"{name}: invalid option name"
            else "Illegal option -o " ++ name) }
  | [] => { r with lists := r.lists ++ [!on] }

/-- read the name of a setting -/
def setting (on : Bool) (r : OptionReading) : OptionReading :=
  match r.rest with
  | name :: rest =>
    if settingNames.contains name then { r with process := r.process.switchSetting name on, rest }
    else { r with fault := some s!"{name}: invalid shell option name" }
  | [] => r

/-- read a word of option letters -/
def letters (on : Bool) : List Char → OptionReading → OptionReading
  | [], r => r
  | c :: cs, r =>
    if r.fault.isSome then r
    else if c == 'o' then letters on cs (r.name on)
    else if r.isStart && c == 'c' then letters on cs { r with isCommand := true }
    else if r.isStart && c == 's' then letters on cs { r with isInput := true }
    else if r.isStart && r.process.isExtended && c == 'O' then letters on cs (r.setting on)
    else if r.isStart && (c == 'l' || (r.process.isExtended && (c == 'i' || c == 'D'))) then
      letters on cs r
    else match r.process.switch? c on with
      | some process => letters on cs { r with process }
      | none =>
        { r with fault := some (if r.process.isExtended then
            (if on then "-" else "+") ++ c.toString ++ ": invalid option"
          else s!"Illegal option -{c}") }

/-- read the options in front of at most `n` arguments -/
def read : Nat → OptionReading → OptionReading
  | 0, r => r
  | n + 1, r =>
    if r.fault.isSome then r
    else match r.rest with
    | [] => r
    | "--" :: rest => { r with rest := rest, isEnded := true }
    | "-" :: rest => { r with rest := rest, isEnded := true, isDash := true }
    | a :: rest =>
      match a.toList with
      | '-' :: cs => read n (letters true cs { r with rest := rest })
      | '+' :: c :: cs => read n (letters false (c :: cs) { r with rest := rest })
      | _ => r

end OptionReading

/-- read the options in front of some arguments -/
def readOptions (r : OptionReading) : OptionReading := r.read (r.rest.length + 1)

/-- the first option in front of some arguments that the language with extensions does not know, with
its sign -/
def unknownOption? (p : Process) : List String → Option String
  | [] => none
  | a :: rest =>
    match a.toList with
    | ['-', '-'] => none
    | sign :: c :: cs =>
      if sign == '-' || sign == '+' then
        let letters := (c :: cs).takeWhile (· ≠ 'o')
        match letters.find? fun c => c ≠ '?' && (p.switch? c true).isNone with
        | some c => some (String.ofList [sign, c])
        | none =>
          -- what follows this letter is a name
          let isNamed := letters.length + 1 = (c :: cs).length
          unknownOption? p (if isNamed && !(rest.headD "-").startsWith "-" then rest.drop 1 else rest)
      else none
    | _ => none
termination_by args => args.length
decreasing_by
  simp_wf
  split <;> grind

end PatternBuild.Shell
