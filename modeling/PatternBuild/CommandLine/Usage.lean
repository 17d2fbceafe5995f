/-!
# Usage of a command line

A grammar reads the words, and tells about itself where they ask for help or are refused.
-/

/-!
## Usage: reading words by a grammar

A grammar lists the options of a command and the words it takes besides.  `Grammar.read` goes
through the words of a command line from left to right:

* `--name value`, `--name=value`, `-n value`, `-nvalue` and `-n=value` give an option its value;
* a switch takes no value, and neither a switch nor an option of one value is given twice;
* after `--` every word is a plain word.

A value that stands as a word of its own is checked only when the next option is met or the words
end, so a fault further on may come first.
-/

namespace PatternBuild.CommandLine

/-- why a command line is refused, or what it asks for instead of a command -/
inductive UsageFault where
  | showHelp
  | showVersion
  /-- nothing was given at all -/
  | nothingGiven
  | missingCommand
  | unknownCommand
  | unknownArgument
  | missingArgument
  | invalidValue
  | surplusValue
  /-- given twice -/
  | repeated
  deriving DecidableEq, Repr

/-! ### grammars -/

/-- which values are allowed -/
inductive ValueKind where
  | text
  /-- a path is not empty -/
  | path
  | oneOf (words : List String)
  deriving DecidableEq, Repr

def ValueKind.allows (k : ValueKind) (v : String) : Bool :=
  match k with
  | .text => true
  | .path => v != ""
  | .oneOf words => words.contains v

/-- what an option does with values -/
inductive OptionKind where
  | value (kind : ValueKind)
  /-- values separated by commas, any number of times -/
  | list (kind : ValueKind)
  | switch
  | help
  | version
  deriving DecidableEq, Repr

/-- an option of a command -/
structure OptionSpec where
  name : String
  short : Option Char
  kind : OptionKind
  /-- the environment variable that gives the value where the command line does not -/
  envVariable : Option String
  deriving DecidableEq, Repr

/-- the plain words of a command -/
inductive WordSpec where
  | none
  /-- one word -/
  | one (kind : ValueKind) (required : Bool)
  /-- at least one word -/
  | some
  deriving DecidableEq, Repr

/-- what a command takes -/
structure Grammar where
  options : List OptionSpec
  words : WordSpec
  deriving Repr

/-! ### values -/

/-- values by option name -/
abbrev Given := List (String × List String)

def Given.get? (g : Given) (name : String) : Option (List String) :=
  (g.find? (fun e => e.1 = name)).map (·.2)

def Given.add (g : Given) (name : String) (values : List String) : Given :=
  if g.any (fun e => e.1 = name) then
    g.map fun e => if e.1 = name then (name, e.2 ++ values) else e
  else g ++ [(name, values)]

/-- cut at commas -/
def cutList (v : String) : List String := v.splitOn ","

/-- give values to an option -/
def OptionSpec.give (o : OptionSpec) (values : List String) (g : Given) :
    Except UsageFault Given :=
  match o.kind with
  | .help => .error .showHelp
  | .version => .error .showVersion
  | .switch => if (g.get? o.name).isSome then .error .repeated else .ok (g.add o.name [])
  | .value kind =>
    if values.isEmpty then .error .invalidValue
    else if (g.get? o.name).isSome then .error .repeated
    else if values.all kind.allows then .ok (g.add o.name values)
    else .error .invalidValue
  | .list kind =>
    if values.isEmpty then .error .invalidValue
    else
      let values := values.flatMap cutList
      if values.all kind.allows then .ok (g.add o.name values) else .error .invalidValue

def OptionSpec.takesValue (o : OptionSpec) : Bool :=
  match o.kind with
  | .value _ => true
  | .list _ => true
  | _ => false

/-! ### reading -/

/-- where the reader stands -/
structure Progress where
  given : Given
  words : List String
  /-- an option whose value stands, or is still to stand, as a word of its own -/
  pending : Option (OptionSpec × List String)
  /-- a plain word that is not checked yet -/
  uncheckedWord : Bool
  /-- whether `--` was met -/
  plainOnly : Bool

def Progress.start : Progress := ⟨[], [], none, false, false⟩

/-- check what is not checked yet -/
def Progress.settle (g : Grammar) (p : Progress) : Except UsageFault Progress := do
  let p ← match p.pending with
    | none => pure p
    | some (o, values) => pure { p with given := ← o.give values p.given, pending := none }
  if p.uncheckedWord then
    match g.words with
    | .one kind _ =>
      if p.words.all kind.allows then return { p with uncheckedWord := false }
      else throw .invalidValue
    | _ => return { p with uncheckedWord := false }
  else return p

/-- meet an option, with a value attached or not -/
def Progress.meet (g : Grammar) (p : Progress) (o : OptionSpec) (attached : Option String) :
    Except UsageFault Progress := do
  let p ← p.settle g
  if o.takesValue then
    match attached with
    | some v => return { p with given := ← o.give [v] p.given }
    | none => return { p with pending := some (o, []) }
  else return { p with given := ← o.give [] p.given }

/-- read a group of short options -/
def Progress.shorts (g : Grammar) (p : Progress) : List Char → Except UsageFault Progress
  | [] => .ok p
  | c :: cs =>
    match g.options.find? (fun o => o.short = some c) with
    | none => .error .unknownArgument
    | some o =>
      if o.takesValue then
        match cs with
        | [] => p.meet g o none
        | '=' :: v => p.meet g o (some (String.ofList v))
        | v => p.meet g o (some (String.ofList v))
      else do shorts g (← p.meet g o none) cs

/-- read a long option -/
def Progress.long (g : Grammar) (p : Progress) (cs : List Char) : Except UsageFault Progress :=
  let name := String.ofList (cs.takeWhile (· ≠ '='))
  let attached := match cs.dropWhile (· ≠ '=') with
    | [] => none
    | _ :: v => some (String.ofList v)
  match g.options.find? (fun o => o.name = name) with
  | none => .error .unknownArgument
  | some o =>
    if attached.isSome && !o.takesValue then .error .surplusValue else p.meet g o attached

/-- whether an option waits for its value -/
def Progress.waits (p : Progress) : Bool :=
  match p.pending with
  | some (_, []) => true
  | _ => false

/-- take a plain word -/
def Progress.word (g : Grammar) (p : Progress) (w : String) : Except UsageFault Progress := do
  match g.words with
  | .none => throw .unknownArgument
  | .one _ _ =>
    if p.words.isEmpty then
      return { (← p.settle g) with words := [w], uncheckedWord := true }
    else throw .unknownArgument
  | .some =>
    let p ← p.settle g
    return { p with words := p.words ++ [w] }

/-- read one word of the command line -/
def Progress.step (g : Grammar) (p : Progress) (w : String) : Except UsageFault Progress :=
  if p.plainOnly then p.word g w
  else match w.toList with
    | ['-', '-'] => .ok { p with plainOnly := true }
    | '-' :: '-' :: cs => p.long g cs
    | '-' :: c :: cs => p.shorts g (c :: cs)
    | _ =>
      match p.pending with
      | some (o, []) => .ok { p with pending := some (o, [w]) }
      | _ => p.word g w

/-- the values that the environment gives to options without one -/
def fromEnvironment (env : List (String × String)) (g : Given) :
    List OptionSpec → Except UsageFault Given
  | [] => .ok g
  | o :: os =>
    match o.envVariable.bind (fun name => List.lookup name env) with
    | some v =>
      if (g.get? o.name).isSome then fromEnvironment env g os
      else do fromEnvironment env (← o.give [v] g) os
    | none => fromEnvironment env g os

/-- the values given on the command line, those with the environment's added, and the words -/
structure Reading where
  given : Given
  withEnvironment : Given
  words : List String

/-- check what is left when the words end -/
def Progress.finish (g : Grammar) (env : List (String × String)) (p : Progress) :
    Except UsageFault Reading := do
  let p ← p.settle g
  return ⟨p.given, ← fromEnvironment env p.given g.options, p.words⟩

/-- whether required words are there -/
def Grammar.complete (g : Grammar) (words : List String) : Bool :=
  match g.words with
  | .none => true
  | .one _ required => !required || !words.isEmpty
  | .some => !words.isEmpty

/-- read the words of a command -/
def Grammar.read (g : Grammar) (env : List (String × String)) (ws : List String) :
    Except UsageFault Reading := do
  let p ← ws.foldlM (Progress.step g) .start
  let r ← p.finish g env
  if g.complete r.words then return r else throw .missingArgument

end PatternBuild.CommandLine

/-!
## Messages about command lines

What is shown where a command line asks for help, or is refused.
-/

namespace PatternBuild.CommandLine

/-- the version of the tool -/
def version : String := "0.1.0"

/-- how the tool is called -/
def usage : String :=
  "Build files from pattern rules and rebuild them when sources change.\n\n" ++
  "Usage: poul [OPTIONS] <COMMAND>\n\n" ++
  "Commands:\n" ++
  "  dump                Print the parsed steps and templates\n" ++
  "  check               Check the hooks of the templates\n" ++
  "  compile <SOURCE>... Run every step that reads a source\n" ++
  "  build <DEST>...     Build each destination\n" ++
  "  run <TEMPLATE>      Run a template with its hooks\n" ++
  "  watch [DIR]         Rebuild what changes in a directory\n\n" ++
  "Options:\n" ++
  "  -f, --file <PATH>        Path to the rule file\n" ++
  "      --settings <PATH>    Path to the settings file\n" ++
  "      --log-level <LEVEL>  error, warn, info, debug or trace\n" ++
  "  -h, --help               Print help\n" ++
  "  -V, --version            Print version\n"

namespace UsageFault

/-- whether only a text was asked for -/
def isRequest : UsageFault → Bool
  | .showHelp => true
  | .showVersion => true
  | _ => false

def message : UsageFault → String
  | .showHelp => usage
  | .showVersion => "poul " ++ version ++ "\n"
  | .nothingGiven => usage
  | .missingCommand => "error: a command is missing\n"
  | .unknownCommand => "error: the command is not known\n"
  | .unknownArgument => "error: an argument was not expected\n"
  | .missingArgument => "error: a required argument is missing\n"
  | .invalidValue => "error: a value is missing or not allowed\n"
  | .surplusValue => "error: a value was not expected\n"
  | .repeated => "error: an option was given more than once\n"

end UsageFault

end PatternBuild.CommandLine
