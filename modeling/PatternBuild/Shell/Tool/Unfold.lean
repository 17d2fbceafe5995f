import PatternBuild.Shell.Tool.Unfolding.Builtins

/-!
# Unfolding text

`m4` copies text and puts what words stand for in their place.  The text for a word is read again, so that
words in it are unfolded too.
-/

namespace PatternBuild.Shell.Tool

namespace Unfolding

open Activity

/-! ## words -/

/-- the argument that was collected: a meaning that is built in if it came first -/
def argumentOf (seen : List (List Char)) : Option String → Meaning
  | some name => .builtin name
  | none => .text seen.reverse.flatten

/-- tell of a word that is watched -/
def watchWord (name : String) (args : List Meaning) (text : List Char) : Unfolder Unit := do
  let w ← get
  let has (c : Char) : Bool := w.watching.letters.contains c
  if !(w.watching.words.contains name || has 't') then return
  let quoted (cs : List Char) : String := String.ofList (if has 'q' then w.marks.quote cs else cs)
  let written : Meaning → String
    | .text cs => quoted cs
    | .builtin b => "<" ++ b ++ ">"
  let given := if args.isEmpty || !has 'a' then "" else "(" ++ ", ".intercalate (args.map written) ++ ")"
  let outcome := if text.isEmpty || !has 'e' then "" else " -> " ++ quoted text
  watch ((← watchHead) ++ name ++ given ++ outcome ++ "\n")

mutual

/-- what a token puts out -/
def unfoldToken : Nat → Token → Unfolder (List Char)
  | 0, _ => return []
  | _ + 1, .text cs => return cs
  | _ + 1, .char c => return [c]
  | _ + 1, .builtin _ => return []
  | _ + 1, .ended => return []
  | n + 1, .word cs => do
    let name := String.ofList cs
    match ← meaning? name with
    | none => return cs
    | some m =>
      let w ← get
      let isBare : Bool := match m with
        | .builtin b => (builtin? b).any (·.needsArguments) && !startsGroup w.marks w.feed
        | .text _ => false
      if isBare then return cs
      unfoldWord n name m
      return []
termination_by structural n => n

/-- put the text for a word in front of the feed -/
def unfoldWord : Nat → String → Meaning → Unfolder Unit
  | 0, _, _ => return
  | n + 1, name, m => do
    let start := (← get).feed
    modify fun w => { w with depth := w.depth + 1 }
    let takesMeanings := match m with
      | .builtin b => (builtin? b).any (·.takesMeanings)
      | .text _ => false
    let args ← arguments n takesMeanings
    let stop := (← get).feed
    let place (f : Feed) : Unfolder Unit :=
      modify fun w => { w with feed := { w.feed with origin := f.origin, line := f.line } }
    place start
    let text ← match m with
      | .builtin b => perform 1000 b ⟨name, args⟩
      | .text body => do
        let w ← get
        pure (filled w.marks (← read).isPlain (.text name.toList :: args) (body.length + 1) body)
    modify fun w => { w with feed := w.feed.push text }
    watchWord name args text
    place stop
    modify fun w => { w with depth := w.depth - 1 }
termination_by structural n => n

/-- the arguments of a word, if there are any -/
def arguments : Nat → Bool → Unfolder (List Meaning)
  | 0, _ => return []
  | n + 1, takesMeanings => do
    let w ← get
    if !startsGroup w.marks w.feed then return []
    discard take
    argumentsFrom n takesMeanings []
termination_by structural n => n

/-- the arguments up to the closing parenthesis; `seen` are those in front, the latest first -/
def argumentsFrom : Nat → Bool → List Meaning → Unfolder (List Meaning)
  | 0, _, seen => return seen.reverse
  | n + 1, takesMeanings, seen => do
    let (a, goesOn) ← argument n (← get).feed true 0 [] none
    let a := if takesMeanings then a else .text a.content
    if goesOn then argumentsFrom n takesMeanings (a :: seen) else return (a :: seen).reverse
termination_by structural n => n

/-- the rest of an argument, and whether another follows.  Blanks in front of it do not count; `depth` is
the number of parentheses that are open in it, and `seen` what it has so far -/
def argument : Nat → Feed → Bool → Nat → List (List Char) → Option String → Unfolder (Meaning × Bool)
  | 0, _, _, _, seen, found => return (argumentOf seen found, false)
  | n + 1, start, isFirst, depth, seen, found => do
    let (t, _) ← take
    match t with
    | .ended =>
      report start.origin start.line "ERROR: end of file in argument list"
      throw 1
    | .builtin name =>
      let isEmpty := seen.all List.isEmpty
      argument n start false depth seen (if isEmpty then some name else found)
    | .char c =>
      if isFirst && (c == ' ' || ('\t' ≤ c && c ≤ '\r')) then argument n start true depth seen found
      else if depth = 0 && (c == ',' || c == ')') then return (argumentOf seen found, c == ',')
      else
        let depth := if c == '(' then depth + 1 else if c == ')' then depth - 1 else depth
        argument n start false depth ([c] :: seen) found
    | t =>
      let cs ← unfoldToken n t
      argument n start false depth (cs :: seen) found
termination_by structural n => n

end

/-! ## whole texts -/

/-- unfold all that is in the feed -/
def unfoldAll : Nat → Unfolder Unit
  | 0 => return
  | n + 1 => do
    let (t, line) ← take
    if t = .ended then return
    let cs ← unfoldToken n t
    put line cs
    unfoldAll n

/-- unfold what was kept for the end -/
def unfoldWrapped : Nat → Unfolder Unit
  | 0 => return
  | n + 1 => do
    let w ← get
    if w.wrapped.isEmpty then return
    set { w with feed := { w.feed with blocks := w.wrapped }, wrapped := [] }
    unfoldAll endless
    unfoldWrapped n

/-- unfold a file, or the standard input -/
def unfoldFile (name : String) : Unfolder Unit := do
  let found ← if name = "-" then do
      pure ((← (contentOf "-" : Activity _)).map fun cs => ("stdin", cs))
    else contentFrom name
  match found with
  | .ok (path, cs) =>
    modify fun w => { w with feed := ⟨[.file path 1 cs], path, 1⟩, outLine := -1 }
    unfoldAll endless
  | .error f =>
    (Tool.complain "m4" s!"cannot open \x60{name}': {f.message}" : Activity _)
    modify fun w => { w with hasFailed := true }

/-! ## arguments -/

def options : OptionRules :=
  .of "EGPQegis" "BCDFHILMNRSTUWlot" [("arglength", "l", .always), ("debug", "debug", .maybe),
    ("debugfile", "o", .always), ("define", "D", .always), ("diversions", "N", .always),
    ("error-output", "o", .always), ("fatal-warnings", "E", .never), ("freeze-state", "F", .always),
    ("gnu", "g", .never), ("hashsize", "H", .always), ("help", "help", .never), ("include", "I", .always),
    ("interactive", "i", .never), ("nesting-limit", "L", .always), ("prefix-builtins", "P", .never),
    ("quiet", "Q", .never), ("reload-state", "R", .always), ("silent", "Q", .never),
    ("synclines", "s", .never), ("trace", "t", .always), ("traditional", "G", .never),
    ("undefine", "U", .always), ("version", "version", .never), ("word-regexp", "W", .always)]

/-- letters of what is told stand in the same word as their option -/
def withDebugWords (args : List String) : List String :=
  args.map fun a => if a = "-d" then "--debug" else if a.startsWith "-d" then "--debug=" ++ (a.drop 2).toString else a

/-- the meanings that are there from the start -/
def firstMeanings (isPlain hasPrefix : Bool) : Std.HashMap String (List Meaning) :=
  let known := builtins.filter fun b => !(isPlain && b.isExtra)
  let named := known.map fun b => ((if hasPrefix then "m4_" ++ b.name else b.name), [Meaning.builtin b.name])
  let marks := if isPlain then ["unix"] else ["__unix__", "__gnu__"]
  .ofList (named ++ marks.map fun name => (name, [Meaning.text []]))

/-- do what the arguments ask for one after the other -/
def unfoldArguments : List Argument → Unfolder Unit
  | [] => return
  | .operand name :: rest => do
    unfoldFile name
    unfoldArguments rest
  | .option name value :: rest => do
    match name with
    | "D" =>
      match splitAt? '=' value.toList with
      | (word, text) => define false (String.ofList word) (.text (text.getD []))
    | "U" => undefine true value
    | "s" => modify fun w => { w with marksLines := true }
    | "t" => modify fun w => { w with watching := { w.watching with words := value :: w.watching.words } }
    | _ => pure ()
    unfoldArguments rest

end Unfolding

open Activity Unfolding in
def m4 (programs : Programs) (args : List String) : Activity Nat := do
  match readArguments Unfolding.options (withDebugWords args) with
  | .error p =>
    Tool.complain "m4" p.message
    tell "Try \x60m4 --help' for more information.\n"
    return 1
  | .ok arguments =>
    let g := Given.ofArguments arguments
    if g.has "version" then
      Tool.say "m4 (GNU M4) 1.4.19\n"
      return 0
    let isPlain := g.has "G"
    let paths := (((← own).environment.lookup "M4PATH").getD "").splitOn ":" |>.filter (· ≠ "")
    let setting : Setting := ⟨programs, g.values "I" ++ (if isPlain then [] else paths), isPlain, g.has "Q",
      (g.options.filter (·.1 = "E")).length⟩
    let letters := match g.value? "debug" with
      | some text => (lettersFrom? [] text.toList).getD []
      | none => []
    let world : Unfolding.World := {
      feed := ⟨[], "", 0⟩
      marks := .usual
      meanings := firstMeanings isPlain (g.has "P")
      wrapped := []
      target := 0
      kept := []
      status := 0
      hasFailed := false
      watching := ⟨letters, [], some 2⟩
      depth := 0
      marksLines := false
      outLine := 0
      isAtStart := true }
    let work : Unfolder Unit := do
      unfoldArguments arguments
      if g.operands.isEmpty then unfoldFile "-"
      unfoldWrapped endless
      modify fun w => { w with target := 0 }
      bringAllBack
    match ← ((work.run setting).run world).run with
    | .error code => return code
    | .ok (_, w) => return if w.hasFailed then 1 else 0

end PatternBuild.Shell.Tool
