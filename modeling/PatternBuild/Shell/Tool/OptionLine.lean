import PatternBuild.Shell.Tool.Basic

/-!
# Option lines: options that scripts describe themselves

`getopt` reads arguments by a description of options and prints them in a form that scripts can take
apart: the options first, each value behind its option, then two dashes and the operands.
-/

namespace PatternBuild.Shell.Tool

open Activity

namespace OptionLine

/-- what is done with arguments that are no options -/
inductive OperandRule where
  /-- they are put behind the options -/
  | moved
  /-- the first one ends the options -/
  | stops
  /-- they are printed where they stand -/
  | kept
  deriving DecidableEq, Repr

/-- a description of options -/
structure Description where
  letters : List (Char × ValueRule)
  names : List (String × ValueRule)
  rule : OperandRule
  /-- whether long options may have one dash -/
  isLoose : Bool
  /-- whether a colon at the start keeps complaints away -/
  isQuiet : Bool

/-- an argument as it is understood -/
inductive Item where
  | letter (c : Char) (value : Option String)
  | name (text : String) (value : Option String)
  | operand (text : String)

/-- the rule that colons describe -/
def valueRule (cs : List Char) : ValueRule × List Char :=
  match cs with
  | ':' :: ':' :: rest => (.maybe, rest)
  | ':' :: rest => (.always, rest)
  | rest => (.never, rest)

/-- the letters of a description, in at most `n` steps -/
def readLetters : Nat → List Char → List (Char × ValueRule)
  | 0, _ => []
  | n + 1, cs =>
    match cs with
    | [] => []
    | c :: rest =>
      let (rule, rest) := valueRule rest
      (c, rule) :: readLetters n rest

/-- the letters of a description behind a sign that tells about operands -/
def descriptionOf (text : String) (names : List (String × ValueRule)) (isLoose stopsFirst : Bool) :
    Description :=
  let size := text.length + 1
  let isQuiet (cs : List Char) : Bool := cs.head? == some ':'
  match text.toList with
  | '+' :: rest => ⟨readLetters size rest, names, .stops, isLoose, isQuiet rest⟩
  | '-' :: rest => ⟨readLetters size rest, names, .kept, isLoose, isQuiet rest⟩
  | cs => ⟨readLetters size cs, names, if stopsFirst then .stops else .moved, isLoose, isQuiet cs⟩

/-- a long option with the rule that its colons describe -/
def nameOf (text : String) : String × ValueRule :=
  let cs := text.toList
  let colons := (cs.reverse.takeWhile (· == ':')).take 2
  let name := String.ofList (cs.take (cs.length - colons.length))
  (name, if colons.length = 2 then .maybe else if colons.length = 1 then .always else .never)

namespace Description

/-- the rule of a letter -/
def letter? (d : Description) (c : Char) : Option ValueRule :=
  if c == ':' || c == ';' then none else d.letters.lookup c

/-- the long options that a name may mean -/
def meant (d : Description) (name : String) : List (String × ValueRule) :=
  match d.names.find? (·.1 = name) with
  | some found => [found]
  | none => d.names.filter fun (full, _) => full.startsWith name

/-- read the letters of one word -/
def readWord (d : Description) : List Char → List String → List (Except String Item) × List String
  | [], rest => ([], rest)
  | c :: cs, rest =>
    match d.letter? c with
    | none =>
      let (items, rest) := d.readWord cs rest
      (.error s!"invalid option -- '{c}'" :: items, rest)
    | some .never =>
      let (items, rest) := d.readWord cs rest
      (.ok (.letter c none) :: items, rest)
    | some .maybe => ([.ok (.letter c (some (String.ofList cs)))], rest)
    | some .always =>
      if !cs.isEmpty then ([.ok (.letter c (some (String.ofList cs)))], rest)
      else
        match rest with
        | v :: rest => ([.ok (.letter c (some v))], rest)
        | [] => ([.error s!"option requires an argument -- '{c}'"], [])

/-- read a long option behind its dashes; nothing if it may be letters -/
def readName (d : Description) (dashes : String) (text : List Char) (rest : List String)
    (mayBeLetters : Bool) : Option (Except String Item × List String) :=
  let name := String.ofList (text.takeWhile (· ≠ '='))
  let value? := (text.drop name.length).head?.map fun _ => String.ofList (text.drop (name.length + 1))
  let called := dashes ++ String.ofList text
  match d.meant name with
  | [] =>
    if mayBeLetters then none
    else some (.error s!"unrecognized option '{called}'", rest)
  | (full, rule) :: others =>
    if !others.isEmpty then
      let all := String.join (((full, rule) :: others).map fun (n, _) => s!" '{dashes}{n}'")
      some (.error s!"option '{called}' is ambiguous; possibilities:{all}", rest)
    else
      let shown := dashes ++ full
      match rule, value?, rest with
      | .never, some _, rest => some (.error s!"option '{shown}' doesn't allow an argument", rest)
      | .never, none, rest => some (.ok (.name full none), rest)
      | .maybe, value, rest => some (.ok (.name full (some (value.getD ""))), rest)
      | .always, some value, rest => some (.ok (.name full (some value)), rest)
      | .always, none, value :: rest => some (.ok (.name full (some value)), rest)
      | .always, none, [] => some (.error s!"option '{shown}' requires an argument", [])

/-- read arguments in at most `n` steps; the outcome holds the options and those operands that stay
among them, and the operands behind them -/
def read (d : Description) : Nat → List String → List (Except String Item) × List String
  | 0, args => ([], args)
  | n + 1, args =>
    match args with
    | [] => ([], [])
    | "--" :: rest => ([], rest)
    | a :: rest =>
      match a.toList with
      | '-' :: '-' :: cs =>
        match d.readName "--" cs rest false with
        | some (item, rest) =>
          let (items, operands) := d.read n rest
          (item :: items, operands)
        | none => d.read n rest
      | '-' :: c :: cs =>
        let (items, rest) :=
          if d.isLoose && (!cs.isEmpty || (d.letter? c).isNone) then
            match d.readName "-" (c :: cs) rest (d.letter? c).isSome with
            | some (item, rest) => ([item], rest)
            | none => d.readWord (c :: cs) rest
          else d.readWord (c :: cs) rest
        let (more, operands) := d.read n rest
        (items ++ more, operands)
      | _ =>
        match d.rule with
        | .stops => ([], args)
        | .kept =>
          let (items, operands) := d.read n rest
          (.ok (.operand a) :: items, operands)
        | .moved =>
          let (items, operands) := d.read n rest
          (items, a :: operands)

end Description

/-! ## writing -/

/-- how values are quoted -/
inductive Quoting where
  | none
  /-- for the shells that this library runs, or for those of the other family -/
  | usual
  | other
  deriving DecidableEq, Repr

/-- a value behind a blank -/
def valueText (q : Quoting) (text : String) : String :=
  let spelled (c : Char) : List Char :=
    match q, c with
    | _, '\'' => "'\\''".toList
    | .usual, _ => [c]
    | .other, '\\' => "\\\\".toList
    | .other, '!' => "'\\!'".toList
    | .other, '\n' => "\\n".toList
    | .other, _ => if c == ' ' || (9 ≤ c.toNat && c.toNat ≤ 13) then '\'' :: '\\' :: c :: ['\''] else [c]
    | .none, _ => [c]
  match q with
  | .none => " " ++ text
  | _ => " '" ++ String.ofList (text.toList.flatMap (spelled ·)) ++ "'"

def Item.text (q : Quoting) : Item → String
  | .letter c value => s!" -{c}" ++ (value.map (valueText q)).getD ""
  | .name text value => " --" ++ text ++ (value.map (valueText q)).getD ""
  | .operand text => valueText q text

/-- what `getopt` is told to do -/
structure Rules where
  description : Description
  name : String
  isSilent : Bool
  printsNothing : Bool
  quoting : Quoting

/-- read arguments and print them in order -/
def Rules.print (r : Rules) (args : List String) : Activity Nat := do
  let (items, operands) := r.description.read (args.length + 1) args
  let mut code := 0
  for item in items do
    match item with
    | .ok item => if !r.printsNothing then Tool.say (item.text r.quoting)
    | .error message =>
      if !r.isSilent && !r.description.isQuiet then tell s!"{r.name}: {message}\n"
      code := 1
  if !r.printsNothing then
    Tool.say (" --" ++ String.join (operands.map (valueText r.quoting)) ++ "\n")
  return code

/-- the names in a list of long options -/
def namesOf (text : String) : List String :=
  (text.splitToList fun c => c == ',' || c == ' ' || c == '\t' || c == '\n').filter (· ≠ "")

end OptionLine

open OptionLine in
def getopt (args : List String) : Activity Nat := do
  let stopsFirst := (((← own).environment).lookup "POSIXLY_CORRECT").isSome
  let isOld := (((← own).environment).lookup "GETOPT_COMPATIBLE").isSome
  match args with
  | [] =>
    if isOld then
      Tool.say " --\n"
      return 0
    misuse "getopt" "missing optstring argument" 2
  | first :: rest =>
    if isOld || !first.startsWith "-" then
      let letters := String.ofList (first.toList.dropWhile fun c => c == '-' || c == '+')
      return ← (Rules.mk (descriptionOf letters [] false stopsFirst) "getopt" false false .none).print rest
    let rules : OptionRules := { OptionRules.of "ahquQTV" "lnos" [("options", "o", .always),
      ("longoptions", "l", .always), ("quiet", "q", .never), ("quiet-output", "Q", .never),
      ("shell", "s", .always), ("test", "T", .never), ("unquoted", "u", .never), ("help", "h", .never),
      ("alternative", "a", .never), ("name", "n", .always), ("version", "V", .never)] with
      mixes := false }
    withOptions "getopt" rules 2 args fun g => do
    if g.has "T" then return 4
    if g.has "V" then
      Tool.say "getopt from util-linux 2.38.1\n"
      return 0
    if (g.values "l").any fun text => (namesOf text).any (·.startsWith ":") then
      return ← misuse "getopt" "empty long option after -l or --long argument" 2
    let shells := ["sh", "bash", "csh", "tcsh"]
    if (g.values "s").any fun text => !shells.contains text then
      return ← misuse "getopt" "unknown shell after -s or --shell argument" 2
    let (letters?, rest) := match g.value? "o", g.operands with
      | some letters, rest => (some letters, rest)
      | none, letters :: rest => (some letters, rest)
      | none, [] => (none, [])
    match letters? with
    | none => misuse "getopt" "missing optstring argument" 2
    | some letters =>
      let names := (g.values "l").flatMap namesOf |>.map nameOf
      let isOther := (g.value? "s").any fun text => text.endsWith "csh"
      (Rules.mk (descriptionOf letters names (g.has "a") stopsFirst) ((g.value? "n").getD "getopt")
        (g.has "q") (g.has "Q") (if g.has "u" then .none else if isOther then .other else .usual)).print rest

end PatternBuild.Shell.Tool
