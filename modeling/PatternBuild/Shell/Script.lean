/-!
# Scripts: the language of step bodies

A word is a list of pieces, which are texts with or without quotes and expansions; a command is
built from words, redirections and other commands.  All are declared together because an expansion
may hold a command.
-/

namespace PatternBuild.Shell

/-- which parts of a value are replaced -/
inductive ReplaceScope where
  | first
  | all
  | atStart
  | atEnd
  deriving DecidableEq, Repr

/-- a change of letters -/
inductive LetterChange where
  | upper
  | lower
  /-- upper letters become lower ones, and the other way round -/
  | swapped
  /-- the first one upper, the others lower -/
  | capital
  deriving DecidableEq, Repr

/-- what is done with the value of a parameter; with `orEmpty` an empty value counts as none -/
inductive ParamUse where
  | value
  | length
  /-- the word in place of no value -/
  | default (orEmpty : Bool)
  /-- the word in place of no value, which is also assigned -/
  | assign (orEmpty : Bool)
  /-- no value is a fault, told by the word -/
  | demand (orEmpty : Bool)
  /-- the word in place of a value -/
  | alternative (orEmpty : Bool)
  /-- the value without what the word matches at its start or end -/
  | cut (atEnd longest : Bool)
  /-- the characters from the first word on, as many as the second says -/
  | slice
  /-- the value with the second word in place of what the first matches -/
  | replace (scope : ReplaceScope)
  /-- the value in other letters, all or the first, where the word matches -/
  | recase (change : LetterChange) (all : Bool)
  /-- the value in another form, named by a letter -/
  | transform (letter : Char)
  /-- the names of the parameters that start with the given one -/
  | names
  /-- the keys of an array -/
  | keys
  /-- no use is known by what is written -/
  | unknown
  deriving DecidableEq, Repr

/-- where a redirection leads -/
inductive RedirectKind where
  | input
  | output
  /-- a file that is written even if files that are there are kept -/
  | replace
  | append
  | both
  /-- another descriptor -/
  | duplicate
  /-- the word itself is read -/
  | text
  /-- a file for what is printed and for what is told -/
  | outputAll
  | appendAll
  deriving DecidableEq, Repr

/-- which descriptor a redirection changes -/
inductive DescriptorName where
  | number (n : Nat)
  /-- a free one, whose number goes into a variable -/
  | variable (name : String)
  deriving DecidableEq, Repr

/-- how an arm of a selection ends -/
inductive ArmEnd where
  | leave
  /-- the commands of the next arm run too -/
  | fallThrough
  /-- the next arms are looked at too -/
  | goOn
  deriving DecidableEq, Repr

mutual

/-- a piece of a word -/
inductive Piece where
  /-- text outside quotes -/
  | plain (text : String)
  /-- text whose characters mean themselves -/
  | quoted (text : String)
  /-- pieces between double quotes -/
  | double (pieces : List Piece)
  /-- a parameter, or an element of an array, and what is done with its value; an indirect one
  holds the name of the parameter that is meant -/
  | param (name : String) (index : Option (List Piece)) (isIndirect : Bool) (use : ParamUse)
      (words : List (List Piece))
  /-- what a command prints -/
  | output (command : Command)
  /-- the value of an expression -/
  | arithmetic (pieces : List Piece)
  /-- the path of a pipe from or to a command -/
  | process (isRead : Bool) (command : Command)
  /-- an element that is assigned, at the start of a word -/
  | element (name : String) (index : List Piece) (isAppended : Bool)
  /-- the elements of an array that is assigned -/
  | elements (items : List (List Piece))

/-- a change of a descriptor for one command -/
inductive Redirect where
  | mk (descriptor : DescriptorName) (kind : RedirectKind) (word : List Piece)

/-- a variable, or an element of one, that gets a value; with `isAppended` at the end of the one
that it has -/
inductive Assignment where
  | mk (name : String) (index : Option (List Piece)) (isAppended : Bool) (value : List Piece)

/-- a condition between double brackets -/
inductive Condition where
  | unary (op : String) (word : List Piece)
  | binary (op : String) (left right : List Piece)
  | negated (c : Condition)
  | both (a b : Condition)
  | either (a b : Condition)
  /-- in parentheses -/
  | grouped (c : Condition)

/-- a command; some commands come with the number of their line and with their own text -/
inductive Command where
  | nothing
  | simple (line : Nat) (shown : String) (assigns : List Assignment) (words : List (List Piece))
      (redirects : List Redirect)
  | pipeline (stages : List Command)
  | negated (command : Command)
  /-- a command whose time is told -/
  | timed (isPlain : Bool) (command : Command)
  /-- the second runs if the first succeeds -/
  | andThen (first second : Command)
  /-- the second runs if the first fails -/
  | orElse (first second : Command)
  | sequence (first second : Command)
  | background (shown : String) (command : Command)
  | choice (condition yes no : Command)
  /-- runs the body while the condition does not end as `ending` says -/
  | loop (ending : Bool) (condition body : Command)
  /-- runs the body for every word; without words for every argument -/
  | forEach (line : Nat) (shown : String) (name : String) (words : Option (List (List Piece))) (body : Command)
  /-- computes the first expression, then runs the body and computes the third one while the second
  is not zero -/
  | counting (line : Nat) (start test step : List Piece) (body : Command)
  /-- asks for one of the words and runs the body, over and over -/
  | menu (name : String) (words : Option (List (List Piece))) (body : Command)
  | select (line : Nat) (shown : String) (word : List Piece)
      (arms : List (List (List Piece) × Command × ArmEnd))
  | subshell (command : Command)
  /-- commands between braces -/
  | group (command : Command)
  /-- a command that runs beside the shell, with pipes from and to it -/
  | coprocess (shown name : String) (command : Command)
  | redirected (line : Nat) (command : Command) (redirects : List Redirect)
  /-- names its body; the text is that of the whole function -/
  | function (name shown : String) (body : Command)
  | condition (line : Nat) (shown : String) (test : Condition)
  /-- succeeds if the expression is not zero -/
  | compute (line : Nat) (shown : String) (expression : List Piece)

end

/-- a word -/
abbrev Word := List Piece

instance : Inhabited Command := ⟨.nothing⟩

/-- the text of a word without quotes and expansions -/
def plainText? : Word → Option String
  | [.plain s] => some s
  | _ => none

/-- a simple command of given words -/
def Command.ofArgs (args : List String) : Command :=
  .simple 0 (" ".intercalate args) [] (args.map fun a => [.quoted a]) []

def Command.isSimple : Command → Bool
  | .simple _ _ _ _ _ => true
  | _ => false

/-- whether the last thing that a command runs is a simple command, if it runs to its end -/
def Command.endsSimply : Command → Bool
  | .simple _ _ _ _ _ => true
  | .sequence _ b => b.endsSimply
  | .andThen _ b => b.endsSimply
  | .orElse _ b => b.endsSimply
  | _ => false

/-- a command whose own text is told -/
def Command.withText (text : String) : Command → Command
  | .simple line _ assigns words redirects => .simple line text assigns words redirects
  | .forEach line _ name words body => .forEach line text name words body
  | .select line _ word arms => .select line text word arms
  | .condition line _ test => .condition line text test
  | .compute line _ expression => .compute line text expression
  | .redirected line c redirects => .redirected line (c.withText text) redirects
  | .coprocess _ name c => .coprocess text name c
  | c => c

/-! ## names -/

def isNameStart (c : Char) : Bool := c.isAlpha || c == '_'

def isNameChar (c : Char) : Bool := c.isAlphanum || c == '_'

/-- whether a text can be the name of a variable -/
def isName (cs : List Char) : Bool :=
  match cs with
  | c :: rest => isNameStart c && rest.all isNameChar
  | [] => false

end PatternBuild.Shell
