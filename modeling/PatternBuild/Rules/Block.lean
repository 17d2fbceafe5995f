import PatternBuild.Text.Blank
import PatternBuild.Fault

/-!
# Blocks: a rule file cut up by its braces

Lines are trimmed; blank lines and lines starting with `#` do not count, and the rest are the
significant lines.  A block is a line ending in an opening brace, the body lines after it, and a
line that is a closing brace.  `readBlocks` cuts significant lines into blocks as far as they go
and says what stopped it, if anything did.
-/

namespace PatternBuild

open Text

/-! ## significant lines -/

/-- a trimmed line with its number in the file, counted from 1 -/
structure Line where
  number : Nat
  text : List Char
  deriving DecidableEq, Repr

/-- whether a trimmed line counts -/
def isSignificant (text : List Char) : Bool := !text.isEmpty && text.head? != some '#'

/-- trimmed lines, numbered from `n` -/
def numbered (n : Nat) : List (List Char) → List Line
  | [] => []
  | l :: ls => ⟨n, trim l⟩ :: numbered (n + 1) ls

/-- the lines of a text that count -/
def significantLines (text : List Char) : List Line :=
  (numbered 1 (lines text)).filter (isSignificant ·.text)

/-! ## blocks -/

/-- a header, the line it stands on, and the body lines up to the closing brace -/
structure Block where
  header : List Char
  line : Nat
  body : List (List Char)
  deriving DecidableEq, Repr

/-- the text before the brace that opens a block -/
def opening? (text : List Char) : Option (List Char) := stripEnd ['\x7b'] text

def isClosing (text : List Char) : Bool := text = ['\x7d']

def Block.addLine (b : Block) (text : List Char) : Block := { b with body := b.body ++ [text] }

/-- cut lines into blocks, `current` being open already -/
def readBlocksFrom (current : Option Block) : List Line → List Block × Option Fault
  | [] =>
    match current with
    | none => ([], none)
    | some b => ([], some (.unterminatedBlock b.line))
  | l :: ls =>
    match current with
    | none =>
      match opening? l.text with
      | none => ([], some (.malformed l.number .expectedBlock))
      | some header => readBlocksFrom (some ⟨trim header, l.number, []⟩) ls
    | some b =>
      if isClosing l.text then
        let (rest, fault) := readBlocksFrom none ls
        (b :: rest, fault)
      else readBlocksFrom (some (b.addLine l.text)) ls

/-- the blocks of a sequence of lines, and the fault that ended the reading -/
def readBlocks (ls : List Line) : List Block × Option Fault := readBlocksFrom none ls

theorem readBlocks_nil : readBlocks [] = ([], none) := rfl

end PatternBuild
