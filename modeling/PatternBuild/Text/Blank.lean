/-!
# White space, trimming and lines

`isBlank` is the Unicode property `White_Space`.  `trim` removes blanks on both sides, and `lines`
ends a line at every line feed, which it drops together with one carriage return before it.
-/

namespace PatternBuild.Text

/-! ## the property -/

/-- the Unicode property `White_Space` -/
def isBlank (c : Char) : Bool :=
  let n := c.toNat
  (9 ≤ n && n ≤ 13) || n == 0x20 || n == 0x85 || n == 0xA0 || n == 0x1680 ||
    (0x2000 ≤ n && n ≤ 0x200A) || n == 0x2028 || n == 0x2029 || n == 0x202F || n == 0x205F ||
    n == 0x3000

/-! ## trimming -/

/-- drop leading blanks -/
def trimStart (cs : List Char) : List Char := cs.dropWhile isBlank

/-- drop trailing blanks -/
def trimEnd (cs : List Char) : List Char := (cs.reverse.dropWhile isBlank).reverse

/-- drop blanks on both sides -/
def trim (cs : List Char) : List Char := trimEnd (trimStart cs)

theorem trim_nil : trim [] = [] := rfl

/-! ## lines -/

/-- put a character in front of the first line -/
def consHead (c : Char) : List (List Char) → List (List Char)
  | [] => [[c]]
  | l :: ls => (c :: l) :: ls

/-- the lines of a text; nothing after the last line feed is no line -/
def lines : List Char → List (List Char)
  | [] => []
  | '\r' :: '\n' :: cs => [] :: lines cs
  | '\n' :: cs => [] :: lines cs
  | c :: cs => consHead c (lines cs)

theorem lines_nil : lines [] = [] := rfl
theorem lines_newline (cs : List Char) : lines ('\n' :: cs) = [] :: lines cs := rfl

/-! ## cutting at a separator -/

/-- the pieces between the characters satisfying `p`; always at least one -/
def splitOn (p : Char → Bool) : List Char → List (List Char)
  | [] => [[]]
  | c :: cs => if p c then [] :: splitOn p cs else consHead c (splitOn p cs)

theorem splitOn_nil (p : Char → Bool) : splitOn p [] = [[]] := rfl

theorem splitOn_ne_nil (p : Char → Bool) (cs : List Char) : splitOn p cs ≠ [] := by
  cases cs with
  | nil => simp [splitOn]
  | cons c cs =>
    unfold splitOn
    split
    · simp
    · cases splitOn p cs <;> simp [consHead]

/-- the part before the first occurrence of `needle` and the part after it -/
def cutAt (needle : List Char) : List Char → Option (List Char × List Char)
  | [] => if needle.isEmpty then some ([], []) else none
  | c :: cs =>
    if needle.isPrefixOf (c :: cs) then some ([], (c :: cs).drop needle.length)
    else (cutAt needle cs).map fun (before, after) => (c :: before, after)

/-- whether `needle` occurs -/
def contains (needle cs : List Char) : Bool := (cutAt needle cs).isSome

/-- the text without its last piece, if that piece is `ending` -/
def stripEnd (ending cs : List Char) : Option (List Char) :=
  if ending.isSuffixOf cs then some (cs.take (cs.length - ending.length)) else none

end PatternBuild.Text
