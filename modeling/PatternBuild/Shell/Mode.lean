import PatternBuild.Shell.Escape

/-!
# Modes: permissions as they are written

A mode is written as an octal number or as changes, each of which names users, an operator and
permissions.
-/

namespace PatternBuild.Shell.Mode

/-- the bits of users: their permissions and the special bit that goes with them -/
def usersBits : List Char → Nat
  | [] => 0
  | 'u' :: cs => 0o4700 ||| usersBits cs
  | 'g' :: cs => 0o2070 ||| usersBits cs
  | 'o' :: cs => 0o1007 ||| usersBits cs
  | _ :: cs => 0o7777 ||| usersBits cs

/-- the same permissions for all users -/
def forAll (bits : Nat) : Nat := bits * 0o111

/-- the bits that letters stand for in a mode -/
def permissionBits (old : Nat) (isDir : Bool) : List Char → Nat
  | [] => 0
  | c :: cs =>
    let bits := match c with
      | 'r' => 0o444
      | 'w' => 0o222
      | 'x' => 0o111
      | 'X' => if isDir || old &&& 0o111 ≠ 0 then 0o111 else 0
      | 's' => 0o6000
      | 't' => 0o1000
      | 'u' => forAll (old / 64 % 8)
      | 'g' => forAll (old / 8 % 8)
      | 'o' => forAll (old % 8)
      | _ => 0
    bits ||| permissionBits old isDir cs

/-- bits without others -/
def without (bits others : Nat) : Nat := bits - (bits &&& others)

/-- apply the operators of a change that names some users; `mask` holds the bits that users who are
not named do not get -/
def applyOperators (users : List Char) (mask : Nat) (isDir : Bool) :
    Nat → List Char → Nat → Option Nat
  | 0, _, mode => some mode
  | _ + 1, [], mode => some mode
  | n + 1, op :: cs, mode =>
    let letters := cs.takeWhile fun c => "rwxXstugo".toList.contains c
    let scope := if users.isEmpty then without 0o7777 mask else usersBits users
    let bits := permissionBits mode isDir letters &&& scope
    -- special bits of directories stay unless they are named
    let kept := if isDir then mode &&& 0o6000 else 0
    let next := match op with
      | '+' => some (mode ||| bits)
      | '-' => some (without mode bits)
      | '=' => some (without mode (if users.isEmpty then 0o7777 else usersBits users) ||| kept ||| bits)
      | _ => none
    next.bind fun mode => applyOperators users mask isDir n (cs.drop letters.length) mode

/-- apply one change -/
def applyChange (mask : Nat) (isDir : Bool) (text : List Char) (mode : Nat) : Option Nat :=
  let users := text.takeWhile fun c => "ugoa".toList.contains c
  let operators := text.drop users.length
  if operators.isEmpty then none
  else applyOperators users mask isDir (operators.length + 1) operators mode

/-- a mode after what a text writes; none if it writes no mode -/
def changed? (mask : Nat) (isDir : Bool) (text : String) (mode : Nat) : Option Nat :=
  if !text.isEmpty && text.toList.all Char.isDigit then
    (numeral? 8 text.toList).bind fun n => if n ≤ 0o7777 then some n else none
  else (text.splitOn ",").foldlM (fun mode change => applyChange mask isDir change.toList mode) mode

/-- a number by octal digits -/
def octal (width n : Nat) : String :=
  let digits := Nat.toDigits 8 n
  String.ofList (List.replicate (width - digits.length) '0' ++ digits)

/-- permissions of one kind of users -/
def letters (bits : Nat) : String :=
  String.ofList (([(4, 'r'), (2, 'w'), (1, 'x')].filter fun (b, _) => bits &&& b ≠ 0).map (·.2))

/-- permissions as changes that give them -/
def symbolic (mode : Nat) : String :=
  s!"u={letters (mode / 64 % 8)},g={letters (mode / 8 % 8)},o={letters (mode % 8)}"

end PatternBuild.Shell.Mode
