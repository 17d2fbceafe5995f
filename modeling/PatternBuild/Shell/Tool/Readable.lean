import PatternBuild.Shell.Tool.Quantity

/-!
# Readable: texts in files that are none

`strings` prints the runs of characters in a file that can be read, if they are long enough.
-/

namespace PatternBuild.Shell.Tool

open Activity

/-- how characters are kept in octets -/
structure CharLayout where
  size : Nat
  /-- whether the first octet counts most -/
  isBig : Bool
  /-- whether octets beyond 127 can be read -/
  allowsHigh : Bool

def CharLayout.ofLetter? : String → Option CharLayout
  | "s" => some ⟨1, false, false⟩
  | "S" => some ⟨1, false, true⟩
  | "b" => some ⟨2, true, false⟩
  | "l" => some ⟨2, false, false⟩
  | "B" => some ⟨4, true, false⟩
  | "L" => some ⟨4, false, false⟩
  | _ => none

/-- the number that octets keep -/
def CharLayout.value (l : CharLayout) (octets : List Char) : Nat :=
  (if l.isBig then octets else octets.reverse).foldl (fun n c => n * 256 + c.toNat) 0

/-- whether a number is a character that can be read -/
def CharLayout.isReadable (l : CharLayout) (withSpace : Bool) (n : Nat) : Bool :=
  n = 9 || (32 ≤ n && n < 127) || (withSpace && 9 ≤ n && n ≤ 13) || (l.allowsHigh && 127 < n && n < 256)

/-- a run of characters with the place where it begins; the latest character comes first -/
structure ReadableRun where
  place : Nat
  chars : List Char

/-- the runs of a text, in at most `n` steps; after something that cannot be read the next octet is
tried -/
def readableRuns (l : CharLayout) (withSpace : Bool) :
    Nat → Nat → ReadableRun → List Char → List ReadableRun
  | 0, _, run, _ => [run]
  | n + 1, place, run, cs =>
    let unit := cs.take l.size
    if unit.length < l.size then [run]
    else if l.isReadable withSpace (l.value unit) then
      let run : ReadableRun := { run with chars := Char.ofNat (l.value unit) :: run.chars }
      readableRuns l withSpace n (place + l.size) run (cs.drop l.size)
    else run :: readableRuns l withSpace n (place + 1) ⟨place + 1, []⟩ (cs.drop 1)

/-- the place of a run as it is printed -/
def placeText (radix : String) (place : Nat) : String :=
  let base := if radix = "o" then 8 else if radix = "x" then 16 else 10
  padLeft 7 (String.ofList (Nat.toDigits base place)) ++ " "

/-- take options like `-4` for a least length -/
def spelledLengths : List String → List String
  | "--" :: rest => "--" :: rest
  | a :: rest =>
    match a.toList with
    | '-' :: c :: cs =>
      (if (c :: cs).all Char.isDigit then "-n" ++ String.ofList (c :: cs) else a) :: spelledLengths rest
    | _ => a :: spelledLengths rest
  | [] => []

def strings (args : List String) : Activity Nat := do
  let rules : OptionRules := .of "adfow" "entsTU" [("all", "a", .never), ("data", "d", .never),
    ("print-file-name", "f", .never), ("bytes", "n", .always), ("radix", "t", .always),
    ("include-all-whitespace", "w", .never), ("encoding", "e", .always), ("target", "T", .always),
    ("unicode", "U", .always), ("output-separator", "s", .always)]
  match readOptions rules (spelledLengths args) with
  | .error p => refuse "strings" p.message 1
  | .ok g =>
    let leastText := (g.value? "n").getD "4"
    match wholeNumber? leastText, CharLayout.ofLetter? ((g.value? "e").getD "s") with
    | none, _ => refuse "strings" s!"invalid integer argument {leastText}" 1
    | some least, layout? =>
      if least < 1 then
        return ← refuse "strings" s!"minimum string length is too small: {leastText}" 1
      let radix? := match g.last? ["t", "o"] with
        | some "o" => some "o"
        | some _ => g.value? "t"
        | none => none
      if radix?.any fun r => !(["o", "d", "x"].contains r) then return 1
      match layout? with
      | none => return 1
      | some layout =>
        let show_ (name : String) (cs : List Char) : Activity Unit := do
          for run in readableRuns layout (g.has "w") (cs.length + 1) 0 ⟨0, []⟩ cs do
            if least ≤ run.chars.length then
              if g.has "f" then Tool.say s!"{name}: "
              match radix? with
              | some radix => Tool.say (placeText radix run.place)
              | none => pure ()
              Tool.out run.chars.reverse
              Tool.say ((g.value? "s").getD "\n")
        let files := g.operands.filter (· ≠ "-")
        if g.operands.isEmpty then
          match ← readAll 0 with
          | .ok cs => show_ "\x7bstandard input\x7d" cs
          | .error _ => pure ()
          return 0
        if files.isEmpty then return 1
        let mut code := 0
        for path in files do
          match ← contentOf path with
          | .ok cs => show_ path cs
          | .error f =>
            match f with
            | .missing => Tool.complain "strings" s!"'{path}': No such file"
            | .isDir => Tool.complain "strings" s!"Warning: '{path}' is a directory"
            | f => Tool.complain "strings" s!"{path}: {f.message}"
            code := 1
        return code

end PatternBuild.Shell.Tool
