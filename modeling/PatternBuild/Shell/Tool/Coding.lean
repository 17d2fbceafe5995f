import PatternBuild.Shell.Tool.Quantity

/-!
# Codes: octets written in fewer characters

A code writes groups of octets in groups of letters, each of which stands for some bits.  A group at
the end that is not full is filled up with a mark.
-/

namespace PatternBuild.Shell.Tool

namespace Coding

open Activity

/-- a code -/
structure Code where
  letters : Array Char
  /-- the bits of a letter -/
  bits : Nat
  /-- the letters of a group, and the octets that they stand for -/
  letterCount : Nat
  octetCount : Nat
  hasMarks : Bool

def upper : List Char := "ABCDEFGHIJKLMNOPQRSTUVWXYZ".toList
def digits : List Char := "0123456789".toList

def base64 : Code :=
  ⟨(upper ++ upper.map Char.toLower ++ digits ++ ['+', '/']).toArray, 6, 4, 3, true⟩
def base64Url : Code :=
  ⟨(upper ++ upper.map Char.toLower ++ digits ++ ['-', '_']).toArray, 6, 4, 3, true⟩
def base32 : Code := ⟨(upper ++ "234567".toList).toArray, 5, 8, 5, true⟩
def base32Hex : Code := ⟨(digits ++ upper.take 22).toArray, 5, 8, 5, true⟩
def base16 : Code := ⟨(digits ++ upper.take 6).toArray, 4, 2, 1, false⟩
def base2 : Code := ⟨#['0', '1'], 1, 8, 1, false⟩

namespace Code

/-- the letters of one group of octets -/
def encodeGroup (c : Code) (group : List Char) : List Char :=
  let n := group.foldl (fun n x => n * 256 + x.toNat) 0
  -- bits behind the last octet are 0
  let n := n * Nat.pow 256 (c.octetCount - group.length)
  let used := (8 * group.length + c.bits - 1) / c.bits
  (List.range c.letterCount).map fun k =>
    if used ≤ k then '='
    else (c.letters[n / Nat.pow (Nat.pow 2 c.bits) (c.letterCount - 1 - k) % Nat.pow 2 c.bits]?).getD '='

/-- octets in the letters of a code -/
def encode (c : Code) (cs : List Char) : List Char :=
  go cs [] []
where
  /-- collect a group, the latest octet first; what is written is reversed too -/
  go : List Char → List Char → List Char → List Char
    | [], [], written => written.reverse
    | [], group, written => ((c.encodeGroup group.reverse).reverse ++ written).reverse
    | x :: rest, group, written =>
      if group.length + 1 = c.octetCount then
        go rest [] ((c.encodeGroup (x :: group).reverse).reverse ++ written)
      else go rest (x :: group) written

def valueOf? (c : Code) (x : Char) : Option Nat := c.letters.idxOf? x

/-- the octets of one group of letters, and whether it is right; the octets in front of a fault count -/
def decodeGroup (c : Code) (group : List Char) : List Char × Bool :=
  let marks := (group.dropWhile (· ≠ '=')).length
  let letters := group.take (group.length - marks)
  let values := (letters.map c.valueOf?).takeWhile Option.isSome
  let n := values.foldl (fun n v => n * Nat.pow 2 c.bits + v.getD 0) 0
  let bits := values.length * c.bits
  let count := bits / 8
  let isWhole := group.length = c.letterCount
  let octets := (List.range count).map fun k => Char.ofNat (n / Nat.pow 2 (bits - 8 * (k + 1)) % 256)
  let areMarks := (group.drop letters.length).all (· == '=') && (marks = 0 || c.hasMarks)
  -- only so many letters make whole octets
  let isLength := 0 < count && bits - 8 * count < c.bits
  if c.letterCount = 8 && c.bits = 5 && !isWhole then ([], false)
  else (octets, isWhole && values.length = letters.length && areMarks && isLength)

/-- the octets that letters stand for, and whether they are right -/
def decode (c : Code) (cs : List Char) : List Char × Bool :=
  go (cs.length + 1) cs []
where
  go : Nat → List Char → List Char → List Char × Bool
    | 0, _, found => (found.reverse, true)
    | n + 1, cs, found =>
      if cs.isEmpty then (found.reverse, true)
      else
        let (octets, isRight) := c.decodeGroup (cs.take c.letterCount)
        let found := octets.reverse ++ found
        if isRight then go n (cs.drop c.letterCount) found else (found.reverse, false)

end Code

/-- letters in lines of a width -/
def wrapped (width : Nat) (cs : List Char) : List Char :=
  if width = 0 then cs
  else
    let (text, column) := cs.foldl (fun (text, column) c =>
      if column = width then (c :: '\n' :: text, 1) else (c :: text, column + 1)) (([] : List Char), 0)
    (if column = 0 then text else '\n' :: text).reverse

/-- write or read a code, as the options say -/
def work (program : String) (c : Code) (g : Given) : Activity Nat := do
  match g.operands with
  | _ :: extra :: _ => extraOperand program extra 1
  | operands =>
    let wrap (text : String) : Option Nat := match readCount "" text with
      | .ok n => some (if largestSize < n then 0 else n)
      | .error .tooLarge => some 0
      | .error _ => none
    match ((g.value? "w").map wrap).getD (some 76) with
    | none => refuse program ("invalid wrap size: " ++ quoted (g.valueOf "w")) 1
    | some width =>
      let path := operands.headD "-"
      match ← contentOf path with
      | .error f => refuse program s!"{shown path}: {f.message}" 1
      | .ok cs =>
        if !g.has "d" then
          Tool.out (wrapped width (c.encode cs))
          return 0
        let letters := cs.filter fun x =>
          x ≠ '\n' && (!g.has "i" || x == '=' || (c.valueOf? x).isSome)
        let (octets, isRight) := c.decode letters
        Tool.out octets
        if isRight then return 0
        refuse program "invalid input" 1

def options : OptionRules :=
  .of "di" "w" [("decode", "d", .never), ("ignore-garbage", "i", .never), ("wrap", "w", .always),
    ("base64", "base64", .never), ("base64url", "base64url", .never), ("base32", "base32", .never),
    ("base32hex", "base32hex", .never), ("base16", "base16", .never), ("base2msbf", "base2msbf", .never)]

end Coding

open Activity Coding

/-- a tool for one code -/
def codeTool (program : String) (c : Code) (args : List String) : Activity Nat :=
  withOptions program Coding.options 1 args fun g => Coding.work program c g

def basenc (args : List String) : Activity Nat :=
  withOptions "basenc" Coding.options 1 args fun g => do
    let code? : Option Code := match g.last? ["base64", "base64url", "base32", "base32hex", "base16",
        "base2msbf"] with
      | some "base64" => some Coding.base64
      | some "base64url" => some base64Url
      | some "base32" => some Coding.base32
      | some "base32hex" => some base32Hex
      | some "base16" => some base16
      | some "base2msbf" => some base2
      | _ => none
    match code? with
    | none => misuse "basenc" "missing encoding type" 1
    | some c => Coding.work "basenc" c g

end PatternBuild.Shell.Tool
