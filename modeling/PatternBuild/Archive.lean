import PatternBuild.Text.Utf8

/-!
# Archives

Many files in one text, member by member.
-/

/-!
## Members: what an archive holds

An archive is a row of blocks of 512 octets.  Each member takes a block with its attributes, its header,
and so many blocks as its content needs.  Blocks of zeros end an archive.  All texts are octets.
-/

namespace PatternBuild.Archive

/-- what a member is -/
inductive MemberKind where
  | file
  /-- a further name of an earlier member -/
  | hardLink
  | symbolicLink
  | characters
  | blocks
  | directory
  | fifo
  /-- the name of the whole archive -/
  | label
  | other (letter : Char)
  deriving DecidableEq, Repr

/-- a member of an archive -/
structure Member where
  /-- the name, of a directory with a slash at its end -/
  name : List Char
  kind : MemberKind
  /-- where a link leads -/
  target : List Char
  mode : Nat
  userNumber : Nat
  groupNumber : Nat
  user : List Char
  group : List Char
  /-- seconds since 1970 -/
  modified : Int
  /-- the numbers of a device -/
  device : Nat × Nat
  content : List Char
  deriving DecidableEq, Repr

/-- how headers are written -/
inductive Format where
  /-- without names of users -/
  | early
  /-- long names are cut in two at a slash -/
  | standard
  /-- long names are in members of their own in front -/
  | extended
  /-- what fits into no header is in a list of attributes in front -/
  | annotated
  deriving DecidableEq, Repr

/-! ### fields -/

/-- the size of blocks -/
def blockLength : Nat := 512

/-- a text filled up with zeros to a length, or cut to it -/
def field (length : Nat) (cs : List Char) : List Char :=
  cs.take length ++ List.replicate (length - cs.length) '\x00'

/-- a number as octets, the highest first -/
def highFirst : Nat → Nat → List Char
  | 0, _ => []
  | n + 1, value => highFirst n (value / 256) ++ [Char.ofNat (value % 256)]

/-- a number as octal digits in front of a zero, or as octets if it has too many of them -/
def numberField (length : Nat) (n : Int) : List Char :=
  let most := Nat.pow 8 (length - 1)
  if 0 ≤ n ∧ n.toNat < most then
    let digits := Nat.toDigits 8 n.toNat
    List.replicate (length - 1 - digits.length) '0' ++ digits ++ ['\x00']
  else if 0 ≤ n then Char.ofNat 0x80 :: highFirst (length - 1) n.toNat
  else Char.ofNat 0xff :: highFirst (length - 1) (n + Nat.pow 256 (length - 1)).toNat

/-- the letter of a kind of member -/
def MemberKind.letter (f : Format) : MemberKind → Char
  | .file => if f = .early then '\x00' else '0'
  | .hardLink => '1'
  | .symbolicLink => '2'
  | .characters => '3'
  | .blocks => '4'
  | .directory => if f = .early then '\x00' else '5'
  | .fifo => '6'
  | .label => 'V'
  | .other letter => letter

/-- the kind of member that a letter means; a name that ends with a slash is that of a directory -/
def MemberKind.ofLetter (name : List Char) (letter : Char) : MemberKind :=
  match letter with
  | '1' => .hardLink
  | '2' => .symbolicLink
  | '3' => .characters
  | '4' => .blocks
  | '5' => .directory
  | '6' => .fifo
  | 'V' => .label
  | c =>
    if c == '0' || c == '\x00' || c == '7' then
      if name.getLast? == some '/' then .directory else .file
    else .other c

/-- the sum of the octets of a header, in which blanks stand for the sum itself -/
def checksum (header : List Char) : Nat :=
  let blanked := header.take 148 ++ List.replicate 8 ' ' ++ header.drop 156
  blanked.foldl (fun n c => n + c.toNat) 0

/-- write the sum into a header -/
def summed (header : List Char) : List Char :=
  header.take 148 ++ (numberField 7 (checksum header) ++ [' ']) ++ header.drop 156

/-- fill up with zeros to whole blocks -/
def inBlocks (cs : List Char) : List Char :=
  cs ++ List.replicate ((blockLength - cs.length % blockLength) % blockLength) '\x00'

/-! ### headers -/

/-- the header of a member, under a name with what stands in front of it, and with a size -/
def headerAs (f : Format) (m : Member) (letter : Char) (front name : List Char) (size : Nat) : List Char :=
  let isDevice := m.kind = .characters || m.kind = .blocks
  let mark := match f with
    | .early => field 8 []
    | .extended => "ustar  \x00".toList
    | _ => "ustar\x0000".toList
  let owner := if f = .early then field 64 [] else field 32 (m.user.take 31) ++ field 32 (m.group.take 31)
  let device := if isDevice then numberField 8 m.device.1 ++ numberField 8 m.device.2
    else if f = .standard || f = .annotated then numberField 8 0 ++ numberField 8 0
    else field 16 []
  summed (field 100 name ++ numberField 8 m.mode ++ numberField 8 m.userNumber ++
    numberField 8 m.groupNumber ++ numberField 12 size ++ numberField 12 m.modified ++ field 8 [] ++
    [letter] ++ field 100 m.target ++ mark ++ owner ++ device ++ field 155 front ++ field 12 [])

/-- the header of the name of an archive -/
def labelHeader (name : List Char) (seconds : Int) : List Char :=
  summed (field 136 name ++ numberField 12 seconds ++ field 8 [] ++ ['V'] ++ field 355 [])

/-- a member that holds a long text for the next one -/
def longText (letter : Char) (cs : List Char) : List Char :=
  let m : Member := ⟨[], .other letter, [], 0o644, 0, 0, "root".toList, "root".toList, 0, (0, 0), []⟩
  headerAs .extended m letter [] "././@LongLink".toList (cs.length + 1) ++ inBlocks (cs ++ ['\x00'])

/-- a line of a list of attributes, which starts with its own length -/
def attributeLine (key : String) (value : List Char) : List Char :=
  let rest := ' ' :: key.toList ++ '=' :: value ++ ['\n']
  let short := rest.length + (toString rest.length).length
  let length := rest.length + (toString short).length
  (toString length).toList ++ rest

/-- a member that holds attributes of the next one -/
def attributes (m : Member) (lines : List (List Char)) : List Char :=
  let name := m.name.reverse.dropWhile (· == '/')
  let base := (name.takeWhile (· ≠ '/')).reverse
  let dir := ((name.dropWhile (· ≠ '/')).drop 1).reverse
  let title := (if dir.isEmpty then ['.'] else dir) ++ "/PaxHeaders/".toList ++ base
  let text := lines.flatten
  headerAs .annotated ⟨[], .other 'x', [], 0o644, 0, 0, [], [], m.modified, (0, 0), []⟩ 'x' [] title text.length ++
    inBlocks text

/-- the places at which a long name can be cut in two -/
def cutName? (name : List Char) : Option (List Char × List Char) :=
  let cuts := (List.range name.length).filterMap fun i =>
    if (name[i]? == some '/') && 0 < i && i ≤ 155 && name.length - i - 1 ≤ 100 && i + 1 < name.length then
      some (name.take i, name.drop (i + 1))
    else none
  cuts.getLast?

/-- why a member cannot be written -/
inductive WriteFault where
  | nameTooLong
  /-- there is no place at which the name could be cut -/
  | nameNotCut
  | targetTooLong
  deriving DecidableEq, Repr

/-- a member as it is written -/
def Member.blocks (f : Format) (m : Member) : Except WriteFault (List Char) := do
  if m.kind = .label then return labelHeader m.name m.modified
  let size := if m.kind = .file then m.content.length else 0
  let letter := m.kind.letter f
  let body := inBlocks m.content
  let isLong := 100 < m.name.length
  let hasLongTarget := 100 < m.target.length
  match f with
  | .early =>
    if 99 < m.name.length then throw .nameTooLong
    if 99 < m.target.length then throw .targetTooLong
    return headerAs f m letter [] m.name size ++ body
  | .standard =>
    if hasLongTarget then throw .targetTooLong
    if !isLong then return headerAs f m letter [] m.name size ++ body
    if 256 < m.name.length then throw .nameTooLong
    match cutName? m.name with
    | some (front, name) => return headerAs f m letter front name size ++ body
    | none => throw .nameNotCut
  | .extended =>
    return (if hasLongTarget then longText 'K' m.target else []) ++
      (if isLong then longText 'L' m.name else []) ++ headerAs f m letter [] m.name size ++ body
  | .annotated =>
    match if isLong then cutName? m.name else some ([], m.name) with
    | some (front, name) =>
      let lines := if hasLongTarget then [attributeLine "linkpath" m.target] else []
      return (if lines.isEmpty then [] else attributes m lines) ++ headerAs f m letter front name size ++ body
    | none =>
      let lines := attributeLine "path" m.name ::
        if hasLongTarget then [attributeLine "linkpath" m.target] else []
      return attributes m lines ++ headerAs f m letter [] m.name size ++ body

/-- the end of an archive: two blocks of zeros, and so many more as fill its last record -/
def ending (recordSize size : Nat) : List Char :=
  let closed := size + 2 * blockLength
  List.replicate (2 * blockLength + (recordSize - closed % recordSize) % recordSize) '\x00'

end PatternBuild.Archive

/-!
## Reading: the members of an archive one after the other

`next` takes one member from the front of an archive, or tells what stands there instead.
-/

namespace PatternBuild.Archive

/-- the digits of a number field -/
def octalValue (cs : List Char) : Nat :=
  let digits := (cs.dropWhile (· == ' ')).takeWhile fun c => '0' ≤ c && c ≤ '7'
  digits.foldl (fun n c => 8 * n + (c.toNat - 48)) 0

/-- the number in a field -/
def numberOf (cs : List Char) : Int :=
  match cs with
  | c :: rest =>
    let value : Nat := rest.foldl (fun (n : Nat) c => 256 * n + c.toNat) 0
    if c.toNat = 0x80 then value
    else if c.toNat = 0xff then (value : Int) - Nat.pow 256 rest.length
    else octalValue cs
  | [] => 0

/-- the text in a field, which a zero ends -/
def textOf (cs : List Char) : List Char := cs.takeWhile (· ≠ '\x00')

/-- a part of a header -/
def part (header : List Char) (start length : Nat) : List Char := (header.drop start).take length

/-- whether a block is a header -/
def isHeader (block : List Char) : Bool :=
  let sum := octalValue (part block 148 8)
  block.length == blockLength && (sum == checksum block)

/-- the member of a header, as yet without its content, and the size of that -/
def memberOf (header : List Char) : Member × Nat :=
  let mark := part header 257 8
  let isStandard := mark.take 6 == "ustar\x00".toList
  let isEarly := mark.take 5 ≠ "ustar".toList
  let front := if isStandard then textOf (part header 345 155) else []
  let short := textOf (part header 0 100)
  let name := if front.isEmpty then short else front ++ '/' :: short
  let letter := (part header 156 1).headD '0'
  let owner (start : Nat) : List Char := if isEarly then [] else textOf (part header start 32)
  let size := (numberOf (part header 124 12)).toNat
  let kind := MemberKind.ofLetter name letter
  ({ name
     kind
     target := textOf (part header 157 100)
     mode := octalValue (part header 100 8) % 4096
     userNumber := (numberOf (part header 108 8)).toNat
     groupNumber := (numberOf (part header 116 8)).toNat
     user := owner 265
     group := owner 297
     modified := numberOf (part header 136 12)
     device := (octalValue (part header 329 8), octalValue (part header 337 8))
     content := [] },
    if kind = .hardLink || kind = .symbolicLink then 0 else size)

/-- texts for the next member that fit into no header -/
structure Notes where
  name : Option (List Char)
  target : Option (List Char)
  attributes : List (String × List Char)

def Notes.none : Notes := ⟨.none, .none, []⟩

/-- the attributes of a list of them, of which there are at most so many -/
def attributesOf : Nat → List Char → List (String × List Char)
  | 0, _ => []
  | n + 1, cs =>
    let digits := cs.takeWhile Char.isDigit
    let length := digits.foldl (fun k c => 10 * k + (c.toNat - 48)) 0
    if length = 0 then []
    else
      let line := (cs.take (length - 1)).drop (digits.length + 1)
      let key := line.takeWhile (· ≠ '=')
      (String.ofList key, line.drop (key.length + 1)) :: attributesOf n (cs.drop length)

/-- a number in decimal digits, of which those behind a point do not count -/
def wholeOf (cs : List Char) : Int :=
  let (isNegative, cs) := match cs with
    | '-' :: rest => (true, rest)
    | cs => (false, cs)
  let n : Nat := (cs.takeWhile Char.isDigit).foldl (fun (k : Nat) c => 10 * k + (c.toNat - 48)) 0
  if isNegative then -n else n

/-- a member with what is noted for it -/
def Notes.applied (notes : Notes) (m : Member) : Member :=
  let m := { m with name := notes.name.getD m.name, target := notes.target.getD m.target }
  notes.attributes.foldl (fun m (key, value) =>
    match key with
    | "path" => { m with name := value }
    | "linkpath" => { m with target := value }
    | "mtime" => { m with modified := wholeOf value }
    | "uname" => { m with user := value }
    | "gname" => { m with group := value }
    | "uid" => { m with userNumber := (wholeOf value).toNat }
    | "gid" => { m with groupNumber := (wholeOf value).toNat }
    | _ => m) m

/-- what stands at the front of an archive -/
inductive Front where
  /-- a member, its blocks, whether all of them are there, and what follows -/
  | member (m : Member) (blocks : List Char) (isWhole : Bool) (rest : List Char)
  /-- a block of zeros -/
  | zeros (rest : List Char)
  /-- a block that is no header -/
  | junk (rest : List Char)
  | nothing

/-- so many octets in whole blocks -/
def wholeBlocks (size : Nat) : Nat := (size + blockLength - 1) / blockLength * blockLength

/-- take what stands at the front, behind at most `n` members that are about the next one -/
def nextUpTo : Nat → Notes → List Char → List Char → Front
  | 0, _, _, _ => .nothing
  | n + 1, notes, before, cs =>
    let block := cs.take blockLength
    if block.length < blockLength then .nothing
    else
      let rest := cs.drop blockLength
      if block.all (· == '\x00') then .zeros rest
      else if !isHeader block then .junk rest
      else
        let (m, size) := memberOf block
        let size := match notes.attributes.lookup "size" with
          | some value => if m.kind = .file then (wholeOf value).toNat else size
          | none => size
        let held := rest.take size
        let taken := wholeBlocks size
        let body := rest.take taken
        let blocks := before ++ block ++ body
        let rest := rest.drop taken
        match m.kind with
        | .other 'L' => nextUpTo n { notes with name := some (textOf held) } blocks rest
        | .other 'K' => nextUpTo n { notes with target := some (textOf held) } blocks rest
        | .other 'x' =>
          nextUpTo n { notes with attributes := notes.attributes ++ attributesOf held.length held } blocks rest
        | .other 'g' => nextUpTo n notes blocks rest
        | _ =>
          let m := notes.applied m
          let kind := if m.kind = .file && m.name.getLast? == some '/' then .directory else m.kind
          .member { m with kind, content := held } blocks (body.length = taken) rest

/-- take what stands at the front of an archive -/
def next (cs : List Char) : Front := nextUpTo (cs.length / blockLength + 1) .none [] cs

end PatternBuild.Archive
