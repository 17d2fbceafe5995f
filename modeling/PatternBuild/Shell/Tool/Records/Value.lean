import Std.Data.HashMap
import PatternBuild.Shell.Format
import PatternBuild.Shell.Tool.Records.Reader

/-!
# What programs for records work on

Values, arrays of them, and records with their fields.
-/

/-!
## Values of the language for records

A value is a number or a text; text that comes from outside counts as a number where it looks like
one.  A number is written as a whole number if it is one, and by a format otherwise.
-/

namespace PatternBuild.Shell.Records

inductive Value where
  | unset
  | number (x : Float)
  | text (cs : List Char)
  /-- text from outside -/
  | input (cs : List Char)
  deriving Inhabited

/-! ### whole numbers -/

/-- the bounds of whole numbers of the machine, as floats -/
def wholeLimit : Float := 9223372036854775808.0
def naturalLimit : Float := 18446744073709551616.0

/-- the whole part of a number, within the bounds of the machine -/
def toWhole (x : Float) : Int :=
  if x.isNaN then -9223372036854775808
  else if wholeLimit ≤ x then 9223372036854775807
  else if x < -wholeLimit then -9223372036854775807
  else if x < 0 then -(Int.ofNat (-x).toUInt64.toNat)
  else Int.ofNat x.toUInt64.toNat

/-- the whole part of a number without a sign, within the bounds of the machine -/
def toNatural (x : Float) : Nat :=
  if naturalLimit ≤ x then 18446744073709551615 else x.toUInt64.toNat

/-- the last 32 bits of a whole number, with a sign -/
def short (n : Int) : Int :=
  let low := n % 4294967296
  if low < 2147483648 then low else low - 4294967296

/-- the largest number that is written as a whole number -/
def largestWhole : Float := 2147483647.0

/-- the number that a float is, if it is whole and not too large -/
def whole? (x : Float) : Option Int :=
  if x.isNaN || largestWhole < x || x < -largestWhole then none
  else
    let n := toWhole x
    if Float.ofInt n == x then some n else none

/-! ### reading numbers -/

def isBlank (c : Char) : Bool := c == ' ' || (9 ≤ c.toNat && c.toNat ≤ 13)

/-- the number of a few digits -/
def smallNumeral? (cs : List Char) : Option Float :=
  if !cs.isEmpty && cs.length ≤ 15 && cs.all Char.isDigit then
    some (Float.ofNat (cs.foldl (fun n c => n * 10 + (c.toNat - 48)) 0))
  else none

/-- the number at the front of a text; zero if there is none -/
def numberOf (cs : List Char) : Float :=
  let cs := cs.dropWhile isBlank
  match smallNumeral? cs with
  | some x => x
  | none =>
    match Floating.read? 53 cs with
    | some (x, _) => x.toFloat
    | none => 0

/-- the number that a whole text writes, between blanks -/
def numeric? (cs : List Char) : Option Float :=
  match smallNumeral? cs with
  | some x => some x
  | none =>
    let cs := cs.dropWhile isBlank
    let isStart (c : Char) : Bool := c.isDigit || c == '+' || c == '-' || c == '.'
    if !cs.head?.any isStart then none
    else
      match Floating.read? 53 cs with
      | some (.nan _, _) => none
      | some (.infinite _, _) => none
      | some (x, rest) => if rest.all isBlank then some x.toFloat else none
      | none => none

/-! ### formats -/

/-- why a format cannot be carried out -/
inductive FormatFault where
  | missing
  | improper (conversion : Nat)
  deriving DecidableEq, Repr

/-- a number that is not whole, or too large -/
def floatingText (d : Directive) (x : Float) : List Char :=
  d.floating 53 (if x.isNaN then .nan true else .ofFloat x)

/-- a whole number as a directive prints it -/
def wholeText (d : Directive) (x : Float) : List Char :=
  let n : Int := if d.conversion == 'i' || x < 0 || x.isNaN then toWhole x else toNatural x
  d.whole n

/-- a number by a format for numbers, such as `%.6g` -/
def byFormat (format : List Char) (x : Float) : List Char :=
  let front := format.takeWhile (· ≠ '%')
  match format.drop front.length with
  | '%' :: rest =>
    let (t, after) := readDirective allFlags true rest
    let width : Int := match t.width with
      | some (.fixed n) => n
      | _ => 0
    let precision : Option Int := match t.precision with
      | some (.fixed n) => some n
      | _ => none
    match t.conversion with
    | some c =>
      let d := t.directive width precision c
      let text := if "diouxX".toList.contains c then wholeText d x else floatingText d x
      front ++ text ++ after
    | none => format
  | _ => format

/-- the usual format of numbers -/
def usualFormat : List Char := "%.6g".toList

/-- a number as text; one that is not whole is written by a format -/
def numberText (format : List Char) (x : Float) : List Char :=
  match whole? x with
  | some n => (toString n).toList
  | none => byFormat format x

/-! ### values -/

namespace Value

/-- the number that a value counts as -/
def toNumber : Value → Float
  | .unset => 0
  | .number x => x
  | .text cs => numberOf cs
  | .input cs => numberOf cs

/-- the text that a value counts as -/
def toText (format : List Char) : Value → List Char
  | .unset => []
  | .number x => numberText format x
  | .text cs => cs
  | .input cs => cs

/-- whether a value counts as true -/
def isTrue : Value → Bool
  | .unset => false
  | .number x => x != 0
  | .text cs => !cs.isEmpty
  | .input cs =>
    match numeric? cs with
    | some x => x != 0
    | none => !cs.isEmpty

def ofBool (b : Bool) : Value := .number (if b then 1 else 0)

/-- the number that comparisons see, if there is one -/
def compared? : Value → Option Float
  | .unset => some 0
  | .number x => some x
  | .text _ => none
  | .input cs => numeric? cs

/-- how two texts are ordered -/
def textOrder : List Char → List Char → Ordering
  | [], [] => .eq
  | [], _ :: _ => .lt
  | _ :: _, [] => .gt
  | a :: as, b :: bs => if a == b then textOrder as bs else if a < b then .lt else .gt

/-- how two values are ordered; texts are compared if one of the values is no number -/
def order (format : List Char) (a b : Value) : Ordering :=
  let numbers (x y : Float) : Ordering := if x < y then .lt else if y < x then .gt else .eq
  match a.compared?, b.compared? with
  | some x, some y => numbers x y
  | _, _ => textOrder (a.toText format) (b.toText format)

end Value

/-- whether a relation holds, by the order of its sides -/
def Relation.holds : Relation → Ordering → Bool
  | .equal, o => o == .eq
  | .different, o => o != .eq
  | .less, o => o == .lt
  | .atMost, o => o != .gt
  | .greater, o => o == .gt
  | .atLeast, o => o != .lt

/-- carry out an operation -/
def Operation.apply : Operation → Float → Float → Float
  | .add, x, y => x + y
  | .subtract, x, y => x - y
  | .multiply, x, y => x * y
  | .divide, x, y => x / y
  | .remainder, x, y => remainder x y
  | .power, x, y => Float.pow x y
where
  /-- what is left of `x` when `y` was taken away as often as possible -/
  remainder (x y : Float) : Float :=
    if x.isNaN || y.isNaN || x.isInf || y == 0 then 0.0 / 0.0
    else if y.isInf then x
    else
      match Floating.ofFloat x, Floating.ofFloat y with
      | .finite s m e, .finite _ k f =>
        -- both are multiples of the smaller of the two powers of two
        let low := min e f
        let a := m * Nat.pow 2 (e - low).toNat
        let b := k * Nat.pow 2 (f - low).toNat
        (Floating.finite s (a % b) low).toFloat
      | _, _ => x

/-! ### formatted texts -/

/-- the parts of a format -/
structure Formatting where
  /-- what is printed, the latest first -/
  printed : List Char
  args : List Value
  /-- the number of conversions so far -/
  count : Nat

/-- the next argument -/
def Formatting.take (f : Formatting) : Except FormatFault (Value × Formatting) :=
  match f.args with
  | v :: rest => .ok (v, { f with args := rest })
  | [] => .error .missing

/-- the number of a width or a precision -/
def Formatting.amount (f : Formatting) : Count → Except FormatFault (Int × Formatting)
  | .fixed n => .ok (n, f)
  | .argument => do
    let (v, f) ← f.take
    return (toWhole v.toNumber, f)

/-- a value as a character: a number is its octet, and of a text the first one counts -/
def characterOf (v : Value) : Char :=
  let ofNumber (x : Float) : Char := Char.ofNat (toWhole x % 256).toNat
  match v with
  | .unset => '\x00'
  | .number x => ofNumber x
  | .text cs => cs.headD '\x00'
  | .input cs =>
    match numeric? cs with
    | some x => ofNumber x
    | none => cs.headD '\x00'

/-- one value by a directive; `conversions` is the format for numbers -/
def printValue (conversions : List Char) (d : Directive) (v : Value) : List Char :=
  match d.conversion with
  | 'c' => d.pad [characterOf v]
  | 's' => d.text (v.toText conversions)
  | c =>
    if "diouxX".toList.contains c then wholeText d v.toNumber else floatingText d v.toNumber

/-- the value that a format asks for next, by its directive, and what follows the directive -/
def formatNext (conversions rest : List Char) (f : Formatting) :
    Except FormatFault (List Char × Formatting) := do
  let (t, after) := readDirective allFlags true rest
  let (width, f) ← f.amount (t.width.getD (.fixed 0))
  let (precision, f) ← match t.precision with
    | some c => do
      let (k, f) ← f.amount c
      pure (some k, f)
    | none => pure (none, f)
  if f.args.isEmpty then throw .missing
  match t.conversion with
  | none => throw .missing
  | some c =>
    if !("csdiouxXeEfFgGaA".toList.contains c) then throw (.improper (f.count + 1))
    let (v, f) ← f.take
    let text := printValue conversions (t.directive width precision c) v
    return (after, { f with printed := text.reverse ++ f.printed, count := f.count + 1 })

/-- print by a format of at most `n` units, up to a fault -/
def formatUpTo (conversions : List Char) :
    Nat → List Char → Formatting → Formatting × Option FormatFault
  | 0, _, f => (f, none)
  | n + 1, cs, f =>
    match cs with
    | [] => (f, none)
    | '%' :: '%' :: rest => formatUpTo conversions n rest { f with printed := '%' :: f.printed }
    | '%' :: rest =>
      match formatNext conversions rest f with
      | .ok (rest, f) => formatUpTo conversions n rest f
      | .error fault => (f, some fault)
    | c :: rest => formatUpTo conversions n rest { f with printed := c :: f.printed }

/-- values printed by a format, up to a fault -/
def formatted (conversions format : List Char) (args : List Value) :
    List Char × Option FormatFault :=
  let (f, fault?) := formatUpTo conversions (format.length + 1) format ⟨[], args, 0⟩
  (f.printed.reverse, fault?)

end PatternBuild.Shell.Records

/-!
## Arrays of the language for records

An array finds values by texts.  The order in which a loop sees its keys comes from how keys are kept:
in slots, by a number computed from the text, or by the key itself if it was given as a whole number.
What was asked for last stands first in its slot, and there are twice as many slots when too many keys
have come.
-/

namespace PatternBuild.Shell.Records

/-- the number that finds the slot of a text -/
def slotNumber (key : String) : Nat :=
  key.foldl (fun h c => Nat.xor h c.toNat * 16777619 % 4294967296) 2166136261

structure Collection where
  values : Std.HashMap String Value
  /-- the keys in their slots -/
  texts : Array (List (Nat × String))
  /-- keys that were given as whole numbers, in their slots -/
  numbers : Array (List Int)
  /-- whether all keys are among the texts -/
  hasTexts : Bool
  /-- the values are parts of a text, with the numbers from 1 on as keys -/
  isSplit : Bool

namespace Collection

def firstSlots : Nat := 64

/-- the average number of keys in a slot at which slots are doubled -/
def fullSlot : Nat := 12

def empty : Collection :=
  ⟨∅, Array.replicate firstSlots [], Array.replicate firstSlots [], false, false⟩

instance : Inhabited Collection := ⟨empty⟩

def size (c : Collection) : Nat := c.values.size

/-- put a key first in a slot -/
def putFirst {α : Type} (slots : Array (List α)) (i : Nat) (key : α) : Array (List α) :=
  slots.modify i (key :: ·)

/-- take a key out of a slot -/
def takeOut {α : Type} [BEq α] (slots : Array (List α)) (i : Nat) (key : α) : Array (List α) :=
  slots.modify i (·.erase key)

/-- twice as many slots; every key stays or goes to the slot that is new -/
def doubled {α : Type} (number : α → Nat) (slots : Array (List α)) : Array (List α) :=
  let n := slots.size
  let stays := slots.mapIdx fun i keys => keys.filter fun k => number k % (2 * n) = i
  let goes := slots.mapIdx fun i keys => keys.filter fun k => number k % (2 * n) ≠ i
  stays ++ goes

/-- the number of a whole number that finds its slot -/
def wholeSlot (n : Int) : Nat := (n % 4294967296).toNat

/-- room for one key more -/
def grown (c : Collection) : Collection :=
  if c.texts.size * fullSlot < c.size + 1 then
    { c with texts := doubled (·.1) c.texts, numbers := doubled wholeSlot c.numbers }
  else c

/-- keys that are parts of a text as whole numbers -/
def loosened (c : Collection) : Collection :=
  if c.isSplit then { c with isSplit := false } else c

/-- have all keys among the texts -/
def withTexts (c : Collection) : Collection :=
  if c.hasTexts then c
  else
    let c := c.loosened
    let texts := c.numbers.foldl (fun texts keys => keys.foldl (fun texts n =>
      let key := toString n
      let h := slotNumber key
      putFirst texts (h % texts.size) (h, key)) texts) c.texts
    { c with texts, hasTexts := true }

/-- find a key that is given as a text; it is added if `isAdded` holds -/
def noteText (isAdded : Bool) (key : String) (c : Collection) : Collection :=
  let c := c.withTexts
  let h := slotNumber key
  if c.values.contains key then
    let i := h % c.texts.size
    { c with texts := putFirst (takeOut c.texts i (h, key)) i (h, key) }
  else if isAdded then
    let c := c.grown
    { c with
      values := c.values.insert key .unset
      texts := putFirst c.texts (h % c.texts.size) (h, key) }
  else c

/-- find a key that is given as a whole number; it is added if `isAdded` holds -/
def noteWhole (isAdded : Bool) (n : Int) (c : Collection) : Collection :=
  let key := toString n
  let isThere := c.values.contains key
  if c.isSplit && isThere then c
  else if c.size = 0 && !isAdded then c
  else
    let c := c.loosened
    let slot (c : Collection) : Nat := wholeSlot n % c.numbers.size
    if (c.numbers.getD (slot c) []).contains n then
      { c with numbers := putFirst (takeOut c.numbers (slot c) n) (slot c) n }
    else if c.hasTexts then
      let c := c.noteText isAdded key
      if isThere || isAdded then { c with numbers := putFirst c.numbers (slot c) n } else c
    else if isAdded then
      let c := c.grown
      { c with values := c.values.insert key .unset, numbers := putFirst c.numbers (slot c) n }
    else c

/-- a key: the text that finds it, and the whole number that it was given as -/
structure Key where
  text : String
  whole : Option Int

/-- the key of a value -/
def keyOf (format : List Char) (v : Value) : Key :=
  match v with
  | .number x =>
    match whole? x with
    | some n => ⟨toString n, some n⟩
    | none => ⟨String.ofList (byFormat format x), none⟩
  | v => ⟨String.ofList (v.toText format), none⟩

/-- find a key -/
def note (isAdded : Bool) (k : Key) (c : Collection) : Collection :=
  match k.whole with
  | some n => c.noteWhole isAdded n
  | none => if c.size = 0 && !isAdded then c else c.noteText isAdded k.text

def value (k : Key) (c : Collection) : Value := (c.values[k.text]?).getD .unset

def contains (k : Key) (c : Collection) : Bool := c.values.contains k.text

/-- give a key a value -/
def set (k : Key) (v : Value) (c : Collection) : Collection :=
  let c := c.note true k
  { c with values := c.values.insert k.text v }

/-- forget a key -/
def remove (k : Key) (c : Collection) : Collection :=
  if !c.contains k then c
  else if c.size = 1 then empty
  else
    let c := (c.note false k).loosened
    let h := slotNumber k.text
    let numbers := match k.whole.orElse fun _ => k.text.toInt? with
      | some n => takeOut c.numbers (wholeSlot n % c.numbers.size) n
      | none => c.numbers
    { c with
      values := c.values.erase k.text
      texts := takeOut c.texts (h % c.texts.size) (h, k.text)
      numbers }

/-- the keys in the order of loops -/
def keys (c : Collection) : List String × Collection :=
  if c.size = 0 then ([], c)
  else
    let c := c.withTexts
    ((c.texts.toList.flatten).map (·.2), c)

/-- the array of the parts of a text -/
def ofParts (parts : List Value) : Collection :=
  if parts.isEmpty then empty
  else
    let count := parts.length
    let rec slotsFor : Nat → Nat → Nat
      | 0, slots => slots
      | n + 1, slots => if slots * fullSlot < count then slotsFor n (2 * slots) else slots
    let slots := slotsFor count firstSlots
    let values := (parts.zipIdx 1).foldl (fun (m : Std.HashMap String Value) (v, i) =>
      m.insert (toString i) v) ∅
    let numbers := (List.range count).foldl (fun found i => putFirst found ((i + 1) % slots) ((i : Int) + 1))
      (Array.replicate slots [])
    ⟨values, Array.replicate slots [], numbers, false, true⟩

end Collection

end PatternBuild.Shell.Records

/-!
## Records and fields

A record ends where the ending of records says, and is split into fields by a separator.  Fields are
split off only when they are asked for, by the separator that was set when the record was read, and
the text of a record is put together again only when it is asked for after a field has changed.
-/

namespace PatternBuild.Shell.Records

/-! ### separators -/

inductive Separator where
  /-- runs of blanks, which do not count at the ends -/
  | blanks
  /-- every character is a part of its own -/
  | nothing
  | char (c : Char)
  | regex (r : Regex)
  deriving DecidableEq, Repr

/-- where records end -/
inductive Ending where
  | char (c : Char)
  /-- empty lines -/
  | emptyLines
  | regex (r : Regex)
  deriving DecidableEq, Repr

/-- the separator that a text writes -/
def Separator.read (text : List Char) : Except RegexFault Separator :=
  match text with
  | [] => .ok .nothing
  | [' '] => .ok .blanks
  | [c] => .ok (.char c)
  | text => (readRegex text).map .regex

/-- the ending that a text writes -/
def Ending.read (text : List Char) : Except RegexFault Ending :=
  match text with
  | [] => .ok .emptyLines
  | [c] => .ok (.char c)
  | text => (readRegex text).map .regex

def isFieldBlank (c : Char) : Bool := c == ' ' || c == '\t' || c == '\n'

/-- the runs of other characters between blanks -/
def wordsOf (cs : List Char) : List (List Char) :=
  let (words, last) := cs.foldr (fun c (words, current) =>
    if isFieldBlank c then
      (if current.isEmpty then (words, []) else (current :: words, []))
    else (words, c :: current)) (([] : List (List Char)), ([] : List Char))
  if last.isEmpty then words else last :: words

/-- the parts between the places where a character stands -/
def partsBetween (mark : Char) (cs : List Char) : List (List Char) :=
  let (parts, first) := cs.foldr (fun c (parts, current) =>
    if c == mark then (current :: parts, []) else (parts, c :: current))
    (([] : List (List Char)), ([] : List Char))
  first :: parts

/-- the parts between matches that are not empty, of at most `n`; one starts at `start`, and matches are
looked for from `i` on -/
def partsAround (r : Regex) (s : Regex.Subject) (start : Nat) : Nat → Nat → List (List Char)
  | 0, _ => [s.slice start s.text.size]
  | n + 1, i =>
    match (r.find? s false i).bind (·.lookup 0) with
    | none => [s.slice start s.text.size]
    | some (a, b) =>
      if a = b then
        if s.text.size ≤ a then [s.slice start s.text.size] else partsAround r s start n (a + 1)
      else s.slice start a :: partsAround r s b n b

/-- the parts of a text -/
def Separator.split (sep : Separator) (cs : List Char) : List (List Char) :=
  match sep with
  | .blanks => wordsOf cs
  | .nothing => cs.map ([·])
  | .char c => if cs.isEmpty then [] else partsBetween c cs
  | .regex r =>
    if cs.isEmpty then [] else partsAround r (Regex.subject false cs) 0 (cs.length + 1) 0

/-! ### records -/

structure Record where
  text : List Char
  /-- whether a field has changed since the text was put together -/
  isStale : Bool
  fields : Array Value
  /-- whether the fields were split off -/
  isSplit : Bool
  separator : Separator

namespace Record

def ofText (separator : Separator) (text : List Char) : Record := ⟨text, false, #[], false, separator⟩

/-- the record with its fields -/
def split (r : Record) : Record :=
  if r.isSplit then r
  else { r with fields := ((r.separator.split r.text).map Value.input).toArray, isSplit := true }

/-- the record with its text; `output` stands between fields -/
def joined (r : Record) (format output : List Char) : Record :=
  if r.isStale then
    let texts := r.fields.toList.map (·.toText format)
    { r with text := output.intercalate texts, isStale := false }
  else r

/-- the record with so many fields -/
def withCount (r : Record) (n : Nat) : Record :=
  let r := r.split
  let kept := r.fields.extract 0 n
  { r with fields := kept ++ Array.replicate (n - kept.size) Value.unset, isStale := true }

/-- the record with another value in a field, counted from 1 -/
def setField (r : Record) (i : Nat) (v : Value) : Record :=
  let r := r.split
  let r := if r.fields.size < i then r.withCount i else r
  { r with fields := r.fields.setIfInBounds (i - 1) v, isStale := true }

end Record

/-! ### taking records from text -/

/-- the first record of a text that holds all that is left, and the rest; none if nothing is left -/
def Ending.take? (e : Ending) (cs : List Char) : Option (List Char × List Char) :=
  match e with
  | .char c =>
    if cs.isEmpty then none
    else
      let record := cs.takeWhile (· ≠ c)
      some (record, cs.drop (record.length + 1))
  | .emptyLines =>
    let cs := cs.dropWhile (· == '\n')
    if cs.isEmpty then none else some (paragraph cs [])
  | .regex r =>
    if cs.isEmpty then none
    else
      let s := Regex.subject false cs
      match firstFilled r s (cs.length + 1) 0 with
      | some (a, b) => some (s.slice 0 a, s.slice b s.text.size)
      | none => some (cs, [])
where
  /-- the text up to an empty line, and what follows it -/
  paragraph : List Char → List Char → List Char × List Char
    | '\n' :: '\n' :: cs, seen => (seen.reverse, cs.dropWhile (· == '\n'))
    | ['\n'], seen => (seen.reverse, [])
    | c :: cs, seen => paragraph cs (c :: seen)
    | [], seen => (seen.reverse, [])
  /-- the first match that is not empty -/
  firstFilled (r : Regex) (s : Regex.Subject) : Nat → Nat → Option (Nat × Nat)
    | 0, _ => none
    | n + 1, i =>
      match (r.find? s false i).bind (·.lookup 0) with
      | none => none
      | some (a, b) =>
        if a < b then some (a, b)
        else if s.text.size ≤ a then none else firstFilled r s n (a + 1)

/-! ### replacing -/

/-- a part of a text that takes the place of a match -/
inductive Replacement where
  | char (c : Char)
  /-- what was matched -/
  | matched
  deriving DecidableEq, Repr

/-- the parts of a replacement: an ampersand is what was matched, unless a backslash stands in front -/
def replacementOf : List Char → List Replacement
  | [] => []
  | '\\' :: '&' :: cs => .char '&' :: replacementOf cs
  | '\\' :: '\\' :: '&' :: cs => .char '\\' :: .matched :: replacementOf cs
  | '\\' :: '\\' :: '\\' :: '&' :: cs => .char '\\' :: .char '&' :: replacementOf cs
  | '&' :: cs => .matched :: replacementOf cs
  | c :: cs => .char c :: replacementOf cs

/-- what stands in place of a match -/
def replaced (parts : List Replacement) (found : List Char) : List Char :=
  parts.flatMap fun
    | .char c => [c]
    | .matched => found

/-- a text with its matches replaced, from a place on and at most `n` of them, and their number; an
empty match does not count right behind another one -/
def substituteFrom (r : Regex) (s : Regex.Subject) (parts : List Replacement) :
    Nat → Nat → Bool → List Char × Nat
  | 0, i, _ => (s.slice i s.text.size, 0)
  | n + 1, i, isBehind =>
    match (r.find? s false i).bind (·.lookup 0) with
    | none => (s.slice i s.text.size, 0)
    | some (a, b) =>
      if a = b && a = i && isBehind then
        -- the character behind the last match stays
        if s.text.size ≤ i then ([], 0)
        else
          let (rest, count) := substituteFrom r s parts n (i + 1) false
          (s.slice i (i + 1) ++ rest, count)
      else if a = b then
        let new := s.slice i a ++ replaced parts []
        if s.text.size ≤ a then (new, 1)
        else
          let (rest, count) := substituteFrom r s parts n (a + 1) false
          (new ++ s.slice a (a + 1) ++ rest, count + 1)
      else
        let new := s.slice i a ++ replaced parts (s.slice a b)
        let (rest, count) := substituteFrom r s parts n b true
        (new ++ rest, count + 1)

/-- a text with all matches replaced, or the first one, and their number -/
def substitute (r : Regex) (isAll : Bool) (replacement cs : List Char) : List Char × Nat :=
  let s := Regex.subject false cs
  let parts := replacementOf replacement
  if isAll then substituteFrom r s parts (2 * cs.length + 2) 0 false
  else
    match (r.find? s false 0).bind (·.lookup 0) with
    | none => (cs, 0)
    | some (a, b) => (s.slice 0 a ++ replaced parts (s.slice a b) ++ s.slice b s.text.size, 1)

/-- a part of a text, by its start counted from 1 and its length -/
def part (cs : List Char) (start : Float) (length : Option Float) : List Char :=
  let i := short (short (toWhole start) - 1)
  let n : Int := match length with
    | none => cs.length
    | some x => short (toWhole x)
  let (i, n) := if i < 0 then (0, short (n - (i + 1))) else (i, n)
  (cs.drop i.toNat).take n.toNat

/-- the place of a text in another one, counted from 1 -/
def placeOf (cs part : List Char) : Nat :=
  let rec go : List Char → Nat → Nat
    | [], _ => 0
    | c :: cs, i => if part.isPrefixOf (c :: cs) then i else go cs (i + 1)
  if part.isEmpty then 1 else go cs 1

end PatternBuild.Shell.Records
