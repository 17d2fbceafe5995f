/-!
# Bytes as text and as octets
-/

/-!
## Bytes as text

`decodeStep` reads one character from the front of a byte sequence, or finds that the sequence is
ill-formed there and says how many bytes belong to the maximal invalid part.  On it rest the
strict reading `decode`, which reports the first fault, and the lenient one `decodeLossy`, which
puts U+FFFD in place of every invalid part.
-/

namespace PatternBuild.Text

abbrev Bytes := List UInt8

/-! ### one character -/

/-- what stands at the front of a byte sequence -/
inductive Decoded where
  /-- a character -/
  | char (c : Char)
  /-- a number of bytes that cannot start or continue a character -/
  | invalid (length : Nat)
  /-- the beginning of a character, cut off by the end of the sequence -/
  | cutOff (length : Nat)
  deriving Repr

/-- whether a byte lies in the given range -/
def within (b : UInt8) (lo hi : Nat) : Bool := lo ≤ b.toNat && b.toNat ≤ hi

/-- how many bytes follow a leading byte, and where the first of them must lie -/
def leading (b : UInt8) : Option (Nat × Nat × Nat) :=
  if within b 0xC2 0xDF then some (1, 0x80, 0xBF)
  else if b = 0xE0 then some (2, 0xA0, 0xBF)
  else if b = 0xED then some (2, 0x80, 0x9F)
  else if within b 0xE1 0xEF then some (2, 0x80, 0xBF)
  else if b = 0xF0 then some (3, 0x90, 0xBF)
  else if within b 0xF1 0xF3 then some (3, 0x80, 0xBF)
  else if b = 0xF4 then some (3, 0x80, 0x8F)
  else none

/-- read `need` more bytes, the first in the given range; `seen` bytes have been read -/
def continued (value seen : Nat) : Nat → Nat → Nat → Bytes → Decoded
  | 0, _, _, _ => .char (Char.ofNat value)
  | _ + 1, _, _, [] => .cutOff seen
  | need + 1, lo, hi, b :: rest =>
    if within b lo hi then
      continued (value * 64 + (b.toNat - 0x80)) (seen + 1) need 0x80 0xBF rest
    else .invalid seen

/-- read one character from a first byte and the bytes after it -/
def decodeStep (b : UInt8) (rest : Bytes) : Decoded :=
  if b.toNat < 0x80 then .char (Char.ofNat b.toNat)
  else match leading b with
    | none => .invalid 1
    | some (need, lo, hi) =>
      continued (b.toNat % Nat.pow 2 (6 - need)) 1 need lo hi rest

/-- the number of bytes a character takes -/
def Decoded.width : Decoded → Nat
  | .char c => c.utf8Size
  | .invalid n => n
  | .cutOff n => n

/-! ### whole sequences -/

/-- where a byte sequence stops being text -/
structure Undecodable where
  /-- the number of bytes before the fault -/
  index : Nat
  /-- the length of the invalid part, or none if the sequence ends inside a character -/
  length : Option Nat
  deriving DecidableEq, Repr

def Undecodable.message (e : Undecodable) : String :=
  match e.length with
  | some n => s!"invalid utf-8 sequence of {n} bytes from index {e.index}"
  | none => s!"incomplete utf-8 byte sequence from index {e.index}"

/-- skip `skip` bytes, then go on reading; every step passes one byte -/
def decodeFrom (skip index : Nat) : Bytes → Except Undecodable (List Char)
  | [] => .ok []
  | b :: rest =>
    match skip with
    | k + 1 => decodeFrom k (index + 1) rest
    | 0 =>
      match decodeStep b rest with
      | .char c => (decodeFrom (c.utf8Size - 1) (index + 1) rest).map (c :: ·)
      | .invalid n => .error ⟨index, some n⟩
      | .cutOff _ => .error ⟨index, none⟩

/-- the characters of a well-formed byte sequence -/
def decode (bytes : Bytes) : Except Undecodable (List Char) := decodeFrom 0 0 bytes

/-- skip `skip` bytes, then go on reading leniently -/
def decodeLossyFrom (skip : Nat) : Bytes → List Char
  | [] => []
  | b :: rest =>
    match skip with
    | k + 1 => decodeLossyFrom k rest
    | 0 =>
      match decodeStep b rest with
      | .char c => c :: decodeLossyFrom (c.utf8Size - 1) rest
      | d => '\uFFFD' :: decodeLossyFrom (d.width - 1) rest

/-- the characters of a byte sequence, U+FFFD for every maximal invalid part -/
def decodeLossy (bytes : Bytes) : List Char := decodeLossyFrom 0 bytes

/-- the bytes of a text -/
def encode (s : String) : Bytes := s.toUTF8.toList

end PatternBuild.Text

/-!
## Octets: bytes as characters

Names of files, variables and whatever programs print are bytes, which need not be text.  As octets
they are handled like text all the same: every byte is one character, with the byte as its number.
-/

namespace PatternBuild.Text

/-- a byte as a character -/
def octet (b : UInt8) : Char := Char.ofNat b.toNat

/-- bytes as octets -/
def ofBytes (bytes : Bytes) : List Char := bytes.map octet

/-- the bytes that octets stand for -/
def toBytes (cs : List Char) : Bytes := cs.map fun c => c.toNat.toUInt8

theorem toBytes_ofBytes (bytes : Bytes) : toBytes (ofBytes bytes) = bytes := by
  induction bytes with
  | nil => rfl
  | cons b bs ih =>
    have h : (octet b).toNat.toUInt8 = b := by
      have hb : b.toNat.isValidChar := Or.inl (Nat.lt_of_lt_of_le b.toNat_lt (by decide))
      have hn : (octet b).toNat = b.toNat := by
        rw [octet, Char.ofNat, dif_pos hb]
        rfl
      rw [hn]
      exact UInt8.ofNat_toNat
    simp only [ofBytes, toBytes, List.map_cons, List.map_map] at ih ⊢
    rw [h, ih]

/-- the bytes of a text as octets -/
def octets (text : String) : String :=
  if text.toList.all (fun c => c.toNat < 128) then text else String.ofList (ofBytes (encode text))

/-- octets as text, U+FFFD for every maximal invalid part -/
def textOf (octets : String) : String :=
  if octets.toList.all (fun c => c.toNat < 128) then octets
  else String.ofList (decodeLossy (toBytes octets.toList))

end PatternBuild.Text
