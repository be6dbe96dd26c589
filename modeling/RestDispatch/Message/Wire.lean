import RestDispatch.Text.Utf8

/-!
# Message encoding

A message is a sequence of numbered fields: variable-length integers, blocks of four or
eight bytes, byte strings with their length, and groups that end with a closing mark of
their own number.  Groups are skipped, with at most a hundred levels of fields inside one
another.
-/

namespace RestDispatch.Message

/-- The content of a field. -/
inductive Content
  | varint (n : Nat)
  | fixed64
  | bytes (bs : Bytes)
  | group
  | fixed32
  deriving DecidableEq, Repr

/-- A field and its number. -/
structure Field where
  number : Nat
  content : Content
  deriving DecidableEq, Repr

/-- Read a variable-length integer of at most ten bytes and 64 bits; `shift` bits have
been read into `n`. -/
def readVarint (n shift : Nat) : Nat → Bytes → Option (Nat × Bytes)
  | 0, _ => none
  | _, [] => none
  | count + 1, b :: rest =>
    let n := n + b.toNat % 128 * Nat.pow 2 shift
    if b < 0x80 then
      if count = 0 && 2 ≤ b then none else some (n, rest)
    else readVarint n (shift + 7) count rest

/-- Read a variable-length integer. -/
def varint (bs : Bytes) : Option (Nat × Bytes) := readVarint 0 0 10 bs

/-- The first `n` bytes and those behind them. -/
def takeBytes (n : Nat) (bs : Bytes) : Option (Bytes × Bytes) :=
  if n ≤ bs.length then some (bs.take n, bs.drop n) else none

/-- The number and the kind in front of a field. -/
def key (bs : Bytes) : Option (Nat × Nat × Bytes) := do
  let (k, rest) ← varint bs
  if Nat.pow 2 32 ≤ k || k / 8 = 0 || 5 < k % 8 then none else some (k / 8, k % 8, rest)

/-- Skip the fields of a group up to its closing mark; `field` reads what follows a key. -/
def skipGroup (field : Nat → Nat → Bytes → Option (Content × Bytes)) (number : Nat) :
    Nat → Bytes → Option Bytes
  | 0, _ => none
  | fuel + 1, bs => do
    let (n, kind, rest) ← key bs
    if kind = 4 then if n = number then some rest else none
    else
      let (_, rest) ← field n kind rest
      skipGroup field number fuel rest

/-- Read the content of a field; `depth` more levels of fields are allowed. -/
def content : Nat → Nat → Nat → Bytes → Option (Content × Bytes)
  | 0, _, _, _ => none
  | depth + 1, number, kind, bs =>
    match kind with
    | 0 => (varint bs).map fun (n, rest) => (.varint n, rest)
    | 1 => (takeBytes 8 bs).map fun (_, rest) => (.fixed64, rest)
    | 2 => do
      let (n, rest) ← varint bs
      let (block, rest) ← takeBytes n rest
      return (.bytes block, rest)
    | 3 => (skipGroup (content depth) number (bs.length + 1) bs).map fun rest => (.group, rest)
    | 5 => (takeBytes 4 bs).map fun (_, rest) => (.fixed32, rest)
    | _ => none

/-- The levels of fields a reader allows. -/
def maxDepth : Nat := 100

/-- Read fields up to the end, at most `fuel` of them. -/
def readFields : Nat → Bytes → Option (List Field)
  | _, [] => some []
  | 0, _ => none
  | fuel + 1, bs => do
    let (number, kind, rest) ← key bs
    let (c, rest) ← content maxDepth number kind rest
    let fields ← readFields fuel rest
    return ⟨number, c⟩ :: fields

def fields (bs : Bytes) : Option (List Field) := readFields bs.length bs

/-- The bytes of a variable-length integer of at most `count` bytes. -/
def encodeVarintIn : Nat → Nat → Bytes
  | 0, _ => []
  | count + 1, n =>
    if n < 128 then [n.toUInt8] else (n % 128 + 128).toUInt8 :: encodeVarintIn count (n / 128)

/-- The bytes of an unsigned integer below `2 ^ 64`. -/
def encodeVarint (n : Nat) : Bytes := encodeVarintIn 10 n

/-- A byte string field; an empty one is not written. -/
def encodeBytes (number : Nat) (bs : Bytes) : Bytes :=
  if bs.isEmpty then [] else encodeVarint (number * 8 + 2) ++ encodeVarint bs.length ++ bs

/-- A signed integer field, as the 64-bit integer of the same residue; zero is not
written. -/
def encodeInt (number : Nat) (n : Int) : Bytes :=
  if n = 0 then []
  else encodeVarint (number * 8) ++ encodeVarint (n % (Nat.pow 2 64 : Nat)).toNat

/-- The signed 32-bit integer in the low bits of an integer. -/
def lowInt32 (n : Nat) : Int := (n : Int).bmod (Nat.pow 2 32)

end RestDispatch.Message
