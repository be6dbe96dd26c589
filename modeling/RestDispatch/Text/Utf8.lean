/-!
# UTF-8

Characters to bytes and back.  Reading reports the first place where the bytes stop
being UTF-8: how many bytes of an ill-formed sequence can be told apart from the next
character, or that the text ends inside a character.  A lossy reading puts U+FFFD in
place of each ill-formed sequence.
-/

namespace RestDispatch

/-- Byte strings: bodies, message encodings and undecoded components. -/
abbrev Bytes := List UInt8

namespace Text

/-- Where and how a byte string stops being UTF-8. -/
inductive Utf8Fault
  /-- `count` bytes from `index` on belong to no character. -/
  | invalid (count index : Nat)
  /-- The bytes end inside the character that starts at `index`. -/
  | incomplete (index : Nat)
  deriving DecidableEq, Repr

/-- The sentence that reports a fault. -/
def Utf8Fault.message : Utf8Fault → String
  | .invalid count index =>
    "invalid utf-8 sequence of " ++ toString count ++ " bytes from index " ++ toString index
  | .incomplete index => "incomplete utf-8 byte sequence from index " ++ toString index

def encodeChar (c : Char) : Bytes :=
  let n := c.toNat
  if n < 0x80 then [n.toUInt8]
  else if n < 0x800 then [(0xC0 + n / 64).toUInt8, (0x80 + n % 64).toUInt8]
  else if n < 0x10000 then
    [(0xE0 + n / 4096).toUInt8, (0x80 + n / 64 % 64).toUInt8, (0x80 + n % 64).toUInt8]
  else
    [(0xF0 + n / 262144).toUInt8, (0x80 + n / 4096 % 64).toUInt8,
      (0x80 + n / 64 % 64).toUInt8, (0x80 + n % 64).toUInt8]

def encodeUtf8 (cs : List Char) : Bytes := cs.flatMap encodeChar

def bytes (s : String) : Bytes := encodeUtf8 s.toList

/-- Continuation bytes. -/
def isTail (b : UInt8) : Bool := 0x80 ≤ b && b ≤ 0xBF

/-- The second byte a lead byte of a three- or four-byte character allows. -/
def isSecond (lead b : UInt8) : Bool :=
  if lead = 0xE0 then 0xA0 ≤ b && b ≤ 0xBF
  else if lead = 0xED then 0x80 ≤ b && b ≤ 0x9F
  else if lead = 0xF0 then 0x90 ≤ b && b ≤ 0xBF
  else if lead = 0xF4 then 0x80 ≤ b && b ≤ 0x8F
  else isTail b

/-- The six low bits of a continuation byte. -/
def tailBits (b : UInt8) : Nat := b.toNat % 64

/-- What stands at the front of a byte string. -/
inductive Leading
  /-- A character whose lead byte is followed by `tails` more bytes. -/
  | char (c : Char) (tails : Nat)
  /-- The lead byte and `tails` more bytes that belong to no character. -/
  | invalid (tails : Nat)
  /-- A character cut short by the end. -/
  | incomplete

/-- Read one character off the byte string made of `lead` and `rest`. -/
def leading (lead : UInt8) (rest : Bytes) : Leading :=
  if lead < 0x80 then .char (Char.ofNat lead.toNat) 0
  else if 0xC2 ≤ lead && lead ≤ 0xDF then
    match rest with
    | [] => .incomplete
    | b :: _ =>
      if isTail b then .char (Char.ofNat (lead.toNat % 32 * 64 + tailBits b)) 1
      else .invalid 0
  else if 0xE0 ≤ lead && lead ≤ 0xEF then
    match rest with
    | [] => .incomplete
    | [b] => if isSecond lead b then .incomplete else .invalid 0
    | b :: c :: _ =>
      if !isSecond lead b then .invalid 0
      else if isTail c then
        .char (Char.ofNat (lead.toNat % 16 * 4096 + tailBits b * 64 + tailBits c)) 2
      else .invalid 1
  else if 0xF0 ≤ lead && lead ≤ 0xF4 then
    match rest with
    | [] => .incomplete
    | [b] => if isSecond lead b then .incomplete else .invalid 0
    | [b, c] =>
      if !isSecond lead b then .invalid 0 else if isTail c then .incomplete else .invalid 1
    | b :: c :: d :: _ =>
      if !isSecond lead b then .invalid 0
      else if !isTail c then .invalid 1
      else if isTail d then
        .char (Char.ofNat (lead.toNat % 8 * 262144 + tailBits b * 4096 +
          tailBits c * 64 + tailBits d)) 3
      else .invalid 2
  else .invalid 0

/-- Read a text whose first byte has the given index; `acc` holds the characters read
so far, last first. -/
def decodeFrom (index : Nat) (acc : List Char) : Bytes → Except Utf8Fault (List Char)
  | [] => .ok acc.reverse
  | lead :: rest =>
    match leading lead rest with
    | .char c tails => decodeFrom (index + 1 + tails) (c :: acc) (rest.drop tails)
    | .invalid tails => .error (.invalid (tails + 1) index)
    | .incomplete => .error (.incomplete index)
termination_by bs => bs.length
decreasing_by
  simp only [List.length_cons, List.length_drop]
  omega

/-- Read a byte string as UTF-8. -/
def decodeUtf8 (bs : Bytes) : Except Utf8Fault (List Char) := decodeFrom 0 [] bs

def string? (bs : Bytes) : Option String :=
  match decodeUtf8 bs with
  | .ok cs => some (String.ofList cs)
  | .error _ => none

/-- Read a byte string as UTF-8 with U+FFFD for every ill-formed sequence; `acc` holds
the characters read so far, last first. -/
def decodeLossyFrom (acc : List Char) : Bytes → List Char
  | [] => acc.reverse
  | lead :: rest =>
    match leading lead rest with
    | .char c tails => decodeLossyFrom (c :: acc) (rest.drop tails)
    | .invalid tails => decodeLossyFrom ('\ufffd' :: acc) (rest.drop tails)
    | .incomplete => ('\ufffd' :: acc).reverse
termination_by bs => bs.length
decreasing_by
  all_goals
    simp only [List.length_cons, List.length_drop]
    omega

/-- The string of a byte string, ill-formed sequences replaced. -/
def lossyString (bs : Bytes) : String := String.ofList (decodeLossyFrom [] bs)

end Text

end RestDispatch
