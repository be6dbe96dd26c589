import RestDispatch.Number.Reading

/-!
# Integer types
-/

namespace RestDispatch

/-- The integer types of parameters, fields and results. -/
inductive IntegerType
  | i8
  | i16
  | i32
  | i64
  | u8
  | u16
  | u32
  | u64
  deriving DecidableEq, Repr

namespace IntegerType

def name : IntegerType → String
  | .i8 => "i8"
  | .i16 => "i16"
  | .i32 => "i32"
  | .i64 => "i64"
  | .u8 => "u8"
  | .u16 => "u16"
  | .u32 => "u32"
  | .u64 => "u64"

def width : IntegerType → Nat
  | .i8 => 8
  | .i16 => 16
  | .i32 => 32
  | .i64 => 64
  | .u8 => 8
  | .u16 => 16
  | .u32 => 32
  | .u64 => 64

def isSigned : IntegerType → Bool
  | .i8 => true
  | .i16 => true
  | .i32 => true
  | .i64 => true
  | _ => false

def range (t : IntegerType) : IntegerRange :=
  if t.isSigned then ⟨-(Nat.pow 2 (t.width - 1) : Nat), (Nat.pow 2 (t.width - 1) : Nat) - 1⟩
  else ⟨0, (Nat.pow 2 t.width : Nat) - 1⟩

end IntegerType

end RestDispatch
