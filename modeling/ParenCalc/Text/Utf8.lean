import ParenCalc.Text.Basic

/-! # Bytes as text

Bytes are read as UTF-8 in blocks. A character that a block leaves unfinished is carried over to
the next one, and positions in a fault count from the start of what was carried over. Surrogates
and spellings longer than needed are faults, as are bytes that start no character. A surrogate that
a block cuts off after its second byte is carried over too, so its fault is at the start.
-/

namespace ParenCalc.Text

/-- Why bytes are no text. -/
inductive Utf8Cause where
  | invalidStart
  | invalidContinuation
  | unexpectedEnd
deriving DecidableEq, Repr

/-- A fault: its cause, where it starts, and the bytes it covers. -/
structure Utf8Fault where
  cause : Utf8Cause
  position : Nat
  bytes : List UInt8
deriving DecidableEq, Repr

namespace Utf8

def causeText : Utf8Cause → Text
  | .invalidStart => "invalid start byte".toList
  | .invalidContinuation => "invalid continuation byte".toList
  | .unexpectedEnd => "unexpected end of data".toList

/-- One byte is named by its value, several by their positions. -/
def faultText (fault : Utf8Fault) : Text :=
  let subject := match fault.bytes with
    | [byte] => "byte 0x".toList ++ ofHex 2 byte.toNat ++ " in position ".toList
        ++ ofNat fault.position
    | bytes => "bytes in position ".toList ++ ofNat fault.position
        ++ '-' :: ofNat (fault.position + bytes.length - 1)
  "'utf-8' codec can't decode ".toList ++ subject ++ ": ".toList ++ causeText fault.cause

/-- How many bytes follow a first byte, and the range of the first of them. -/
def follow? (first : UInt8) : Option (Nat × UInt8 × UInt8) :=
  if first < 0x80 then some (0, 0x80, 0xBF)
  else if first < 0xC2 then none
  else if first < 0xE0 then some (1, 0x80, 0xBF)
  else if first = 0xE0 then some (2, 0xA0, 0xBF)
  else if first = 0xED then some (2, 0x80, 0x9F)
  else if first < 0xF0 then some (2, 0x80, 0xBF)
  else if first = 0xF0 then some (3, 0x90, 0xBF)
  else if first < 0xF4 then some (3, 0x80, 0xBF)
  else if first = 0xF4 then some (3, 0x80, 0x8F)
  else none

/-- The bits that a first byte contributes when `count` bytes follow it. -/
def leadBits (first : UInt8) (count : Nat) : Nat :=
  match count with
  | 0 => first.toNat
  | 1 => first.toNat % 0x20
  | 2 => first.toNat % 0x10
  | _ => first.toNat % 0x08

/-- Where the reading of a block stands inside a character: the bytes of it so far, the bits they
give, how many bytes are to come, and the range of the next one. -/
structure Pending where
  bytes : List UInt8 := []
  bits : Nat := 0
  missing : Nat := 0
  low : UInt8 := 0x80
  high : UInt8 := 0xBF

/-- A byte between characters. -/
def start (position : Nat) (byte : UInt8) : Except Utf8Fault (Option Char × Pending) :=
  match follow? byte with
  | none => .error ⟨.invalidStart, position, [byte]⟩
  | some (0, _, _) => .ok (some (Char.ofNat byte.toNat), {})
  | some (count, low, high) => .ok (none, ⟨[byte], leadBits byte count, count, low, high⟩)

/-- The first two bytes of a surrogate. -/
def startsSurrogate (bytes : List UInt8) (byte : UInt8) : Bool :=
  bytes == [0xED] && 0xA0 ≤ byte && byte ≤ 0xBF

/-- A byte inside a character; `isLast` says that the block ends with it. -/
def resume (position : Nat) (isLast : Bool) (pending : Pending) (byte : UInt8) :
    Except Utf8Fault (Option Char × Pending) :=
  if pending.low ≤ byte ∧ byte ≤ pending.high then
    let bits := pending.bits * 0x40 + byte.toNat % 0x40
    match pending.missing with
    | 0 | 1 => .ok (some (Char.ofNat bits), {})
    | missing + 1 => .ok (none, { bytes := pending.bytes ++ [byte], bits, missing })
  else if isLast && startsSurrogate pending.bytes byte then
    .error ⟨.invalidContinuation, 0, pending.bytes⟩
  else .error ⟨.invalidContinuation, position - pending.bytes.length, pending.bytes⟩

/-- Reads the bytes of a block, from the given position in it. Gives the text, and the character
that the block leaves unfinished. -/
def readBlock (position : Nat) (pending : Pending) :
    List UInt8 → Except Utf8Fault (Text × Pending)
  | [] => .ok ([], pending)
  | byte :: rest => do
    let (found, pending') ←
      if pending.bytes.isEmpty then start position byte
      else resume position rest.isEmpty pending byte
    let (text, last) ← readBlock (position + 1) pending' rest
    return (found.toList ++ text, last)

/-- Reads blocks one after the other. -/
def readBlocks (pending : Pending) : List (List UInt8) → Except Utf8Fault Text
  | [] =>
    if pending.bytes.isEmpty then .ok [] else .error ⟨.unexpectedEnd, 0, pending.bytes⟩
  | block :: rest => do
    let (text, last) ← readBlock pending.bytes.length pending block
    return text ++ (← readBlocks last rest)

/-- The number of bytes in a block. -/
def blockSize : Nat := 8192

/-- Cuts bytes into blocks; the fuel bounds the number of blocks. -/
def blocks (fuel : Nat) (bytes : List UInt8) : List (List UInt8) :=
  match fuel, bytes with
  | _, [] => []
  | 0, _ => []
  | fuel + 1, bytes => bytes.take blockSize :: blocks fuel (bytes.drop blockSize)

/-- The text that the bytes of a file spell. -/
def decode (bytes : List UInt8) : Except Utf8Fault Text :=
  readBlocks {} (blocks bytes.length bytes)

end Utf8

end ParenCalc.Text
