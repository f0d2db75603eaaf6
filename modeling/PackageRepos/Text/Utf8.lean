import PackageRepos.Text.Quoted

/-!
# UTF-8

Strict decoding of bytes, which stops at the first sequence that no character has, and encoding.
A bad sequence is the longest prefix of a well-formed sequence that stands there, so its length and
the kind of fault are determined by the bytes alone.
-/

namespace PackageRepos
namespace Utf8

/-- Why a byte sequence is not the code of a character. -/
inductive Reason where
  | invalidStart
  | invalidContinuation
  | unexpectedEnd
deriving DecidableEq, Repr

/-- The first bad sequence of a byte string. -/
structure Fault where
  /-- Offset of the first bad byte. -/
  position : Nat
  /-- Number of bytes in the bad sequence. -/
  length : Nat
  /-- The first bad byte. -/
  byte : UInt8
  reason : Reason
deriving DecidableEq, Repr

/-- Number of continuation bytes that a lead byte announces, with the range of the first one. -/
def lead (byte : UInt8) : Option (Nat × Nat × Nat) :=
  let code := byte.toNat
  if code < 0x80 then some (0, 0x80, 0xbf)
  else if code < 0xc2 then none
  else if code < 0xe0 then some (1, 0x80, 0xbf)
  else if code = 0xe0 then some (2, 0xa0, 0xbf)
  else if code = 0xed then some (2, 0x80, 0x9f)
  else if code < 0xf0 then some (2, 0x80, 0xbf)
  else if code = 0xf0 then some (3, 0x90, 0xbf)
  else if code < 0xf4 then some (3, 0x80, 0xbf)
  else if code = 0xf4 then some (3, 0x80, 0x8f)
  else none

/-- The payload bits of a lead byte that announces the given number of continuation bytes. -/
def leadBits (count : Nat) (byte : UInt8) : Nat :=
  match count with
  | 0 => byte.toNat
  | 1 => byte.toNat % 0x20
  | 2 => byte.toNat % 0x10
  | _ => byte.toNat % 0x08

/-- Reads continuation bytes onto the bits read so far. The result is the code point and the bytes
after it, or the number of continuation bytes accepted before the fault. -/
def continuation : Nat → Nat → Nat → Nat → List UInt8 → Except (Nat × Reason) (Nat × List UInt8)
  | 0, _, _, bits, rest => .ok (bits, rest)
  | _ + 1, _, _, _, [] => .error (0, .unexpectedEnd)
  | count + 1, low, high, bits, byte :: rest =>
    if low ≤ byte.toNat ∧ byte.toNat ≤ high then
      match continuation count 0x80 0xbf (bits * 0x40 + byte.toNat % 0x40) rest with
      | .ok result => .ok result
      | .error (accepted, reason) => .error (accepted + 1, reason)
    else .error (0, .invalidContinuation)

theorem continuation_length_le {count low high bits : Nat} {bytes : List UInt8}
    {result : Nat × List UInt8} (accepted : continuation count low high bits bytes = .ok result) :
    result.2.length ≤ bytes.length := by
  fun_induction continuation count low high bits bytes generalizing result with
  | case1 => cases accepted; exact Nat.le_refl _
  | case3 _ _ _ _ _ _ _ inner innerEq ih =>
    have := ih innerEq
    simp_all
    omega
  | case2 | case4 | case5 => simp at accepted

/-- Reads one character. -/
def decodeChar (byte : UInt8) (rest : List UInt8) :
    Except (Nat × Reason) { result : Char × List UInt8 // result.2.length ≤ rest.length } :=
  match lead byte with
  | none => .error (1, .invalidStart)
  | some (count, low, high) =>
    match read : continuation count low high (leadBits count byte) rest with
    | .ok (code, left) => .ok ⟨(Char.ofNat code, left), continuation_length_le read⟩
    | .error (accepted, reason) => .error (accepted + 1, reason)

/-- Decodes from the given offset on. -/
def decodeFrom (position : Nat) (bytes : List UInt8) : Except Fault Text :=
  match bytes with
  | [] => .ok []
  | byte :: rest =>
    match decodeChar byte rest with
    | .error (length, reason) => .error { position, length, byte, reason }
    | .ok ⟨(char, left), shorter⟩ =>
      have : left.length < rest.length + 1 := Nat.lt_succ_of_le shorter
      match decodeFrom (position + (rest.length + 1 - left.length)) left with
      | .ok text => .ok (char :: text)
      | .error fault => .error fault
termination_by bytes.length
decreasing_by exact this

/-- The text that the bytes are the code of. -/
def decode (bytes : List UInt8) : Except Fault Text := decodeFrom 0 bytes

/-- A continuation byte with the lowest six bits of a number. -/
def continuationByte (bits : Nat) : UInt8 := UInt8.ofNat (0x80 + bits % 0x40)

/-- The bytes of a character. -/
def encodeChar (char : Char) : List UInt8 :=
  let code := char.toNat
  if code < 0x80 then [UInt8.ofNat code]
  else if code < 0x800 then [UInt8.ofNat (0xc0 + code / 0x40), continuationByte code]
  else if code < 0x10000 then
    [UInt8.ofNat (0xe0 + code / 0x1000), continuationByte (code / 0x40), continuationByte code]
  else
    [UInt8.ofNat (0xf0 + code / 0x40000), continuationByte (code / 0x1000),
      continuationByte (code / 0x40), continuationByte code]

/-- The bytes of a text. -/
def encode (text : Text) : List UInt8 := text.flatMap encodeChar

/-- A stretch of surrogates that stand for no character, so that they have no code. Where texts can
hold such, they cannot be encoded. -/
structure Uncodable where
  /-- The first of them. -/
  surrogate : Nat
  /-- How much of the text comes before. -/
  position : Nat
  /-- How many follow the first one. -/
  further : Nat := 0
deriving DecidableEq, Repr

/-- The wording of a reason. -/
def Reason.message : Reason → String
  | .invalidStart => "invalid start byte"
  | .invalidContinuation => "invalid continuation byte"
  | .unexpectedEnd => "unexpected end of data"

/-- The wording of a fault. A single bad byte is named, a longer sequence is located only. -/
def Fault.message (fault : Fault) : Text :=
  let reason := fault.reason.message
  let first := fault.position
  let last := fault.position + fault.length - 1
  let byte := String.ofList (Text.hexadecimal 2 fault.byte.toNat)
  if fault.length = 1 then
    Text.of s!"'utf-8' codec can't decode byte 0x{byte} in position {first}: {reason}"
  else
    Text.of s!"'utf-8' codec can't decode bytes in position {first}-{last}: {reason}"

/-- The wording for what has no code. A single surrogate is named, several are located only. -/
def Uncodable.message (fault : Uncodable) : Text :=
  let first := fault.position
  let last := fault.position + fault.further
  let digits := String.ofList (Text.hexadecimal 4 fault.surrogate)
  if fault.further = 0 then
    Text.of s!"'utf-8' codec can't encode character '\\u{digits}' in position {first}: " ++
      Text.of "surrogates not allowed"
  else
    Text.of s!"'utf-8' codec can't encode characters in position {first}-{last}: " ++
      Text.of "surrogates not allowed"

end Utf8
end PackageRepos
