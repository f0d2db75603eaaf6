import PackageRepos.Text.Basic

/-!
# Units of two and four bytes

Texts as units of two bytes, of which some characters take two, or as units of four bytes. The
bytes of a unit come in one of two orders, which a mark at the start may tell.
-/

namespace PackageRepos
namespace Encoding

/-- The bytes of a number, the least significant byte first. -/
def bytesOf (width number : Nat) : List UInt8 :=
  (List.range width).map fun index => UInt8.ofNat (number >>> (8 * index))

/-- The bytes of a unit of an order. -/
def unitBytes (width : Nat) (bigEndian : Bool) (unit : Nat) : List UInt8 :=
  if bigEndian then (bytesOf width unit).reverse else bytesOf width unit

/-- The units of two bytes that a character is written with. -/
def units16 (char : Char) : List Nat :=
  let code := char.toNat
  if code < 0x10000 then [code]
  else [0xd800 + (code - 0x10000) / 0x400, 0xdc00 + (code - 0x10000) % 0x400]

/-- Units with the mark that tells their order, where it is not given and the bytes begin a
file. -/
def encodeUnits (width : Nat) (bigEndian : Option Bool) (isStart : Bool) (units : List Nat) :
    List UInt8 :=
  let marked := if bigEndian.isNone && isStart then 0xfeff :: units else units
  marked.flatMap (unitBytes width (bigEndian.getD false))

end Encoding
end PackageRepos
