import PackageRepos.Text.Utf8

/-!
# Text survives its encoding

Every character is read back from its bytes, by the number of the bytes, and with it every text.
-/

namespace PackageRepos
namespace Utf8

theorem decodeChar_eq {byte : UInt8} {rest left : List UInt8} {count low high code : Nat}
    (announced : lead byte = some (count, low, high))
    (read : continuation count low high (leadBits count byte) rest = .ok (code, left)) :
    decodeChar byte rest = .ok ⟨(Char.ofNat code, left), continuation_length_le read⟩ := by
  unfold decodeChar
  rw [announced]
  simp only
  split
  · rename_i found
    rw [read] at found
    cases found
    rfl
  · rename_i found
    rw [read] at found
    cases found

/-- A continuation byte in range adds its bits. -/
theorem continuation_continuationByte {count low high bits number : Nat} {rest : List UInt8}
    {result : Nat × List UInt8} (least : low ≤ 0x80 + number % 0x40)
    (most : 0x80 + number % 0x40 ≤ high)
    (read : continuation count 0x80 0xbf (bits * 0x40 + number % 0x40) rest = .ok result) :
    continuation (count + 1) low high bits (continuationByte number :: rest) = .ok result := by
  have byte_eq : (continuationByte number).toNat = 0x80 + number % 0x40 := by
    simp only [continuationByte, UInt8.toNat_ofNat']
    omega
  have bits_eq : (0x80 + number % 0x40) % 0x40 = number % 0x40 := by omega
  rw [continuation, byte_eq, if_pos ⟨least, most⟩, bits_eq, read]

/-- The numbers of characters leave a gap. -/
theorem toNat_of_char (char : Char) :
    char.toNat < 0xd800 ∨ 0xdfff < char.toNat ∧ char.toNat < 0x110000 :=
  char.valid

/-- A lead byte and the bytes after it are read as a character. -/
def ReadsAs (char : Char) (byte : UInt8) (more rest : List UInt8) : Prop :=
  ∃ count low high, lead byte = some (count, low, high) ∧
    continuation count low high (leadBits count byte) more = .ok (char.toNat, rest)

theorem toNat_ofNat_of_lt (number : Nat) (small : number < 0x100) :
    (UInt8.ofNat number).toNat = number := by
  rw [UInt8.toNat_ofNat']
  omega

theorem readsAs_one {char : Char} (rest : List UInt8) (most : char.toNat < 0x80) :
    ReadsAs char (UInt8.ofNat char.toNat) rest rest := by
  have byte_eq := toNat_ofNat_of_lt char.toNat (by omega)
  refine ⟨0, 0x80, 0xbf, by grind [lead], ?_⟩
  rw [continuation, leadBits, byte_eq]

theorem readsAs_two {char : Char} (rest : List UInt8) (least : 0x80 ≤ char.toNat)
    (most : char.toNat < 0x800) :
    ReadsAs char (UInt8.ofNat (0xc0 + char.toNat / 0x40)) (continuationByte char.toNat :: rest)
      rest := by
  have byte_eq := toNat_ofNat_of_lt (0xc0 + char.toNat / 0x40) (by omega)
  refine ⟨1, 0x80, 0xbf, by grind [lead], ?_⟩
  refine continuation_continuationByte (by omega) (by omega) ?_
  have code_eq : (0xc0 + char.toNat / 0x40) % 0x20 * 0x40 + char.toNat % 0x40 = char.toNat := by
    omega
  rw [continuation, leadBits, byte_eq, code_eq]

theorem readsAs_three {char : Char} (rest : List UInt8) (least : 0x800 ≤ char.toNat)
    (most : char.toNat < 0x10000) :
    ReadsAs char (UInt8.ofNat (0xe0 + char.toNat / 0x1000))
      (continuationByte (char.toNat / 0x40) :: continuationByte char.toNat :: rest) rest := by
  have valid := toNat_of_char char
  have byte_eq := toNat_ofNat_of_lt (0xe0 + char.toNat / 0x1000) (by omega)
  refine ⟨2, if char.toNat < 0x1000 then 0xa0 else 0x80,
    if char.toNat / 0x1000 = 0xd then 0x9f else 0xbf, by grind [lead], ?_⟩
  refine continuation_continuationByte (by split <;> omega) (by split <;> omega) ?_
  refine continuation_continuationByte (by omega) (by omega) ?_
  have code_eq : ((0xe0 + char.toNat / 0x1000) % 0x10 * 0x40 + char.toNat / 0x40 % 0x40) * 0x40 +
      char.toNat % 0x40 = char.toNat := by
    omega
  rw [continuation, leadBits, byte_eq, code_eq]

theorem readsAs_four {char : Char} (rest : List UInt8) (least : 0x10000 ≤ char.toNat) :
    ReadsAs char (UInt8.ofNat (0xf0 + char.toNat / 0x40000))
      (continuationByte (char.toNat / 0x1000) :: continuationByte (char.toNat / 0x40) ::
        continuationByte char.toNat :: rest) rest := by
  have valid := toNat_of_char char
  have byte_eq := toNat_ofNat_of_lt (0xf0 + char.toNat / 0x40000) (by omega)
  refine ⟨3, if char.toNat < 0x40000 then 0x90 else 0x80,
    if char.toNat / 0x40000 = 4 then 0x8f else 0xbf, by simp only [lead, byte_eq]; grind, ?_⟩
  refine continuation_continuationByte (by split <;> omega) (by split <;> omega) ?_
  refine continuation_continuationByte (by omega) (by omega) ?_
  refine continuation_continuationByte (by omega) (by omega) ?_
  have code_eq :
      (((0xf0 + char.toNat / 0x40000) % 0x08 * 0x40 + char.toNat / 0x1000 % 0x40) * 0x40 +
        char.toNat / 0x40 % 0x40) * 0x40 + char.toNat % 0x40 = char.toNat := by
    omega
  rw [continuation, leadBits, byte_eq, code_eq]
  all_goals omega

/-- Every character is read back from the bytes at the start. -/
theorem exists_readsAs (char : Char) (rest : List UInt8) :
    ∃ byte more, encodeChar char ++ rest = byte :: more ∧ ReadsAs char byte more rest := by
  unfold encodeChar
  simp only
  split
  · rename_i one
    exact ⟨_, _, rfl, readsAs_one rest one⟩
  · split
    · rename_i one two
      exact ⟨_, _, rfl, readsAs_two rest (by omega) two⟩
    · split
      · rename_i two three
        exact ⟨_, _, rfl, readsAs_three rest (by omega) three⟩
      · rename_i three
        exact ⟨_, _, rfl, readsAs_four rest (by omega)⟩

/-- Decoding takes back what encoding did, from any offset on. -/
theorem decodeFrom_encode (text : Text) (position : Nat) :
    decodeFrom position (encode text) = .ok text := by
  induction text generalizing position with
  | nil => simp [encode, decodeFrom]
  | cons char rest ih =>
    obtain ⟨byte, more, bytes_eq, count, low, high, announced, read⟩ :=
      exists_readsAs char (encode rest)
    rw [encode, List.flatMap_cons, ← encode, bytes_eq, decodeFrom, decodeChar_eq announced read]
    simp [ih]

/-- A text is read back from its bytes. -/
theorem decode_encode (text : Text) : decode (encode text) = .ok text :=
  decodeFrom_encode text 0

end Utf8
end PackageRepos
