/-!
# Byte strings and big-endian words

Everything that travels over a connection or rests in a file is a byte string.  The two integer
fields of a frame are written big-endian with a fixed width: `bigEndian` writes a word and
`ofBigEndian` reads one, and reading what was written gives the word back.
-/

namespace FilePush

/-- A string of bytes. -/
abbrev Bytes := List UInt8

namespace Bytes

/-- The value of a byte string read as one big-endian number. -/
def ofBigEndian (bytes : Bytes) : Nat :=
  bytes.foldl (fun value byte => value * 256 + byte.toNat) 0

/-- The number of values that `width` bytes can hold. -/
def capacity (width : Nat) : Nat := Nat.pow 256 width

theorem capacity_succ (width : Nat) : capacity (width + 1) = capacity width * 256 := rfl

/-- The `width` low-order bytes of `value`, most significant first. -/
def bigEndian : (width : Nat) → (value : Nat) → Bytes
  | 0, _ => []
  | width + 1, value => bigEndian width (value / 256) ++ [UInt8.ofNat (value % 256)]

@[simp]
theorem length_bigEndian (width value : Nat) : (bigEndian width value).length = width := by
  induction width generalizing value with
  | zero => rfl
  | succ width induction => simp [bigEndian, induction]

theorem ofBigEndian_append_singleton (bytes : Bytes) (byte : UInt8) :
    ofBigEndian (bytes ++ [byte]) = ofBigEndian bytes * 256 + byte.toNat := by
  simp [ofBigEndian]

theorem ofBigEndian_bigEndian (width value : Nat) (fits : value < capacity width) :
    ofBigEndian (bigEndian width value) = value := by
  induction width generalizing value with
  | zero =>
      have value_zero : value = 0 := Nat.lt_one_iff.mp fits
      simp [bigEndian, ofBigEndian, value_zero]
  | succ width induction =>
      have head_fits : value / 256 < capacity width := by
        apply Nat.div_lt_of_lt_mul
        rw [capacity_succ] at fits
        omega
      rw [bigEndian, ofBigEndian_append_singleton, induction _ head_fits, UInt8.toNat_ofNat']
      omega

end Bytes

end FilePush
