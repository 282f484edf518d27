import FilePush.Bytes

/-!
# The CRC-32 checksum

The checksum of a payload is the reflected CRC-32 with polynomial `0xEDB88320`, register and result
inverted.  It is computed byte by byte, so the checksum of a payload does not depend on how the
payload was cut into chunks: `update_append`.
-/

namespace FilePush

/-- The register of a running CRC-32 computation. -/
structure Checksum where
  /-- The register, before the final inversion. -/
  register : UInt32
  deriving DecidableEq, Repr

namespace Checksum

/-- The register before any byte. -/
def initial : Checksum := ⟨0xFFFFFFFF⟩

/-- Shift one bit out of the register. -/
def shiftBit (register : UInt32) : UInt32 :=
  if register &&& 1 = 1 then (register >>> 1) ^^^ 0xEDB88320 else register >>> 1

/-- Take one byte into the register. -/
def step (register : UInt32) (byte : UInt8) : UInt32 :=
  let mixed := register ^^^ byte.toUInt32
  shiftBit (shiftBit (shiftBit (shiftBit (shiftBit (shiftBit (shiftBit (shiftBit mixed)))))))

/-- Take a chunk into the register. -/
def update (checksum : Checksum) (chunk : Bytes) : Checksum :=
  ⟨chunk.foldl step checksum.register⟩

/-- The checksum of the bytes taken so far. -/
def value (checksum : Checksum) : UInt32 := checksum.register ^^^ 0xFFFFFFFF

/-- The checksum of a byte string. -/
def ofBytes (bytes : Bytes) : UInt32 := (initial.update bytes).value

@[simp]
theorem update_nil (checksum : Checksum) : checksum.update [] = checksum := rfl

theorem update_append (checksum : Checksum) (front back : Bytes) :
    checksum.update (front ++ back) = (checksum.update front).update back := by
  simp [update]

end Checksum

end FilePush
