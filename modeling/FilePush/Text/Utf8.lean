import FilePush.Bytes

/-!
# UTF-8 text in byte strings

`decode?` reads a byte string as text and `encode` writes it; `decode?_eq_some_iff` says that the
two describe the same pairs.  A byte string that is not UTF-8 still has to be shown, and `segments`
cuts any byte string into scalars and maximal ill-formed subparts: the longest beginnings of a
scalar's encoding that the next byte cannot continue, or single bytes that begin nothing.
-/

namespace FilePush

namespace Utf8

/-- The UTF-8 encoding of a text. -/
def encode (text : String) : Bytes := text.toUTF8.data.toList

/-- The text that a byte string encodes, if it encodes one. -/
def decode? (bytes : Bytes) : Option String := String.fromUTF8? ⟨bytes.toArray⟩

theorem decode?_eq_some_iff {bytes : Bytes} {text : String} :
    decode? bytes = some text ↔ bytes = encode text := by
  unfold decode? encode String.fromUTF8?
  constructor
  · intro decoded
    split at decoded
    · rw [← Option.some.inj decoded]
      rfl
    · cases decoded
  · rintro rfl
    exact dif_pos text.isValidUTF8

@[simp]
theorem decode?_encode (text : String) : decode? (encode text) = some text :=
  decode?_eq_some_iff.mpr rfl

theorem encode_injective {left right : String} (same : encode left = encode right) :
    left = right := by
  have decoded := decode?_encode left
  rw [same, decode?_encode] at decoded
  exact (Option.some.inj decoded).symm

/-- A piece of a byte string as a reader of UTF-8 meets it. -/
inductive Segment
  /-- A completely encoded scalar. -/
  | scalar (char : Char)
  /-- A maximal ill-formed subpart. -/
  | broken (bytes : Bytes)
  deriving DecidableEq, Repr

/-- A scalar whose encoding has begun and is not complete. -/
structure Begun where
  /-- The bytes met so far. -/
  taken : Bytes
  /-- The bits they contribute. -/
  value : Nat
  /-- How many bytes are still to come, less one. -/
  more : Nat
  /-- Least byte that can come next. -/
  low : UInt8
  /-- Greatest byte that can come next. -/
  high : UInt8
  deriving DecidableEq, Repr

/-- What a byte does between scalars: it is a scalar, it begins one, or it is ill-formed. -/
def enter (byte : UInt8) : Segment ⊕ Begun :=
  if byte < 0x80 then .inl (.scalar (Char.ofNat byte.toNat))
  else if byte < 0xC2 then .inl (.broken [byte])
  else if byte < 0xE0 then .inr ⟨[byte], byte.toNat - 0xC0, 0, 0x80, 0xBF⟩
  else if byte = 0xE0 then .inr ⟨[byte], 0, 1, 0xA0, 0xBF⟩
  else if byte = 0xED then .inr ⟨[byte], 0xD, 1, 0x80, 0x9F⟩
  else if byte < 0xF0 then .inr ⟨[byte], byte.toNat - 0xE0, 1, 0x80, 0xBF⟩
  else if byte = 0xF0 then .inr ⟨[byte], 0, 2, 0x90, 0xBF⟩
  else if byte < 0xF4 then .inr ⟨[byte], byte.toNat - 0xF0, 2, 0x80, 0xBF⟩
  else if byte = 0xF4 then .inr ⟨[byte], 4, 2, 0x80, 0x8F⟩
  else .inl (.broken [byte])

/-- Cut a byte string, given the segments found so far (latest first) and the scalar begun. -/
def scan (found : List Segment) : Option Begun → Bytes → List Segment
  | none, [] => found.reverse
  | some begun, [] => (.broken begun.taken :: found).reverse
  | none, byte :: rest =>
      match enter byte with
      | .inl segment => scan (segment :: found) none rest
      | .inr begun => scan found (some begun) rest
  | some begun, byte :: rest =>
      if begun.low ≤ byte ∧ byte ≤ begun.high then
        let value := begun.value * 64 + byte.toNat % 64
        match begun.more with
        | 0 => scan (.scalar (Char.ofNat value) :: found) none rest
        | more + 1 => scan found (some ⟨begun.taken ++ [byte], value, more, 0x80, 0xBF⟩) rest
      else
        match enter byte with
        | .inl segment => scan (segment :: .broken begun.taken :: found) none rest
        | .inr next => scan (.broken begun.taken :: found) (some next) rest

/-- The scalars and maximal ill-formed subparts of a byte string, in order. -/
def segments (bytes : Bytes) : List Segment := scan [] none bytes

/-- The character that stands for an ill-formed subpart. -/
def replacement : Char := '\uFFFD'

/-- A byte string as text, each maximal ill-formed subpart replaced by one character. -/
def lossy (bytes : Bytes) : String :=
  String.ofList <| (segments bytes).map fun
    | .scalar char => char
    | .broken _ => replacement

end Utf8

end FilePush
