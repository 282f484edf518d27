import FilePush.Text.Numeral

/-!
# Network addresses

Internet addresses of both versions, in the usual notation.  Version 4 is four decimal octets.
Version 6 is eight hexadecimal groups, where one run of zero groups may be written `::` and the last
two groups as a version 4 address.  What is written is the shortest form: the longest run of at
least two zero groups, the first of several equally long ones, becomes `::`, and an address that
stands for a version 4 address shows that one.

A version 6 address may mean different machines on different links.  Together with a port it can
therefore carry the number of its scope, which stands after a percent sign; zero means none and is
not written.
-/

namespace FilePush

/-- An internet address. -/
inductive IpAddress
  /-- A version 4 address. -/
  | v4 (octets : Vector UInt8 4)
  /-- A version 6 address. -/
  | v6 (groups : Vector UInt16 8)
  deriving DecidableEq, Repr

namespace IpAddress

/-! ## Writing -/

/-- Four octets with dots between them. -/
def dotted (octets : List UInt8) : String :=
  ".".intercalate (octets.map fun octet => toString octet.toNat)

/-- Groups with colons between them. -/
def colons (groups : List UInt16) : String :=
  ":".intercalate (groups.map fun group => Numeral.hex 1 group.toNat)

/-- A run of zero groups: where it starts and how long it is. -/
structure ZeroRun where
  /-- The index of its first group. -/
  start : Nat
  /-- The number of its groups. -/
  length : Nat
  deriving DecidableEq, Repr

/--
The longest run of zero groups, the first of several equally long ones.  `index` is the index of the
next group, `current` the run that ends before it, and `longest` the longest run so far.
-/
def longestZeroRun (index : Nat) (current longest : ZeroRun) : List UInt16 → ZeroRun
  | [] => longest
  | group :: rest =>
      if group = 0 then
        let grown : ZeroRun :=
          if current.length = 0 then ⟨index, 1⟩ else ⟨current.start, current.length + 1⟩
        longestZeroRun (index + 1) grown
          (if longest.length < grown.length then grown else longest) rest
      else longestZeroRun (index + 1) ⟨0, 0⟩ longest rest

/-- Eight groups in the shortest form. -/
def compressed (groups : List UInt16) : String :=
  match groups with
  | [0, 0, 0, 0, 0, 0xFFFF, high, low] =>
      "::ffff:" ++ dotted
        [(high >>> 8).toUInt8, high.toUInt8, (low >>> 8).toUInt8, low.toUInt8]
  | groups =>
      let run := longestZeroRun 0 ⟨0, 0⟩ ⟨0, 0⟩ groups
      if 1 < run.length then
        colons (groups.take run.start) ++ "::" ++ colons (groups.drop (run.start + run.length))
      else colons groups

/-- An address as text. -/
def display : IpAddress → String
  | v4 octets => dotted octets.toList
  | v6 groups => compressed groups.toList

/-! ## Reading -/

/-- The value of a digit below `radix`. -/
def digit? (radix : Nat) (char : Char) : Option Nat :=
  let value? :=
    if char.isDigit then some (char.toNat - '0'.toNat)
    else if 'a' ≤ char ∧ char ≤ 'f' then some (char.toNat - 'a'.toNat + 10)
    else if 'A' ≤ char ∧ char ≤ 'F' then some (char.toNat - 'A'.toNat + 10)
    else none
  value?.filter (· < radix)

/-- Read a numeral of at most `width` digits, and give what follows it. -/
def readNumber (radix width : Nat) (zeroFirst : Bool) (chars : List Char) :
    Option (Nat × List Char) :=
  let isDigit := fun char => (digit? radix char).isSome
  let digits := chars.takeWhile isDigit
  if digits.isEmpty || width < digits.length then none
  else if !zeroFirst && digits.head? = some '0' && 1 < digits.length then none
  else
    let value := digits.foldl (fun value char => value * radix + (digit? radix char).getD 0) 0
    some (value, chars.dropWhile isDigit)

/-- Read an octet: at most three digits, no superfluous zero, at most 255. -/
def readOctet (chars : List Char) : Option (UInt8 × List Char) :=
  match readNumber 10 3 false chars with
  | some (value, rest) => if value < 256 then some (UInt8.ofNat value, rest) else none
  | none => none

/-- Read an octet after a dot. -/
def readDotOctet : List Char → Option (UInt8 × List Char)
  | '.' :: rest => readOctet rest
  | _ => none

/-- Read four octets with dots between them. -/
def readDotted (chars : List Char) : Option (Vector UInt8 4 × List Char) := do
  let (first, chars) ← readOctet chars
  let (second, chars) ← readDotOctet chars
  let (third, chars) ← readDotOctet chars
  let (fourth, chars) ← readDotOctet chars
  return (#v[first, second, third, fourth], chars)

/-- Drop the colon before every group but the first. -/
def skipColon (first : Bool) (chars : List Char) : Option (List Char) :=
  if first then some chars
  else
    match chars with
    | ':' :: rest => some rest
    | _ => none

/-- The two groups that hold four octets. -/
def groupsOf (octets : Vector UInt8 4) : List UInt16 :=
  [octets[0].toUInt16 <<< 8 ||| octets[1].toUInt16, octets[2].toUInt16 <<< 8 ||| octets[3].toUInt16]

/--
Read as many groups as there are, `room` at most.  Where two groups fit, four octets may stand in
their place and end the reading, which the flag tells.
-/
def readGroups : (room : Nat) → (first : Bool) → List Char → List UInt16 × Bool × List Char
  | 0, _, chars => ([], false, chars)
  | room + 1, first, chars =>
      match skipColon first chars with
      | none => ([], false, chars)
      | some start =>
          match if room = 0 then none else readDotted start with
          | some (octets, rest) => (groupsOf octets, true, rest)
          | none =>
              match readNumber 16 4 true start with
              | none => ([], false, chars)
              | some (group, rest) =>
                  let (groups, dotted, last) := readGroups room false rest
                  (UInt16.ofNat group :: groups, dotted, last)

/-- The groups of an address, if there are eight. -/
def eight? (groups : List UInt16) : Option (Vector UInt16 8) :=
  if h : groups.toArray.size = 8 then some ⟨groups.toArray, h⟩ else none

/-- Read the groups of a version 6 address. -/
def readGrouped (chars : List Char) : Option (Vector UInt16 8 × List Char) := do
  let (front, dotted, rest) := readGroups 8 true chars
  if front.length = 8 then return (← eight? front, rest)
  if dotted then failure
  match rest with
  | ':' :: ':' :: rest =>
      let (back, _, last) := readGroups (7 - front.length) true rest
      let zeros := List.replicate (8 - front.length - back.length) 0
      return (← eight? (front ++ zeros ++ back), last)
  | _ => failure

/-- Read an address of either version. -/
def read (chars : List Char) : Option (IpAddress × List Char) :=
  match readDotted chars with
  | some (octets, rest) => some (.v4 octets, rest)
  | none => (readGrouped chars).map fun (groups, rest) => (.v6 groups, rest)

/-- The address that a text spells. -/
def parse? (text : String) : Option IpAddress :=
  match read text.toList with
  | some (address, []) => some address
  | _ => none

end IpAddress

/-- A port at an internet address. -/
inductive SocketAddress
  /-- A port at a version 4 address. -/
  | v4 (octets : Vector UInt8 4) (port : UInt16)
  /-- A port at a version 6 address, which is meant within a scope. -/
  | v6 (groups : Vector UInt16 8) (scope : UInt32) (port : UInt16)
  deriving DecidableEq, Repr

namespace SocketAddress

/-- A port at an address that is meant within no scope. -/
def ofIp (ip : IpAddress) (port : UInt16) : SocketAddress :=
  match ip with
  | .v4 octets => v4 octets port
  | .v6 groups => v6 groups 0 port

/-- The internet address. -/
def ip : SocketAddress → IpAddress
  | v4 octets _ => .v4 octets
  | v6 groups _ _ => .v6 groups

/-- The port. -/
def port : SocketAddress → UInt16
  | v4 _ port => port
  | v6 _ _ port => port

@[simp]
theorem ip_ofIp (ip : IpAddress) (port : UInt16) : (ofIp ip port).ip = ip := by
  cases ip <;> rfl

@[simp]
theorem port_ofIp (ip : IpAddress) (port : UInt16) : (ofIp ip port).port = port := by
  cases ip <;> rfl

/-! ## Writing -/

/-- A scope as it is written after an address. -/
def scopeMark (scope : UInt32) : String :=
  if scope = 0 then "" else "%" ++ toString scope.toNat

/-- An address and its port as text. -/
def display (address : SocketAddress) : String :=
  let port := toString address.port.toNat
  match address with
  | v4 _ _ => address.ip.display ++ ":" ++ port
  | v6 _ scope _ => "[" ++ address.ip.display ++ scopeMark scope ++ "]:" ++ port

/-! ## Reading -/

/-- The port that a text spells. -/
def parsePort? (text : String) : Option UInt16 :=
  (Numeral.parse? 65535 text).map UInt16.ofNat

/-- The port that the rest of an address spells, after a colon. -/
def portAfterColon? : List Char → Option UInt16
  | ':' :: rest => if rest.head? = some '+' then none else parsePort? (String.ofList rest)
  | _ => none

/-- Read the scope after an address; zero if none is there. -/
def readScope : List Char → Option (UInt32 × List Char)
  | '%' :: rest =>
      match IpAddress.readNumber 10 rest.length true rest with
      | some (value, rest) => if value < UInt32.size then some (UInt32.ofNat value, rest) else none
      | none => none
  | chars => some (0, chars)

/-- The address and port that a text spells. -/
def parse? (text : String) : Option SocketAddress :=
  match text.toList with
  | '[' :: chars => do
      let (groups, chars) ← IpAddress.readGrouped chars
      match ← readScope chars with
      | (scope, ']' :: chars) => return v6 groups scope (← portAfterColon? chars)
      | _ => failure
  | chars => do
      let (octets, chars) ← IpAddress.readDotted chars
      return v4 octets (← portAfterColon? chars)

end SocketAddress

end FilePush
