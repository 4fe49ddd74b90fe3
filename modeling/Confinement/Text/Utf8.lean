/-!
UTF-8. A byte string is read from the front as scalar values and ill-formed pieces; a piece is the
longest beginning of some well-formed sequence, or else one byte. Strict reading refuses any piece
and lossy reading shows U+FFFD for each.
-/

namespace Confinement

abbrev Bytes := List UInt8

namespace Text

def isTrail (byte : UInt8) : Bool :=
  0x80 ≤ byte && byte ≤ 0xbf

/-- Number of bytes in a sequence with this first byte, zero for a byte that starts none. -/
def sequenceLength (lead : UInt8) : Nat :=
  if lead ≤ 0x7f then 1
  else if 0xc2 ≤ lead && lead ≤ 0xdf then 2
  else if 0xe0 ≤ lead && lead ≤ 0xef then 3
  else if 0xf0 ≤ lead && lead ≤ 0xf4 then 4
  else 0

/-- Trail bytes allowed right after `lead`: overlong forms, surrogates and values past U+10FFFF
are told by the second byte. -/
def isSecond (lead second : UInt8) : Bool :=
  isTrail second &&
    (lead != 0xe0 || 0xa0 ≤ second) && (lead != 0xed || second ≤ 0x9f) &&
    (lead != 0xf0 || 0x90 ≤ second) && (lead != 0xf4 || second ≤ 0x8f)

/-- The six payload bits of a trail byte. -/
def trailBits (byte : UInt8) : Nat :=
  byte.toNat % 64

/-- What a byte string that begins with `lead` holds at its front, `none` for an ill-formed piece,
and the bytes after it. -/
def front (lead : UInt8) (rest : Bytes) : Option Char × Bytes :=
  match sequenceLength lead, rest with
  | 1, _ => (some (Char.ofNat lead.toNat), rest)
  | 2, b :: rest₁ =>
      if isSecond lead b then
        (some (Char.ofNat ((lead.toNat % 32) * 64 + trailBits b)), rest₁)
      else (none, rest)
  | 3, b :: rest₁ =>
      if isSecond lead b then
        match rest₁ with
        | c :: rest₂ =>
            if isTrail c then
              (some (Char.ofNat ((lead.toNat % 16 * 64 + trailBits b) * 64 + trailBits c)), rest₂)
            else (none, rest₁)
        | [] => (none, [])
      else (none, rest)
  | 4, b :: rest₁ =>
      if isSecond lead b then
        match rest₁ with
        | c :: rest₂ =>
            if isTrail c then
              match rest₂ with
              | d :: rest₃ =>
                  if isTrail d then
                    (some (Char.ofNat (((lead.toNat % 8 * 64 + trailBits b) * 64 + trailBits c) * 64
                      + trailBits d)), rest₃)
                  else (none, rest₂)
              | [] => (none, [])
            else (none, rest₁)
        | [] => (none, [])
      else (none, rest)
  | _, _ => (none, rest)

theorem length_front (lead : UInt8) (rest : Bytes) :
    (front lead rest).2.length ≤ rest.length := by
  unfold front
  repeat' split
  all_goals simp_all
  all_goals omega

/-- Scalar values and, as `none`, ill-formed pieces in order. -/
def scalars : Bytes → List (Option Char)
  | [] => []
  | lead :: rest => (front lead rest).1 :: scalars (front lead rest).2
termination_by bytes => bytes.length
decreasing_by
  have shorter := length_front lead rest
  simp only [List.length_cons]
  omega

/-- The text that well-formed bytes encode. -/
def decodeUtf8? (bytes : Bytes) : Option (List Char) :=
  (scalars bytes).mapM id

def decodeLossy (bytes : Bytes) : List Char :=
  (scalars bytes).map fun scalar => scalar.getD '\ufffd'

def encodeChar (c : Char) : Bytes :=
  let n := c.toNat
  if n < 0x80 then [UInt8.ofNat n]
  else if n < 0x800 then [UInt8.ofNat (0xc0 + n / 64), UInt8.ofNat (0x80 + n % 64)]
  else if n < 0x10000 then
    [UInt8.ofNat (0xe0 + n / 4096), UInt8.ofNat (0x80 + n / 64 % 64), UInt8.ofNat (0x80 + n % 64)]
  else
    [UInt8.ofNat (0xf0 + n / 262144), UInt8.ofNat (0x80 + n / 4096 % 64),
      UInt8.ofNat (0x80 + n / 64 % 64), UInt8.ofNat (0x80 + n % 64)]

def encodeUtf8 (text : List Char) : Bytes :=
  text.flatMap encodeChar

end Text

/-- The UTF-8 bytes of a text. -/
def utf8 (text : String) : Bytes :=
  Text.encodeUtf8 text.toList

/-- The text of bytes, with U+FFFD for each ill-formed piece. -/
def lossy (bytes : Bytes) : String :=
  String.ofList (Text.decodeLossy bytes)

/-- The text of well-formed bytes. -/
def text? (bytes : Bytes) : Option String :=
  (Text.decodeUtf8? bytes).map String.ofList

end Confinement
