import QueryAdvisor.Text

/-!
# Encodings

Bytes to text in UTF-8, UTF-16 and UTF-32, and text to bytes in UTF-8. A surrogate on its own passes in
every direction, as the code point that it is; everything else that the encoding forms rule out is
refused: stray, missing and overlong sequences, numbers beyond the last code point.
-/

namespace QueryAdvisor

/-- A run of bytes. -/
abbrev Bytes := List UInt8

/-- An encoding form, with the order of the bytes of a unit where it has more than one. -/
inductive Encoding where
  | utf8
  | utf16 (bigEndian : Bool)
  | utf32 (bigEndian : Bool)
  deriving DecidableEq, Repr

namespace Encoding

/-! ### UTF-8 -/

/-- A byte that continues a sequence. -/
def isTail (b : UInt8) : Bool := 0x80 ≤ b && b ≤ 0xBF

/-- The number that a leading byte without its marker and some tails make. -/
def join (lead marker : UInt8) (tails : List UInt8) : Nat :=
  tails.foldl (fun n b => n * 0x40 + (b.toNat - 0x80)) (lead.toNat - marker.toNat)

/-- Decode; `read` is what has been read, last code point first. -/
def decodeUtf8 (read : Text) : Bytes → Option Text
  | [] => some read.reverse
  | a :: rest =>
    if a < 0x80 then decodeUtf8 (.ofNat a.toNat :: read) rest
    else if a < 0xC2 then none
    else if a < 0xE0 then
      match rest with
      | b :: rest => if isTail b then decodeUtf8 (.ofNat (join a 0xC0 [b]) :: read) rest else none
      | _ => none
    else if a < 0xF0 then
      match rest with
      | b :: c :: rest =>
        if isTail b && isTail c && 0x800 ≤ join a 0xE0 [b, c] then
          decodeUtf8 (.ofNat (join a 0xE0 [b, c]) :: read) rest
        else none
      | _ => none
    else
      match rest with
      | b :: c :: d :: rest =>
        if isTail b && isTail c && isTail d && 0x10000 ≤ join a 0xF0 [b, c, d] &&
            join a 0xF0 [b, c, d] < 0x110000 then
          decodeUtf8 (.ofNat (join a 0xF0 [b, c, d]) :: read) rest
        else none
      | _ => none

/-- The text that bytes hold in UTF-8. Where they hold none, those of ASCII stand for themselves and the
others for the replacement character. -/
def decodeUtf8Anyway (bytes : Bytes) : Text :=
  match (decodeUtf8 [] bytes).filter (!Text.hasSurrogate ·) with
  | some t => t
  | none => bytes.map fun b => .ofNat (if b < 0x80 then b.toNat else 0xFFFD)

/-- The bytes of a code point. -/
def encodePoint (c : CodePoint) : Bytes :=
  let n := c.val
  let tail (k : Nat) : UInt8 := .ofNat (0x80 + n / Nat.pow 0x40 k % 0x40)
  if n < 0x80 then [.ofNat n]
  else if n < 0x800 then [.ofNat (0xC0 + n / 0x40), tail 0]
  else if n < 0x10000 then [.ofNat (0xE0 + n / 0x1000), tail 1, tail 0]
  else [.ofNat (0xF0 + n / 0x40000), tail 2, tail 1, tail 0]

/-- The bytes of a text. -/
def encodeUtf8 (t : Text) : Bytes := t.flatMap encodePoint

/-! ### UTF-16 and UTF-32 -/

/-- The number that the bytes of a unit make. -/
def unit (bigEndian : Bool) (bytes : Bytes) : Nat :=
  (if bigEndian then bytes else bytes.reverse).foldl (fun n b => n * 0x100 + b.toNat) 0

/-- The units of two bytes. -/
def units16? (bigEndian : Bool) : Bytes → Option Text
  | [] => some []
  | a :: b :: rest => (units16? bigEndian rest).map (.ofNat (unit bigEndian [a, b]) :: ·)
  | _ => none

/-- The units of four bytes, each a code point. -/
def units32? (bigEndian : Bool) : Bytes → Option Text
  | [] => some []
  | a :: b :: c :: d :: rest =>
    if unit bigEndian [a, b, c, d] < 0x110000 then
      (units32? bigEndian rest).map (.ofNat (unit bigEndian [a, b, c, d]) :: ·)
    else none
  | _ => none

/-- A high surrogate and the low one behind it become the code point they stand for. -/
def joinPairs : Text → Text
  | high :: low :: rest =>
    if high.isHighSurrogate && low.isLowSurrogate then high.joinSurrogates low :: joinPairs rest
    else high :: joinPairs (low :: rest)
  | t => t

/-- The text that bytes encode. -/
def decode (encoding : Encoding) (bytes : Bytes) : Option Text :=
  match encoding with
  | .utf8 => decodeUtf8 [] bytes
  | .utf16 bigEndian => (units16? bigEndian bytes).map joinPairs
  | .utf32 bigEndian => units32? bigEndian bytes

/-! ### Which encoding -/

/-- The byte order marks, the longer ones first. -/
def marks : List (Bytes × Encoding) :=
  [([0x00, 0x00, 0xFE, 0xFF], .utf32 true), ([0xFF, 0xFE, 0x00, 0x00], .utf32 false),
    ([0xFE, 0xFF], .utf16 true), ([0xFF, 0xFE], .utf16 false), ([0xEF, 0xBB, 0xBF], .utf8)]

/-- Without a mark the zero bytes tell: text of some structured format begins with two code points of
ASCII, so the places of the zeros show the width and the order of the units. -/
def ofZeros (bytes : Bytes) : Encoding :=
  match bytes with
  | a :: b :: c :: d :: _ =>
    if a = 0 then if b = 0 then .utf32 true else .utf16 true
    else if b = 0 then if c = 0 ∧ d = 0 then .utf32 false else .utf16 false
    else .utf8
  | [a, b] => if a = 0 then .utf16 true else if b = 0 then .utf16 false else .utf8
  | _ => .utf8

/-- The encoding of some bytes, and the bytes behind their byte order mark. -/
def detect (bytes : Bytes) : Encoding × Bytes :=
  match marks.find? (fun mark => mark.1.isPrefixOf bytes) with
  | some (mark, encoding) => (encoding, bytes.drop mark.length)
  | none => (ofZeros bytes, bytes)

end Encoding

/-- The text that bytes hold, in the encoding that their start announces. -/
def Text.ofBytes? (bytes : Bytes) : Option Text :=
  let (encoding, bytes) := Encoding.detect bytes
  encoding.decode bytes

end QueryAdvisor
