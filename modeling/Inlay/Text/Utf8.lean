/-
**Text as bytes.**

Programs exchange bytes, and not every sequence of bytes is a text.  Reading goes byte by byte: a byte
that cannot go on with the character begun before it spoils that character and is looked at afresh, so
every spoilt stretch is as long as a character could have begun with it.

Main definitions:

* `Inlay.Text.Utf8.encode` — the bytes of a text;
* `Inlay.Text.Utf8.decode` — the characters of a sequence of bytes, with a gap for each spoilt stretch;
* `Inlay.Text.Utf8.ofBytes?` — the text, if there are no gaps;
* `Inlay.Text.Utf8.ofBytes` — the text, with a replacement character in each gap.
-/

set_option autoImplicit false

namespace Inlay.Text.Utf8

/-! ### Writing -/

/-- The bytes of a character. -/
def encodeChar (c : Char) : List UInt8 :=
  let n := c.toNat
  let tail (weight : Nat) := (0x80 + n / weight % 64).toUInt8
  if n < 0x80 then [n.toUInt8]
  else if n < 0x800 then [(0xc0 + n / 0x40).toUInt8, tail 1]
  else if n < 0x10000 then [(0xe0 + n / 0x1000).toUInt8, tail 0x40, tail 1]
  else [(0xf0 + n / 0x40000).toUInt8, tail 0x1000, tail 0x40, tail 1]

/-- The bytes of a text. -/
def encode (cs : List Char) : List UInt8 :=
  cs.flatMap encodeChar

/-! ### Reading -/

/-- A character that has begun. -/
structure Begun where
  /-- How many bytes are missing. -/
  owed : Nat
  /-- The least next byte. -/
  low : Nat
  /-- The greatest next byte. -/
  high : Nat
  /-- The bits so far. -/
  bits : Nat

/-- The character that a byte begins, if one of several bytes. -/
def begin? (byte : Nat) : Option Begun :=
  if 0xc2 ≤ byte && byte ≤ 0xdf then some ⟨1, 0x80, 0xbf, byte - 0xc0⟩
  else if byte == 0xe0 then some ⟨2, 0xa0, 0xbf, 0⟩
  else if byte == 0xed then some ⟨2, 0x80, 0x9f, 0xd⟩
  else if 0xe1 ≤ byte && byte ≤ 0xef then some ⟨2, 0x80, 0xbf, byte - 0xe0⟩
  else if byte == 0xf0 then some ⟨3, 0x90, 0xbf, 0⟩
  else if 0xf1 ≤ byte && byte ≤ 0xf3 then some ⟨3, 0x80, 0xbf, byte - 0xf0⟩
  else if byte == 0xf4 then some ⟨3, 0x80, 0x8f, 4⟩
  else none

/-- What a byte gives between characters. -/
def start (byte : Nat) : List (Option Char) × Option Begun :=
  if byte < 0x80 then ([some (Char.ofNat byte)], none)
  else
    match begin? byte with
    | some begun => ([], some begun)
    | none => ([none], none)

/-- What a byte gives after what has begun before it. -/
def step : Option Begun → Nat → List (Option Char) × Option Begun
  | none, byte => start byte
  | some begun, byte =>
    if begun.low ≤ byte && byte ≤ begun.high then
      let bits := begun.bits * 64 + (byte - 0x80)
      if begun.owed ≤ 1 then ([some (Char.ofNat bits)], none)
      else ([], some ⟨begun.owed - 1, 0x80, 0xbf, bits⟩)
    else
      let (out, next) := start byte
      (none :: out, next)

/-- The characters after what has begun; `none` stands for a spoilt stretch. -/
def decodeFrom : Option Begun → List UInt8 → List (Option Char)
  | none, [] => []
  | some _, [] => [none]
  | state, byte :: rest =>
    let (out, next) := step state byte.toNat
    out ++ decodeFrom next rest

/-- The characters of a sequence of bytes; `none` stands for a spoilt stretch. -/
def decode (bytes : List UInt8) : List (Option Char) :=
  decodeFrom none bytes

/-- The text with the given bytes. -/
def ofBytes? (bytes : List UInt8) : Option String :=
  ((decode bytes).mapM id).map String.ofList

/-- The text with the given bytes, spoilt stretches replaced. -/
def ofBytes (bytes : List UInt8) : String :=
  String.ofList ((decode bytes).map fun c => c.getD '\ufffd')

end Inlay.Text.Utf8
