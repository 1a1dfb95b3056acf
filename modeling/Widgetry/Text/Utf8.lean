import Widgetry.Text.Basic

/-!
# UTF-8

`next` reads one character off a list of bytes, or says why there is none. `decode` reads them
all and reports the first fault with its place; `lenient` goes on after a fault and marks each
byte that belongs to no character.
-/

namespace Widgetry.Text

/-- A list of bytes. -/
abbrev Bytes := List UInt8

namespace Utf8

/-- What stands at the head of a list of bytes. -/
inductive Step where
  | finished
  | character (c : Char) (width : Nat)
  | invalid (width : Nat)
  | truncated
  deriving Repr, DecidableEq

/-- The byte continues a character. -/
def isContinuation (b : UInt8) : Bool :=
  0x80 ≤ b && b ≤ 0xBF

/-- The bytes that may follow the first byte of a character of three or four bytes. The bounds
exclude overlong forms, surrogates and code points above the last plane. -/
def followers (lead : UInt8) : UInt8 × UInt8 :=
  if lead = 0xE0 then (0xA0, 0xBF)
  else if lead = 0xED then (0x80, 0x9F)
  else if lead = 0xF0 then (0x90, 0xBF)
  else if lead = 0xF4 then (0x80, 0x8F)
  else (0x80, 0xBF)

/-- The byte may stand second after `lead`. -/
def follows (lead b : UInt8) : Bool :=
  (followers lead).1 ≤ b && b ≤ (followers lead).2

/-- The low bits that a continuation byte carries. -/
def payload (b : UInt8) : Nat :=
  b.toNat % 0x40

/-- Read the character of two bytes that starts with `lead`. -/
def next2 (lead : UInt8) : Bytes → Step
  | [] => .truncated
  | b :: _ =>
      if isContinuation b then .character (Char.ofNat (lead.toNat % 0x20 * 0x40 + payload b)) 2
      else .invalid 1

/-- Read the character of three bytes that starts with `lead`. -/
def next3 (lead : UInt8) : Bytes → Step
  | [] => .truncated
  | b :: rest =>
      if !follows lead b then .invalid 1
      else
        match rest with
        | [] => .truncated
        | c :: _ =>
            if isContinuation c then
              .character (Char.ofNat (lead.toNat % 0x10 * 0x1000 + payload b * 0x40 + payload c)) 3
            else .invalid 2

/-- Read the character of four bytes that starts with `lead`. -/
def next4 (lead : UInt8) : Bytes → Step
  | [] => .truncated
  | b :: rest =>
      if !follows lead b then .invalid 1
      else
        match rest with
        | [] => .truncated
        | c :: rest =>
            if !isContinuation c then .invalid 2
            else
              match rest with
              | [] => .truncated
              | d :: _ =>
                  if isContinuation d then
                    .character (Char.ofNat (lead.toNat % 0x08 * 0x40000 + payload b * 0x1000 +
                      payload c * 0x40 + payload d)) 4
                  else .invalid 3

/-- Read one character. An invalid beginning has a width, the number of bytes that no further
byte can complete; a truncated one could still be completed. -/
def next : Bytes → Step
  | [] => .finished
  | lead :: rest =>
      if lead < 0x80 then .character (Char.ofNat lead.toNat) 1
      else if 0xC2 ≤ lead && lead ≤ 0xDF then next2 lead rest
      else if 0xE0 ≤ lead && lead ≤ 0xEF then next3 lead rest
      else if 0xF0 ≤ lead && lead ≤ 0xF4 then next4 lead rest
      else .invalid 1

/-- Why bytes are not text: the place of the first byte that starts no character, and the number
of bytes in fault unless the input just ends too early. -/
structure Fault where
  index : Nat
  width : Option Nat
  deriving Repr, DecidableEq

/-- The text of a fault. -/
def Fault.message (fault : Fault) : String :=
  match fault.width with
  | some width =>
      "invalid utf-8 sequence of " ++ decimal width ++ " bytes from index " ++ decimal fault.index
  | none => "incomplete utf-8 byte sequence from index " ++ decimal fault.index

/-- Read all characters from place `index` on; `fuel` bounds their number. -/
def decodeFrom : (fuel index : Nat) → Bytes → Except Fault (List Char)
  | 0, _, _ => .ok []
  | fuel + 1, index, bytes =>
      match next bytes with
      | .finished => .ok []
      | .character c width => do
          let rest ← decodeFrom fuel (index + width) (bytes.drop width)
          .ok (c :: rest)
      | .invalid width => .error ⟨index, some width⟩
      | .truncated => .error ⟨index, none⟩

/-- Read bytes as text. -/
def decode (bytes : Bytes) : Except Fault String :=
  (decodeFrom bytes.length 0 bytes).map String.ofList

/-- Read all characters; a byte that starts no character gives `none`. -/
def lenientFrom : (fuel : Nat) → Bytes → List (Option Char)
  | 0, _ => []
  | fuel + 1, bytes =>
      match next bytes with
      | .finished => []
      | .character c width => some c :: lenientFrom fuel (bytes.drop width)
      | _ => none :: lenientFrom fuel (bytes.drop 1)

/-- The characters of a list of bytes, with `none` for each byte that belongs to no character. -/
def lenient (bytes : Bytes) : List (Option Char) :=
  lenientFrom bytes.length bytes

/-- The bytes of a text. -/
def encode (s : String) : Bytes :=
  s.toList.flatMap String.utf8EncodeChar

end Utf8

end Widgetry.Text
