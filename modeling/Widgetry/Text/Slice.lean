import Widgetry.Text.Utf8

/-!
# Slices of bytes

The bytes of a text can be cut where a character begins and where the text ends, and nowhere else.
`sliceTo?` and `sliceFrom?` cut at a place and fail inside a character; `find?` is the place of the
first occurrence of a pattern.
-/

namespace Widgetry.Text.Utf8

/-- A character begins at the place, or the bytes end there. -/
def isBoundary (bytes : Bytes) (place : Nat) : Bool :=
  match bytes.drop place with
  | [] => place == bytes.length
  | b :: _ => !isContinuation b

/-- The bytes before a place. -/
def sliceTo? (bytes : Bytes) (place : Nat) : Option Bytes :=
  if isBoundary bytes place then some (bytes.take place) else none

/-- The bytes from a place on. -/
def sliceFrom? (bytes : Bytes) (place : Nat) : Option Bytes :=
  if isBoundary bytes place then some (bytes.drop place) else none

/-- The place of the first occurrence of a pattern. -/
def find? (pattern : Bytes) : Bytes → Option Nat
  | [] => if pattern.isEmpty then some 0 else none
  | b :: bytes =>
      if pattern.isPrefixOf (b :: bytes) then some 0 else (find? pattern bytes).map (· + 1)

/-- Lower the byte of an ASCII capital letter. -/
def lowerByte (b : UInt8) : UInt8 :=
  if 0x41 ≤ b && b ≤ 0x5A then b + 0x20 else b

/-- Two lists of bytes are equal up to the case of ASCII letters. -/
def equalFolded (bytes others : Bytes) : Bool :=
  bytes.map lowerByte == others.map lowerByte

/-- A slice ends where the bytes end. -/
theorem length_slice_from? {bytes after : Bytes} {place : Nat}
    (h : sliceFrom? bytes place = some after) : after.length + place = bytes.length := by
  unfold sliceFrom? at h
  split at h
  next hboundary =>
    have hafter : bytes.drop place = after := Option.some.inj h
    have hlength : after.length = bytes.length - place := by rw [← hafter, List.length_drop]
    unfold isBoundary at hboundary
    rw [hafter] at hboundary
    cases after with
    | nil => simpa using hboundary
    | cons b after =>
        rw [List.length_cons] at hlength ⊢
        omega
  next => cases h

end Widgetry.Text.Utf8
