import Mathlib.Data.UInt
import Mathlib.Data.List.Basic

/-! JSON objects as derived code writes and reads them.

A record is written as one entry for each field, in order; a field may be left out when
it is absent or holds its default. Reading takes the entries of a field by name: an
unknown entry is ignored, one that comes twice is refused, and a missing one is refused
unless the field is optional or has a default. -/
namespace Json

inductive Value where
  | null
  | bool (b : Bool)
  | number (n : Int)
  | string (s : String)
  | array (items : List Value)
  | object (entries : List (String × Value))

abbrev Entries := List (String × Value)

/-- A property of an object, for a reader that keeps the last entry of a name; `none` if
there is none. -/
def member (entries : Entries) (name : String) : Option Value := entries.reverse.lookup name

/-- How a type is written, and read back. -/
structure Codec (α : Type) where
  write : α → Value
  read : Value → Option α
  read_write : ∀ a, read (write a) = some a
  /-- Nothing is written as `null`, which stands for an absent field. -/
  present : ∀ a, write a ≠ .null

namespace Codec
variable {α : Type}

def string : Codec String where
  write := .string
  read
    | .string s => some s
    | _ => none
  read_write _ := rfl
  present _ := Value.noConfusion

def bool : Codec Bool where
  write := .bool
  read
    | .bool b => some b
    | _ => none
  read_write _ := rfl
  present _ := Value.noConfusion

def u16 : Codec UInt16 where
  write n := .number n.toNat
  read
    | .number n => if 0 ≤ n ∧ n < 65536 then some (.ofNat n.toNat) else none
    | _ => none
  read_write n := by
    have hlt := n.toNat_lt
    simp only [Int.toNat_natCast, UInt16.ofNat_toNat]
    rw [if_pos (by omega)]
  present _ := Value.noConfusion

/-- A variant is written as its name. -/
def variant (variants : List α) (name : α → String) (hall : ∀ a, a ∈ variants) (hname : Function.Injective name) :
    Codec α where
  write a := .string (name a)
  read
    | .string s => variants.find? fun a => name a = s
    | _ => none
  read_write a := by
    have hsome : (variants.find? fun b => name b = name a).isSome :=
      List.find?_isSome.mpr ⟨a, hall a, by simp⟩
    obtain ⟨b, hb⟩ := Option.isSome_iff_exists.mp hsome
    have hba : b = a := hname (by simpa using List.find?_some hb)
    exact hba ▸ hb
  present _ := Value.noConfusion

/-! ### Writing a field -/

section Write
variable (c : Codec α) (name : String)

def field (a : α) : Entries := [(name, c.write a)]

/-- An absent field is left out. -/
def optional (a : Option α) : Entries := a.toList.map fun a => (name, c.write a)

/-- A field that holds the default is left out. -/
def unlessDefault [DecidableEq α] (default a : α) : Entries := if a = default then [] else c.field name a

end Write

end Codec

/-! ### Reading a field -/

/-- The values of a field. -/
def named (name : String) (entries : Entries) : List Value :=
  (entries.filter fun entry => entry.1 = name).map Prod.snd

namespace Codec
variable {α : Type} (c : Codec α) (name : String)

def readField (entries : Entries) : Option α :=
  match named name entries with
  | [value] => c.read value
  | _ => none

def readOptional (entries : Entries) : Option (Option α) :=
  match named name entries with
  | [] => some none
  | [.null] => some none
  | [value] => (c.read value).map some
  | _ => none

def readDefault (default : α) (entries : Entries) : Option α :=
  match named name entries with
  | [] => some default
  | [value] => c.read value
  | _ => none

end Codec

/-! ### What a written field is read as -/

section Read
variable {α : Type} {c : Codec α} {name other : String} {entries : Entries}

@[simp] theorem named_nil : named name [] = [] := rfl

@[simp] theorem named_append (a b : Entries) : named name (a ++ b) = named name a ++ named name b := by
  simp [named]

@[simp] theorem named_field (a : α) : named name (c.field other a) = if other = name then [c.write a] else [] := by
  simp only [named, Codec.field, List.filter_cons, List.filter_nil, decide_eq_true_eq]
  split <;> rfl

@[simp] theorem named_optional (a : Option α) :
    named name (c.optional other a) = if other = name then a.toList.map c.write else [] := by
  cases a with
  | none => simp [Codec.optional]
  | some a => exact named_field a

@[simp] theorem named_unlessDefault [DecidableEq α] (default a : α) :
    named name (c.unlessDefault other default a) =
      if other = name then if a = default then [] else [c.write a] else [] := by
  unfold Codec.unlessDefault
  split
  · simp
  · exact named_field a

theorem readField_of_written {a : α} (h : named name entries = [c.write a]) : c.readField name entries = some a := by
  simp only [Codec.readField, h, c.read_write]

theorem readField_of_missing (h : named name entries = []) : c.readField name entries = none := by
  simp only [Codec.readField, h]

theorem readOptional_of_written {a : Option α} (h : named name entries = a.toList.map c.write) :
    c.readOptional name entries = some a := by
  cases a with
  | none => simp only [Codec.readOptional, h, Option.toList_none, List.map_nil]
  | some a =>
    simp only [Codec.readOptional, h, Option.toList_some, List.map_cons, List.map_nil]
    split
    · next heq => cases heq
    · next heq => exact absurd (List.cons.inj heq).1 (c.present a)
    · next value _ heq => rw [← (List.cons.inj heq).1, c.read_write]; rfl
    · next hne => exact absurd rfl (hne _)

theorem readDefault_of_missing {default : α} (h : named name entries = []) :
    c.readDefault name default entries = some default := by
  simp only [Codec.readDefault, h]

theorem readDefault_of_written {default a : α} (h : named name entries = [c.write a]) :
    c.readDefault name default entries = some a := by
  simp only [Codec.readDefault, h, c.read_write]

theorem readDefault_of_unlessDefault [DecidableEq α] {default a : α}
    (h : named name entries = if a = default then [] else [c.write a]) :
    c.readDefault name default entries = some a := by
  by_cases ha : a = default
  · rw [if_pos ha] at h
    rw [readDefault_of_missing h, ha]
  · rw [if_neg ha] at h
    exact readDefault_of_written h

end Read
end Json
