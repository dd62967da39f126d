import Mathlib.Data.List.Basic
import Mathlib.Tactic.IntervalCases

/-!
# `GoHex` — hexadecimal texts

`encoding/hex` of Go's standard library: lower-case digits are written, both cases are read, and what was written is
read back (`decodeString_encodeToString`).
-/

namespace GoHex

open List Nat

def digits (b : UInt8) : List Char := [Nat.digitChar (b.toNat / 16), Nat.digitChar (b.toNat % 16)]

def encodeToString (src : List UInt8) : String := String.ofList (src.flatMap digits)

def fromHexChar (c : Char) : Option Nat :=
  let n := c.toNat
  if 48 ≤ n ∧ n ≤ 57 then some (n - 48)
  else if 97 ≤ n ∧ n ≤ 102 then some (n - 87)
  else if 65 ≤ n ∧ n ≤ 70 then some (n - 55)
  else none

/-- Two digits make a byte; an odd digit at the end is an error. -/
def decode : List Char → Option (List UInt8)
  | [] => some []
  | [_] => none
  | a :: b :: rest =>
    match fromHexChar a, fromHexChar b with
    | some high, some low => (decode rest).map (fun bytes => UInt8.ofNat (high * 16 + low) :: bytes)
    | _, _ => none

def decodeString (s : String) : Option (List UInt8) := decode s.toList

theorem fromHexChar_digitChar {n : Nat} (h : n < 16) : fromHexChar (digitChar n) = some n := by
  interval_cases n <;> decide

theorem decode_digits_append (b : UInt8) (rest : List Char) :
    decode (digits b ++ rest) = (decode rest).map (fun bytes => b :: bytes) := by
  have hb : b.toNat < 256 := b.toNat_lt
  have hhigh : fromHexChar (digitChar (b.toNat / 16)) = some (b.toNat / 16) := fromHexChar_digitChar (by omega)
  have hlow : fromHexChar (digitChar (b.toNat % 16)) = some (b.toNat % 16) := fromHexChar_digitChar (by omega)
  have hbyte : UInt8.ofNat (b.toNat / 16 * 16 + b.toNat % 16) = b := by
    rw [show b.toNat / 16 * 16 + b.toNat % 16 = b.toNat by omega, UInt8.ofNat_toNat]
  simp only [digits, cons_append, nil_append, decode, hhigh, hlow, hbyte]

theorem decode_flatMap_digits (src : List UInt8) : decode (src.flatMap digits) = some src := by
  induction src with
  | nil => rfl
  | cons _ _ ih => rw [flatMap_cons, decode_digits_append, ih, Option.map_some]

/-- **What was encoded is decoded.** -/
theorem decodeString_encodeToString (src : List UInt8) : decodeString (encodeToString src) = some src := by
  unfold decodeString encodeToString
  rw [String.toList_ofList, decode_flatMap_digits]

end GoHex
