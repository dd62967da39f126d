import Mathlib.Data.List.Basic

/-!
# `GoBase64` — unpadded URL-safe base64

`base64.RawURLEncoding` of Go's standard library. The decoder is the strict one: the unused bits of the last
character must be zero. Like Go's, it skips carriage returns and line feeds wherever they stand.
-/

namespace GoBase64

open List And

/-- The six bits a character of the URL-safe alphabet stands for. -/
def sextet (b : UInt8) : Option Nat :=
  let n := b.toNat
  if 65 ≤ n && n ≤ 90 then some (n - 65)
  else if 97 ≤ n && n ≤ 122 then some (n - 71)
  else if 48 ≤ n && n ≤ 57 then some (n + 4)
  else if n == 45 then some 62
  else if n == 95 then some 63
  else none

def character (n : Nat) : UInt8 :=
  UInt8.ofNat (if n < 26 then n + 65 else if n < 52 then n + 71 else if n < 62 then n - 4
    else if n = 62 then 45 else 95)

/-- Four characters make three bytes; two or three left over make one or two. -/
def unpack : List Nat → Option (List UInt8)
  | a :: b :: c :: d :: rest =>
    (unpack rest).map (fun bytes =>
      UInt8.ofNat (a * 4 + b / 16) :: UInt8.ofNat (b % 16 * 16 + c / 4) :: UInt8.ofNat (c % 4 * 64 + d) :: bytes)
  | [a, b, c] =>
    if c % 4 = 0 then some [UInt8.ofNat (a * 4 + b / 16), UInt8.ofNat (b % 16 * 16 + c / 4)] else none
  | [a, b] => if b % 16 = 0 then some [UInt8.ofNat (a * 4 + b / 16)] else none
  | [_] => none
  | [] => some []

/-- `base64.RawURLEncoding.Strict().DecodeString`. -/
def decode (value : List UInt8) : Option (List UInt8) :=
  ((value.filter (fun b => b != 13 && b != 10)).mapM sextet).bind unpack

/-- `base64.RawURLEncoding.EncodeToString`. -/
def encode : List UInt8 → List UInt8
  | a :: b :: c :: rest =>
    character (a.toNat / 4) :: character (a.toNat % 4 * 16 + b.toNat / 16)
      :: character (b.toNat % 16 * 4 + c.toNat / 64) :: character (c.toNat % 64) :: encode rest
  | [a, b] =>
    [character (a.toNat / 4), character (a.toNat % 4 * 16 + b.toNat / 16), character (b.toNat % 16 * 4)]
  | [a] => [character (a.toNat / 4), character (a.toNat % 4 * 16)]
  | [] => []

/-- The strict decoder refuses unused bits that are not zero. -/
example : decode (encode [1, 2]) = some [1, 2] ∧ decode [65, 66] = none := by decide

theorem character_inj : ∀ m < 64, ∀ n < 64, character m = character n → m = n := by
  decide +kernel

/-- The characters of a group determine its bytes. -/
theorem group_inj {a b c x y z : UInt8} (h₁ : character (a.toNat / 4) = character (x.toNat / 4))
    (h₂ : character (a.toNat % 4 * 16 + b.toNat / 16) = character (x.toNat % 4 * 16 + y.toNat / 16))
    (h₃ : character (b.toNat % 16 * 4 + c.toNat / 64) = character (y.toNat % 16 * 4 + z.toNat / 64))
    (h₄ : character (c.toNat % 64) = character (z.toNat % 64)) : a = x ∧ b = y ∧ c = z := by
  have hleft := intro a.toNat_lt (intro b.toNat_lt c.toNat_lt)
  have hright := intro x.toNat_lt (intro y.toNat_lt z.toNat_lt)
  have h₁ := character_inj _ (by omega) _ (by omega) h₁
  have h₂ := character_inj _ (by omega) _ (by omega) h₂
  have h₃ := character_inj _ (by omega) _ (by omega) h₃
  have h₄ := character_inj _ (by omega) _ (by omega) h₄
  simp only [← UInt8.toNat_inj]
  omega

/-- **Different bytes have different encodings.** What is left over is encoded like a group that zeros fill up. -/
theorem encode_injective : ∀ {l l' : List UInt8}, encode l = encode l' → l = l'
  | a :: b :: c :: rest, x :: y :: z :: rest', h => by
      simp only [encode, cons.injEq] at h
      obtain ⟨rfl, rfl, rfl⟩ := group_inj h.1 h.2.1 h.2.2.1 h.2.2.2.1
      rw [encode_injective h.2.2.2.2]
  | [a, b], [x, y], h => by
      simp only [encode, cons.injEq] at h
      obtain ⟨rfl, rfl, -⟩ := @group_inj a b 0 x y 0 h.1 h.2.1 h.2.2.1 rfl
      rfl
  | [a], [x], h => by
      simp only [encode, cons.injEq] at h
      obtain ⟨rfl, -⟩ := @group_inj a 0 0 x 0 0 h.1 h.2.1 rfl rfl
      rfl
  | [], [], _ => rfl
  | [], [_], h | [], [_, _], h | [], _ :: _ :: _ :: _, h => by simp [encode] at h
  | [_], [], h | [_], [_, _], h | [_], _ :: _ :: _ :: _, h => by simp [encode] at h
  | [_, _], [], h | [_, _], [_], h | [_, _], _ :: _ :: _ :: _, h => by simp [encode] at h
  | _ :: _ :: _ :: _, [], h | _ :: _ :: _ :: _, [_], h | _ :: _ :: _ :: _, [_, _], h => by simp [encode] at h

end GoBase64
