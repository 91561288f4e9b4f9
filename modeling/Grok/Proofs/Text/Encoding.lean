import Grok.FileTree.Basic
import Mathlib

namespace Grok

namespace Text

theorem toNat_val_lt (c : Char) : c.val.toNat < 1114112 := by
  have := c.valid
  simp only [UInt32.isValidChar, Nat.isValidChar] at this
  omega

theorem utf8EncodeChar_append_lt {c d : Char} (h : c < d) (x y : List UInt8) :
    String.utf8EncodeChar c ++ x < String.utf8EncodeChar d ++ y := by
  have hlt : c.val.toNat < d.val.toNat := h
  have hmax := toNat_val_lt d
  simp only [String.utf8EncodeChar]
  generalize c.val.toNat = v at *
  generalize d.val.toNat = w at *
  have hmod (n : Nat) : (n % 64 + 128) % 256 = n % 64 + 128 := by omega
  split_ifs <;>
    simp only [List.cons_append, List.nil_append, List.cons_lt_cons_iff, UInt8.lt_iff_toNat_lt,
      ← UInt8.toNat_inj, UInt8.toNat_ofNat', hmod]
  any_goals omega
  -- two characters of four bytes: the first digits that differ decide
  by_cases h1 : v / 262144 = w / 262144
  · by_cases h2 : v / 4096 = w / 4096
    · by_cases h3 : v / 64 = w / 64
      · simp only [h1, h2, h3, true_and]
        omega
      · simp only [h1, h2, true_and]
        omega
    · simp only [h1, true_and]
      omega
  · exact .inl (by omega)

theorem eq_of_head?_utf8EncodeChar {c d : Char} (hd : d.val.toNat < 128)
    (h : (String.utf8EncodeChar c).head? = some (UInt8.ofNat d.val.toNat)) : c = d := by
  apply Char.toNat_inj.mp
  change c.val.toNat = d.val.toNat
  have hmax := toNat_val_lt c
  simp only [String.utf8EncodeChar] at h
  generalize c.val.toNat = v at *
  generalize d.val.toNat = w at *
  split_ifs at h <;>
    simp only [List.head?_cons, Option.some_inj, ← UInt8.toNat_inj, UInt8.toNat_ofNat'] at h <;>
    omega

theorem encoded_lt {a b : Text} (h : a < b) : a.encoded < b.encoded := by
  induction a generalizing b with
  | nil =>
    cases b with
    | nil => exact absurd h (lt_irrefl [])
    | cons d b =>
      rw [encoded, encoded, List.flatMap_cons]
      cases hd : String.utf8EncodeChar d with
      | nil => exact absurd hd String.utf8EncodeChar_ne_nil
      | cons byte rest => exact List.nil_lt_cons _ _
  | cons c a ih =>
    cases b with
    | nil => exact absurd h (List.not_lt_nil _)
    | cons d b =>
      simp only [encoded, List.flatMap_cons]
      rcases List.cons_lt_cons_iff.mp h with hcd | ⟨rfl, hab⟩
      · exact utf8EncodeChar_append_lt hcd _ _
      · exact List.append_left_lt (ih hab)

end Text

namespace FileTree

theorem decode_eq_ok_iff {bytes : ByteArray} {t : Text} :
    decode bytes = .ok t ↔ bytes = t.encoded.toByteArray := by
  rw [← Text.decoded?_eq_some_iff, decode]
  cases Text.decoded? bytes <;> simp

end FileTree

end Grok
