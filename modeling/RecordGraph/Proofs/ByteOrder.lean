import Mathlib.Data.List.Lex

/-!
# Texts in the order of their bytes

A database compares texts byte by byte, in UTF-8; references are compared character by character.
The two orders are one.  The first byte of a character grows with the number of bytes, and behind
it stand the digits of the character, six bits each and the highest first.
-/

namespace RecordGraph.Text

/-- The bytes of a text in UTF-8. -/
def bytes (text : String) : List UInt8 := text.toUTF8.data.toList

theorem bytes_eq_flatMap (text : String) :
    bytes text = text.toList.flatMap String.utf8EncodeChar := by
  rw [bytes, String.toUTF8, ← String.utf8Encode_toList, List.utf8Encode,
    List.toList_data_toByteArray]

/-- The four lengths of a character, each with the digits that its bytes hold. -/
theorem utf8EncodeChar_cases (c : Char) :
    (c.toNat < 128 ∧ String.utf8EncodeChar c = [UInt8.ofNat c.toNat]) ∨
    (∃ lead low, 2 ≤ lead ∧ lead < 32 ∧ low < 64 ∧ c.toNat = 64 * lead + low ∧
      String.utf8EncodeChar c = [UInt8.ofNat (lead + 192), UInt8.ofNat (low + 128)]) ∨
    (∃ lead middle low, lead < 16 ∧ middle < 64 ∧ low < 64 ∧ 2048 ≤ c.toNat ∧
      c.toNat = 4096 * lead + 64 * middle + low ∧
      String.utf8EncodeChar c =
        [UInt8.ofNat (lead + 224), UInt8.ofNat (middle + 128), UInt8.ofNat (low + 128)]) ∨
    (∃ lead high middle low, lead < 8 ∧ high < 64 ∧ middle < 64 ∧ low < 64 ∧ 65536 ≤ c.toNat ∧
      c.toNat = 262144 * lead + 4096 * high + 64 * middle + low ∧
      String.utf8EncodeChar c =
        [UInt8.ofNat (lead + 240), UInt8.ofNat (high + 128), UInt8.ofNat (middle + 128),
          UInt8.ofNat (low + 128)]) := by
  have hbound : c.toNat < 1114112 := by
    rcases c.valid with hlow | hhigh
    · exact Nat.lt_trans hlow (by decide)
    · exact hhigh.2
  have htoNat : c.val.toNat = c.toNat := rfl
  simp only [String.utf8EncodeChar, htoNat]
  split
  · exact .inl ⟨by omega, rfl⟩
  · split
    · exact .inr (.inl ⟨_, _, by omega, by omega, by omega, by omega, rfl⟩)
    · split
      · exact .inr (.inr (.inl ⟨_, _, _, by omega, by omega, by omega, by omega, by omega, rfl⟩))
      · exact .inr (.inr (.inr
          ⟨_, _, _, _, by omega, by omega, by omega, by omega, by omega, by omega, rfl⟩))

theorem ofNat_cons_lt_iff {left right : ℕ} (hleft : left < 256) (hright : right < 256)
    {rest others : List UInt8} :
    UInt8.ofNat left :: rest < UInt8.ofNat right :: others ↔
      left < right ∨ left = right ∧ rest < others := by
  rw [List.cons_lt_cons_iff, UInt8.ofNat_lt_iff_lt hleft hright, ← UInt8.toNat_inj,
    UInt8.toNat_ofNat_of_lt' hleft, UInt8.toNat_ofNat_of_lt' hright]

/-- The bytes of a lesser character come first, whatever follows either. -/
theorem utf8EncodeChar_lt {left right : Char} (hlt : left < right) (rest others : List UInt8) :
    String.utf8EncodeChar left ++ rest < String.utf8EncodeChar right ++ others := by
  have hvalue : left.toNat < right.toNat := hlt
  -- Characters of one length differ in a digit, a longer one has the greater first byte, and a lesser
  -- character is never the longer one.
  rcases utf8EncodeChar_cases left with ⟨_, hleft⟩ | ⟨_, _, _, _, _, _, hleft⟩ |
    ⟨_, _, _, _, _, _, _, _, hleft⟩ | ⟨_, _, _, _, _, _, _, _, _, _, hleft⟩ <;>
  rcases utf8EncodeChar_cases right with ⟨_, hright⟩ | ⟨_, _, _, _, _, _, hright⟩ |
    ⟨_, _, _, _, _, _, _, _, hright⟩ | ⟨_, _, _, _, _, _, _, _, _, _, hright⟩ <;>
  rw [hleft, hright] <;>
  simp (disch := omega) only [List.cons_append, List.nil_append, ofNat_cons_lt_iff] <;>
  omega

theorem flatMap_utf8EncodeChar_lt {left right : List Char} (hlt : left < right) :
    left.flatMap String.utf8EncodeChar < right.flatMap String.utf8EncodeChar := by
  induction hlt with
  | @nil head tail =>
    rw [List.flatMap_nil, List.flatMap_cons]
    cases hbytes : String.utf8EncodeChar head with
    | nil => exact absurd hbytes String.utf8EncodeChar_ne_nil
    | cons byte others => exact List.nil_lt_cons _ _
  | cons _ ih => exact List.append_left_lt ih
  | rel hhead => exact utf8EncodeChar_lt hhead _ _

/-- Texts are in the order of their bytes. -/
theorem bytes_lt_iff {left right : String} : bytes left < bytes right ↔ left < right := by
  have hmono : ∀ {left right : String}, left < right → bytes left < bytes right := by
    intro left right hlt
    rw [bytes_eq_flatMap, bytes_eq_flatMap]
    exact flatMap_utf8EncodeChar_lt hlt
  constructor
  · intro hbytes
    by_contra hnot
    by_cases hafter : right < left
    · exact List.lt_asymm hbytes (hmono hafter)
    · rw [String.le_antisymm hnot hafter] at hbytes
      exact List.lt_irrefl _ hbytes
  · exact hmono

end RecordGraph.Text
