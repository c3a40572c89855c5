import Mathlib.Tactic.SplitIfs

/-! # The order of bytes

Texts are ordered by their characters, and that is the order of their bytes in UTF-8
(`ScreenedSuite.utf8Bytes_lt_of_lt`).
-/

namespace ScreenedSuite

/-- The bytes of a text in UTF-8. -/
def utf8Bytes (text : String) : List UInt8 :=
  text.toUTF8.data.toList

theorem utf8Bytes_eq_flatMap (text : String) :
    utf8Bytes text = text.toList.flatMap String.utf8EncodeChar := by
  rw [utf8Bytes, String.toUTF8_eq_toByteArray, ← String.utf8Encode_toList, List.utf8Encode,
    List.data_toByteArray, List.toList_toArray]

/-- Bytes are ordered by the first one that differs. -/
theorem ofNat_cons_lt_cons {low high : Nat} {lows highs : List UInt8} (ordered : low ≤ high)
    (small : high < 256) (next : low = high → lows < highs) :
    UInt8.ofNat low :: lows < UInt8.ofNat high :: highs := by
  rw [List.cons_lt_cons_iff]
  rcases Nat.lt_or_eq_of_le ordered with less | rfl
  · left
    rw [UInt8.lt_iff_toNat_lt, UInt8.toNat_ofNat', UInt8.toNat_ofNat']
    omega
  · exact .inr ⟨rfl, next rfl⟩

/-- The bytes of a character precede those of a greater one, whatever is behind them. -/
theorem utf8EncodeChar_append_lt {c d : Char} (less : c < d) (lows highs : List UInt8) :
    String.utf8EncodeChar c ++ lows < String.utf8EncodeChar d ++ highs := by
  have ordered : c.val.toNat < d.val.toNat := less
  have bounded : d.val.toNat < 0x110000 := by
    rcases d.valid with low | high
    · exact Nat.lt_trans low (by decide)
    · exact high.2
  unfold String.utf8EncodeChar
  dsimp only
  split_ifs
  all_goals simp only [List.cons_append, List.nil_append]
  -- The first byte is greater if the character takes more bytes. Otherwise no byte is less, and
  -- bytes that are all equal make equal characters.
  all_goals
    repeat
      first
      | omega
      | refine ofNat_cons_lt_cons (by omega) (by omega) fun same => ?_

/-- The bytes of characters are ordered as the characters are. -/
theorem flatMap_utf8EncodeChar_lt {first second : List Char} (less : first < second) :
    first.flatMap String.utf8EncodeChar < second.flatMap String.utf8EncodeChar := by
  induction first generalizing second with
  | nil =>
      cases second with
      | nil => exact (List.lt_irrefl _ less).elim
      | cons d ds =>
          have some : String.utf8EncodeChar d ≠ [] := by
            rw [← List.length_pos_iff, String.length_utf8EncodeChar]
            exact d.utf8Size_pos
          obtain ⟨byte, bytes, bytesEq⟩ := List.exists_cons_of_ne_nil some
          rw [List.flatMap_nil, List.flatMap_cons, bytesEq, List.cons_append]
          exact List.nil_lt_cons _ _
  | cons c cs ih =>
      cases second with
      | nil => exact (List.not_lt_nil _ less).elim
      | cons d ds =>
          rw [List.flatMap_cons, List.flatMap_cons]
          rcases List.cons_lt_cons_iff.mp less with lessHere | ⟨rfl, lessLater⟩
          · exact utf8EncodeChar_append_lt lessHere _ _
          · exact List.append_left_lt (ih lessLater)

/-- The bytes of texts are ordered as the texts are. -/
theorem utf8Bytes_lt_of_lt {first second : String} (less : first < second) :
    utf8Bytes first < utf8Bytes second := by
  rw [utf8Bytes_eq_flatMap, utf8Bytes_eq_flatMap]
  exact flatMap_utf8EncodeChar_lt less

end ScreenedSuite
