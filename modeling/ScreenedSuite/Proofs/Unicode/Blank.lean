import Mathlib.Data.List.DropRight
import ScreenedSuite.Unicode.CodeSet
import ScreenedSuite.Unicode.Word

/-! # White space, one by one

White space is a short list of characters (`ScreenedSuite.Unicode.toNat_mem_blankCodes`), none of
which belongs to a word (`ScreenedSuite.Unicode.isWord_eq_false_of_isBlank`). Trimming takes it from
the ends of a text and takes nothing else (`ScreenedSuite.Unicode.trimmed_iff`).
-/

namespace ScreenedSuite.Unicode

theorem CodeSet.member_nil (code : Nat) : CodeSet.member false [] code = false :=
  rfl

theorem CodeSet.member_cons_cons {first last code : Nat} {rest : List Nat} :
    CodeSet.member false (first :: last :: rest) code = true ↔
      first ≤ code ∧ (code < last ∨ CodeSet.member false rest code = true) := by
  by_cases below : code < first
  · simp only [CodeSet.member, below, ↓reduceIte, Bool.false_eq_true, false_iff, not_and]
    omega
  · by_cases inside : code < last
    · simp only [CodeSet.member, below, inside, ↓reduceIte, Bool.not_false, true_or, and_true]
      simpa only [true_iff, Nat.not_lt] using below
    · simp only [CodeSet.member, below, inside, ↓reduceIte, Bool.not_false, Bool.not_true,
        false_or, Nat.le_of_not_lt below, true_and]

/-- The code points of white space. -/
def blankCodes : List Nat :=
  [0x09, 0x0A, 0x0B, 0x0C, 0x0D, 0x20, 0x85, 0xA0, 0x1680, 0x2000, 0x2001, 0x2002, 0x2003, 0x2004,
    0x2005, 0x2006, 0x2007, 0x2008, 0x2009, 0x200A, 0x2028, 0x2029, 0x202F, 0x205F, 0x3000]

theorem toNat_mem_blankCodes {c : Char} (blank : isBlank c = true) : c.toNat ∈ blankCodes := by
  simp only [isBlank, CodeSet.contains, whiteSpace, CodeSet.member_cons_cons,
    CodeSet.member_nil, Bool.false_eq_true, or_false] at blank
  simp only [blankCodes, List.mem_cons, List.not_mem_nil, or_false]
  omega

/-- What holds of each code point of white space holds of white space. -/
theorem of_isBlank (held : Char → Prop) (each : ∀ code ∈ blankCodes, held (Char.ofNat code))
    {c : Char} (blank : isBlank c = true) : held c := by
  have here := each c.toNat (toNat_mem_blankCodes blank)
  rwa [Char.ofNat_toNat] at here

/-- White space belongs to no word. -/
theorem isWord_eq_false_of_isBlank {c : Char} (blank : isBlank c = true) : isWord c = false := by
  have wordless : ∀ code ∈ blankCodes, isWord (Char.ofNat code) = false := by decide +kernel
  exact of_isBlank (isWord · = false) wordless blank

/-! ## Trimming -/

/-- What is left of a text without the white space at its ends. -/
structure Trimmed (text rest : List Char) : Prop where
  around : ∃ front back, text = front ++ rest ++ back ∧ ∀ c ∈ front ++ back, isBlank c = true
  first : ∀ c ∈ rest.head?, isBlank c = false
  last : ∀ c ∈ rest.getLast?, isBlank c = false

theorem trimEnd_eq_rdropWhile (text : List Char) : trimEnd text = text.rdropWhile isBlank :=
  rfl

theorem trimEnd_append {back : List Char} (blank : ∀ c ∈ back, isBlank c = true)
    (text : List Char) : trimEnd (text ++ back) = trimEnd text := by
  rw [trimEnd, List.reverse_append, List.dropWhile_append_of_pos, trimEnd]
  exact fun c member => blank c (List.mem_reverse.mp member)

theorem trimmed_trim (text : List Char) : Trimmed text (trim text) where
  around := by
    refine ⟨text.takeWhile isBlank, (text.dropWhile isBlank).rtakeWhile isBlank, ?_, ?_⟩
    · rw [trim, trimEnd_eq_rdropWhile, List.append_assoc, List.rdropWhile_append_rtakeWhile,
        List.takeWhile_append_dropWhile]
    · intro c member
      rcases List.mem_append.mp member with before | after
      · exact List.mem_takeWhile_imp before
      · exact List.mem_rtakeWhile_imp after
  first c first := by
    obtain ⟨behind, whole⟩ : trim text <+: text.dropWhile isBlank := List.rdropWhile_prefix _ _
    have stops := List.head?_dropWhile_not isBlank text
    rw [← whole, List.head?_append, first] at stops
    exact stops
  last c last := by
    have stops := List.head?_dropWhile_not isBlank (text.dropWhile isBlank).reverse
    rw [trim, trimEnd, List.getLast?_reverse] at last
    rw [last] at stops
    exact stops

/-- Trimming takes the white space from the ends of a text and nothing else. -/
theorem trimmed_iff {text rest : List Char} : Trimmed text rest ↔ rest = trim text := by
  constructor
  · rintro ⟨⟨front, back, rfl, blank⟩, first, last⟩
    rw [List.forall_mem_append] at blank
    rw [trim, List.append_assoc, List.dropWhile_append_of_pos blank.1]
    cases rest with
    | nil =>
        have nothing : ([] ++ back).dropWhile isBlank = [] :=
          List.dropWhile_eq_nil_iff.mpr blank.2
        rw [nothing]
        rfl
    | cons c others =>
        have visible : ¬ isBlank c = true := Bool.eq_false_iff.mp (first c rfl)
        rw [List.cons_append, List.dropWhile_cons_of_neg visible, ← List.cons_append,
          trimEnd_append blank.2, trimEnd_eq_rdropWhile]
        exact (List.rdropWhile_eq_self_iff.mpr fun nonempty =>
          Bool.eq_false_iff.mp (last _ (List.getLast?_eq_some_getLast nonempty))).symm
  · rintro rfl
    exact trimmed_trim text

/-- Trimming leaves nothing of a text exactly when all of it is white space. -/
theorem trim_eq_nil_iff {text : List Char} : trim text = [] ↔ ∀ c ∈ text, isBlank c = true := by
  rw [eq_comm, ← trimmed_iff]
  constructor
  · rintro ⟨⟨front, back, rfl, blank⟩, _, _⟩
    rwa [List.append_nil]
  · intro blank
    refine ⟨⟨text, [], ?_, ?_⟩, nofun, nofun⟩
    · rw [List.append_nil, List.append_nil]
    · rwa [List.append_nil]

end ScreenedSuite.Unicode
