import ScreenedSuite.Proofs.Pattern.Respelling
import ScreenedSuite.Unicode.LowerCase

/-! # Lower case and look-alikes

Two characters beyond ASCII have an ASCII letter in their lower-case form: the Kelvin sign becomes a
`k`, and a capital I with a dot becomes an `i` with a mark behind it. A text of small letters
without `k` is therefore the lower-case form of its own spellings in ASCII and of nothing else
(`ScreenedSuite.Unicode.lowerCase_eq_iff`).
-/

namespace ScreenedSuite.Unicode

/-- Whether a character is a small ASCII letter other than `k`, which has a look-alike. -/
def isUnmistakable (c : Char) : Bool :=
  'a'.toNat ≤ c.toNat && c.toNat ≤ 'z'.toNat && c.toNat != 'k'.toNat

theorem isUnmistakable_iff {c : Char} : isUnmistakable c = true ↔
    ('a'.toNat ≤ c.toNat ∧ c.toNat ≤ 'z'.toNat) ∧ c.toNat ≠ 'k'.toNat := by
  simp only [isUnmistakable, Bool.and_eq_true, decide_eq_true_eq, bne_iff_ne]

/-- What holds of each ASCII code point holds of each ASCII character. -/
theorem of_toNat_lt (held : Char → Prop) (each : ∀ code < 0x80, held (Char.ofNat code)) {c : Char}
    (ascii : c.toNat < 0x80) : held c := by
  have here := each c.toNat ascii
  rwa [Char.ofNat_toNat] at here

/-- A number that is no code point stands for the character with the code point zero. -/
theorem toNat_ofNat_of_ne_zero {code : Nat} (proper : (Char.ofNat code).toNat ≠ 0) :
    (Char.ofNat code).toNat = code := by
  by_cases valid : code.isValidChar
  · rw [Char.ofNat, dif_pos valid]
    rfl
  · rw [Char.ofNat, dif_neg valid] at proper
    exact absurd rfl proper

/-! ## One character -/

/-- Beyond ASCII only the Kelvin sign has an ASCII character for its image. -/
theorem lowerCaseMap_rows : ∀ row ∈ lowerCaseMap.rows,
    row.last < 0x80 ∨ 0x80 ≤ row.image ∨ row.first = row.last ∧ row.image = 'k'.toNat := by
  decide +kernel

theorem lt_of_apply_lt {code : Nat} (small : lowerCaseMap.apply code < 0x80)
    (other : lowerCaseMap.apply code ≠ 'k'.toNat) : code < 0x80 := by
  unfold CaseMap.apply at small other
  cases found : lowerCaseMap.rows.findSome? (·.image? code) with
  | none => rwa [found, Option.getD_none] at small
  | some image =>
      rw [found, Option.getD_some] at small other
      obtain ⟨row, listed, moved⟩ := List.exists_of_findSome?_eq_some found
      have inside : (row.first ≤ code ∧ code ≤ row.last) ∧
          row.image + (code - row.first) = image := by
        unfold CaseRow.image? at moved
        split at moved
        · rename_i within
          simp only [Bool.and_eq_true, decide_eq_true_eq] at within
          exact ⟨within.1, Option.some.inj moved⟩
        · cases moved
      have kelvinOnly := lowerCaseMap_rows row listed
      omega

/-- In lower case an ASCII character is what the ASCII letters make of it. -/
theorem lowerChar_of_lt {c : Char} (ascii : c.toNat < 0x80) : lowerChar c = [c.toLower] :=
  of_toNat_lt (fun c => lowerChar c = [c.toLower]) (by decide +kernel) ascii

/-- Only an ASCII character becomes unmistakable letters. -/
theorem lt_of_lowerChar {c : Char} (plain : ∀ d ∈ lowerChar c, isUnmistakable d = true) :
    c.toNat < 0x80 := by
  unfold lowerChar at plain
  split at plain
  · have mark := plain (Char.ofNat 0x307) (List.mem_cons_of_mem _ List.mem_cons_self)
    exact absurd mark (by decide)
  · have bounds := isUnmistakable_iff.mp (plain _ List.mem_cons_self)
    have proper := Nat.ne_of_gt (Nat.lt_of_lt_of_le (by decide : 0 < 'a'.toNat) bounds.1.1)
    rw [toNat_ofNat_of_ne_zero proper] at bounds
    exact lt_of_apply_lt (Nat.lt_of_le_of_lt bounds.1.2 (by decide)) bounds.2

/-! ## Texts -/

theorem lowerFrom_of_lt {before text : List Char} (ascii : ∀ c ∈ text, c.toNat < 0x80) :
    lowerFrom before text = text.map Char.toLower := by
  induction text generalizing before with
  | nil => rfl
  | cons c rest ih =>
      obtain ⟨here, later⟩ := List.forall_mem_cons.mp ascii
      have noSigma : ¬ ((c.toNat == 0x3A3) = true) := by
        rw [beq_iff_eq]
        omega
      rw [lowerFrom, if_neg noSigma, lowerChar_of_lt here, ih later, List.map_cons,
        List.singleton_append]

theorem lt_of_lowerFrom {before text : List Char}
    (plain : ∀ d ∈ lowerFrom before text, isUnmistakable d = true) :
    ∀ c ∈ text, c.toNat < 0x80 := by
  induction text generalizing before with
  | nil => exact fun c member => absurd member List.not_mem_nil
  | cons c rest ih =>
      rw [lowerFrom, List.forall_mem_append] at plain
      refine List.forall_mem_cons.mpr ⟨?_, ih plain.2⟩
      have image := plain.1
      split at image
      · -- Neither form of the sigma is a letter of ASCII.
        split at image
        · exact absurd (image _ List.mem_cons_self) (by decide)
        · exact absurd (image _ List.mem_cons_self) (by decide)
      · exact lt_of_lowerChar image

/-- Whatever is the same as small letters but for the case of ASCII letters becomes these letters
when it is set in small letters. -/
theorem sameButCase_iff_map_toLower {text letters : List Char}
    (small : ∀ d ∈ letters, d.toLower = d) :
    SameButCase text letters ↔ text.map Char.toLower = letters := by
  induction text generalizing letters with
  | nil =>
      rw [SameButCase, List.forall₂_nil_left_iff, List.map_nil]
      exact eq_comm
  | cons c rest ih =>
      cases letters with
      | nil => simp only [SameButCase, List.forall₂_nil_right_iff, List.map_cons, reduceCtorEq]
      | cons d others =>
          obtain ⟨here, later⟩ := List.forall_mem_cons.mp small
          rw [SameButCase, List.forall₂_cons, here, List.map_cons, List.cons.injEq]
          exact and_congr_right fun _ => ih later

theorem lt_of_toLower {c : Char} (ascii : c.toLower.toNat < 0x80) : c.toNat < 0x80 := by
  have capitals : ∀ c ∈ capitals, c.toNat < 0x80 := List.forall_mem_map.mpr (by decide +kernel)
  rcases Respelling.toLower_eq_self_or_mem c with unchanged | capital
  · rwa [unchanged] at ascii
  · exact capitals c capital

/-- **Unmistakable letters are the lower-case form of their own spellings in ASCII only.** -/
theorem lowerCase_eq_iff {text letters : List Char}
    (plain : ∀ d ∈ letters, isUnmistakable d = true) :
    lowerCase text = letters ↔ SameButCase text letters := by
  have ascii (d : Char) (member : d ∈ letters) : d.toNat < 0x80 :=
    Nat.lt_of_le_of_lt (isUnmistakable_iff.mp (plain d member)).1.2 (by decide)
  have small (d : Char) (member : d ∈ letters) : d.toLower = d :=
    of_toNat_lt (fun d => isUnmistakable d = true → d.toLower = d) (by decide +kernel)
      (ascii d member) (plain d member)
  rw [sameButCase_iff_map_toLower small, lowerCase]
  constructor
  · intro lowered
    -- The letters show that the text is in ASCII, where lower case looks at no neighbours.
    rw [← lowerFrom_of_lt (lt_of_lowerFrom (lowered ▸ plain)), lowered]
  · intro lowered
    have own (c : Char) (member : c ∈ text) : c.toNat < 0x80 :=
      lt_of_toLower (ascii _ (lowered ▸ List.mem_map_of_mem member))
    rw [lowerFrom_of_lt own, lowered]

/-- The Kelvin sign is the reason for leaving out `k`. -/
example : lowerCase [Char.ofNat 0x212A] = ['k'] := by decide +kernel

end ScreenedSuite.Unicode
