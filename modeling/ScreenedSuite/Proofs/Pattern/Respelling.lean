import Mathlib.Data.List.Forall2
import ScreenedSuite.Proofs.Pattern.Context

/-! # Texts spelled anew

A text is spelled anew when each of its characters is replaced by one that may stand for it. A
pattern whose classes and conditions keep what they hold for such a replacement matches the new
spelling as well (`ScreenedSuite.Pattern.Matches.respell`), so it occurs there too
(`ScreenedSuite.Pattern.Occurs.respell`).

Two ways to spell a text anew matter to screening: ASCII letters in their other case
(`ScreenedSuite.Respelling.letterCase`) and slashes for backslashes
(`ScreenedSuite.Respelling.slashes`).
-/

namespace ScreenedSuite

/-- A way to spell texts anew: which character may stand for which, and the classes that hold every
replacement of what they hold. A word stays a word. -/
structure Respelling where
  stands : Char → Char → Prop
  keeps : CharClass → Bool
  contains : ∀ {chars : CharClass} {old new : Char}, keeps chars = true → stands old new →
    chars.contains old = true → chars.contains new = true
  word : ∀ {old new : Char}, stands old new → Unicode.isWord old = Unicode.isWord new

/-- The ASCII letters in upper case. -/
def Unicode.capitals : List Char :=
  (List.range 26).map fun index => Char.ofNat ('A'.toNat + index)

/-- Whether a class holds every ASCII letter in both cases or in neither. -/
def CharClass.caseless : CharClass → Bool
  | range first last => last < 'A' || 'Z' < first && last < 'a' || 'z' < first
  | digit => true
  | space => true
  | word => true
  | never => true
  | either left right => left.caseless && right.caseless
  | other inner => inner.caseless
  | anyCase _ => true
  | _ => false

/-- Texts that differ in the case of ASCII letters at most. -/
def SameButCase (text other : List Char) : Prop :=
  List.Forall₂ (fun c d => c.toLower = d.toLower) text other

/-- A slash for a backslash; any other character stays itself. -/
def slashFor (c : Char) : Char :=
  if c == '\\' then '/' else c

namespace Respelling

/-- Only a capital changes in lower case. -/
theorem toLower_eq_self_or_mem (c : Char) : c.toLower = c ∨ c ∈ Unicode.capitals := by
  by_cases capital : 'A'.toNat ≤ c.toNat ∧ c.toNat ≤ 'Z'.toNat
  · right
    obtain ⟨above, below⟩ := capital
    refine List.mem_map.mpr ⟨c.toNat - 'A'.toNat, List.mem_range.mpr ?_, ?_⟩
    · exact Nat.lt_of_le_of_lt (Nat.sub_le_sub_right below _) (by decide)
    · rw [Nat.add_sub_cancel' above, Char.ofNat_toNat]
  · left
    exact dif_neg fun inside => capital ⟨inside.1, inside.2⟩

/-- What is the same for a capital and its small letter is the same for all spellings in other
case. -/
theorem eq_of_toLower_eq {α : Type} {test : Char → α}
    (capitals : ∀ c ∈ Unicode.capitals, test c = test c.toLower) {old new : Char}
    (same : old.toLower = new.toLower) : test old = test new := by
  have lower (c : Char) : test c = test c.toLower := by
    rcases toLower_eq_self_or_mem c with unchanged | capital
    · rw [unchanged]
    · exact capitals c capital
  rw [lower old, lower new, same]

theorem caseVariants_toLower :
    ∀ c ∈ Unicode.capitals, Unicode.caseVariants c = Unicode.caseVariants c.toLower :=
  List.forall_mem_map.mpr (by decide +kernel)

theorem letter_bounds :
    ∀ c ∈ Unicode.capitals, 'A' ≤ c ∧ c ≤ 'Z' ∧ 'a' ≤ c.toLower ∧ c.toLower ≤ 'z' :=
  List.forall_mem_map.mpr (by decide +kernel)

theorem contains_toLower {chars : CharClass} (caseless : chars.caseless = true) :
    ∀ c ∈ Unicode.capitals, chars.contains c = chars.contains c.toLower := by
  induction chars with
  | range first last =>
      intro c capital
      have bounds := letter_bounds c capital
      have apart : 'Z' < 'a' := by decide
      have outside : (last < 'A' || 'Z' < first && last < 'a' || 'z' < first) = true := caseless
      rw [CharClass.contains, CharClass.contains, Bool.eq_iff_iff]
      simp only [Bool.or_eq_true, Bool.and_eq_true, decide_eq_true_eq, Char.le_def, Char.lt_def,
        UInt32.le_iff_toNat_le, UInt32.lt_iff_toNat_lt] at outside bounds apart ⊢
      omega
  | anyCase inner _ =>
      intro c capital
      rw [CharClass.contains, CharClass.contains, caseVariants_toLower c capital]
  | digit => exact List.forall_mem_map.mpr (by decide +kernel)
  | space => exact List.forall_mem_map.mpr (by decide +kernel)
  | word => exact List.forall_mem_map.mpr (by decide +kernel)
  | never => exact fun _ _ => rfl
  | other inner ih => exact fun c capital => congrArg not (ih caseless c capital)
  | either left right leftSame rightSame =>
      obtain ⟨leftCaseless, rightCaseless⟩ := Bool.and_eq_true_iff.mp caseless
      intro c capital
      rw [CharClass.contains, CharClass.contains, leftSame leftCaseless c capital,
        rightSame rightCaseless c capital]
  | _ => cases caseless

/-- ASCII letters in their other case. -/
def letterCase : Respelling where
  stands old new := old.toLower = new.toLower
  keeps := CharClass.caseless
  contains caseless same held :=
    (eq_of_toLower_eq (contains_toLower caseless) same).symm.trans held
  word same := by
    have capitals : ∀ c ∈ Unicode.capitals, Unicode.isWord c = Unicode.isWord c.toLower :=
      @contains_toLower .word rfl
    exact eq_of_toLower_eq capitals same

/-- Slashes for backslashes. -/
def slashes : Respelling where
  stands old new := new = slashFor old
  keeps chars := !chars.contains '\\' || chars.contains '/'
  contains {chars old _} kept same held := by
    subst same
    by_cases backslash : old = '\\'
    · subst backslash
      rw [held] at kept
      exact kept
    · simpa [slashFor, backslash] using held
  word {old _} same := by
    subst same
    by_cases backslash : old = '\\'
    · subst backslash
      decide +kernel
    · simp [slashFor, backslash]

/-- Conditions that hold or fail alike in every spelling. -/
def keepsLook : Look → Bool
  | .textStart => true
  | .textEnd => true
  | .boundary .word => true
  | _ => false

variable (respelling : Respelling)

theorem isIn_word {old new : Option Char} (same : Option.Rel respelling.stands old new) :
    Look.isIn .word old = Look.isIn .word new := by
  cases same with
  | some stands => exact respelling.word stands
  | none => rfl

theorem holds {condition : Look} (kept : keepsLook condition = true)
    {before before' after after' : Option Char}
    (left : Option.Rel respelling.stands before before')
    (right : Option.Rel respelling.stands after after')
    (held : condition.holds before after = true) : condition.holds before' after' = true := by
  unfold keepsLook at kept
  split at kept
  · cases left with
    | some _ => cases held
    | none => rfl
  · cases right with
    | some _ => cases held
    | none => rfl
  · simpa only [Look.holds, respelling.isIn_word left, respelling.isIn_word right] using held
  · cases kept

theorem head? {text new : List Char} (spelled : List.Forall₂ respelling.stands text new) :
    Option.Rel respelling.stands text.head? new.head? := by
  cases spelled with
  | nil => exact .none
  | cons stands _ => exact .some stands

theorem getLast? {text new : List Char} (spelled : List.Forall₂ respelling.stands text new) :
    Option.Rel respelling.stands text.getLast? new.getLast? := by
  rw [List.getLast?_eq_head?_reverse, List.getLast?_eq_head?_reverse]
  exact respelling.head? (List.forall₂_reverse_iff.mpr spelled)

/-- A text in two parts is spelled anew part by part. -/
theorem split {left right new : List Char}
    (spelled : List.Forall₂ respelling.stands (left ++ right) new) :
    ∃ left' right', new = left' ++ right' ∧ List.Forall₂ respelling.stands left left' ∧
      List.Forall₂ respelling.stands right right' := by
  induction left generalizing new with
  | nil => exact ⟨[], new, rfl, .nil, spelled⟩
  | cons c left ih =>
      cases spelled with
      | cons stands rest =>
          obtain ⟨left', right', rfl, leftSpelled, rightSpelled⟩ := ih rest
          exact ⟨_ :: left', right', rfl, .cons stands leftSpelled, rightSpelled⟩

theorem join {left left' right right' : List Char}
    (leftSpelled : List.Forall₂ respelling.stands left left')
    (rightSpelled : List.Forall₂ respelling.stands right right') :
    List.Forall₂ respelling.stands (left ++ right) (left' ++ right') :=
  List.rel_append leftSpelled rightSpelled

end Respelling

namespace Pattern

/-- Whether all classes in a pattern pass a test. -/
def classesAll (test : CharClass → Bool) : Pattern → Bool
  | empty => true
  | char chars => test chars
  | look _ => true
  | seq first second => first.classesAll test && second.classesAll test
  | alt left right => left.classesAll test && right.classesAll test
  | rep inner _ _ => inner.classesAll test

/-- Whether a pattern matches a text in every new spelling. -/
def respells (respelling : Respelling) (pattern : Pattern) : Bool :=
  pattern.classesAll respelling.keeps && pattern.looksAll Respelling.keepsLook

/-- A match is found again in a new spelling that the classes and conditions of the pattern keep. -/
theorem Matches.respell (respelling : Respelling) {pattern : Pattern}
    {before piece after : List Char} (matched : Matches pattern before piece after)
    (classes : pattern.classesAll respelling.keeps = true)
    (looks : pattern.looksAll Respelling.keepsLook = true) {before' piece' after' : List Char}
    (front : List.Forall₂ respelling.stands before before')
    (middle : List.Forall₂ respelling.stands piece piece')
    (back : List.Forall₂ respelling.stands after after') :
    Matches pattern before' piece' after' := by
  -- The induction is on the match; the new piece is cut where the old one is.
  induction matched generalizing before' piece' after' with
  | empty =>
      cases middle
      exact .empty
  | char held =>
      cases middle with
      | cons stands nothing =>
          cases nothing
          exact .char (respelling.contains classes stands held)
  | look holds =>
      cases middle
      exact .look (respelling.holds looks (respelling.getLast? front) (respelling.head? back) holds)
  | seq _ _ firstMatches secondMatches =>
      have bothClasses := Bool.and_eq_true_iff.mp classes
      have bothLooks := Bool.and_eq_true_iff.mp looks
      obtain ⟨left, right, rfl, leftSpelled, rightSpelled⟩ := respelling.split middle
      apply Matches.seq
      · exact firstMatches bothClasses.1 bothLooks.1 front leftSpelled
          (respelling.join rightSpelled back)
      · exact secondMatches bothClasses.2 bothLooks.2 (respelling.join front leftSpelled)
          rightSpelled back
  | alt_left _ leftMatches =>
      have bothClasses := Bool.and_eq_true_iff.mp classes
      have bothLooks := Bool.and_eq_true_iff.mp looks
      exact .alt_left (leftMatches bothClasses.1 bothLooks.1 front middle back)
  | alt_right _ rightMatches =>
      have bothClasses := Bool.and_eq_true_iff.mp classes
      have bothLooks := Bool.and_eq_true_iff.mp looks
      exact .alt_right (rightMatches bothClasses.2 bothLooks.2 front middle back)
  | rep_stop =>
      cases middle
      exact .rep_stop
  | rep_required _ _ firstMatches restMatches =>
      obtain ⟨left, right, rfl, leftSpelled, rightSpelled⟩ := respelling.split middle
      apply Matches.rep_required
      · exact firstMatches classes looks front leftSpelled (respelling.join rightSpelled back)
      · exact restMatches classes looks (respelling.join front leftSpelled) rightSpelled back
  | rep_bounded _ _ firstMatches restMatches =>
      obtain ⟨left, right, rfl, leftSpelled, rightSpelled⟩ := respelling.split middle
      apply Matches.rep_bounded
      · exact firstMatches classes looks front leftSpelled (respelling.join rightSpelled back)
      · exact restMatches classes looks (respelling.join front leftSpelled) rightSpelled back
  | rep_unbounded _ _ firstMatches restMatches =>
      obtain ⟨left, right, rfl, leftSpelled, rightSpelled⟩ := respelling.split middle
      apply Matches.rep_unbounded
      · exact firstMatches classes looks front leftSpelled (respelling.join rightSpelled back)
      · exact restMatches classes looks (respelling.join front leftSpelled) rightSpelled back

/-- What occurs in a text occurs in every new spelling of it. -/
theorem Occurs.respell (respelling : Respelling) {pattern : Pattern} {text new : List Char}
    (occurs : pattern.Occurs text) (respells : pattern.respells respelling = true)
    (spelled : List.Forall₂ respelling.stands text new) : pattern.Occurs new := by
  obtain ⟨classes, looks⟩ := Bool.and_eq_true_iff.mp respells
  obtain ⟨before, piece, after, rfl, matched⟩ := occurs
  obtain ⟨front', after', rfl, frontSpelled, back⟩ := respelling.split spelled
  obtain ⟨before', piece', rfl, front, middle⟩ := respelling.split frontSpelled
  exact ⟨before', piece', after', rfl, matched.respell respelling classes looks front middle back⟩

end Pattern

end ScreenedSuite
