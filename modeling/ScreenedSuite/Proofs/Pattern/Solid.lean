import ScreenedSuite.Proofs.Pattern.Respelling
import ScreenedSuite.Proofs.Unicode.Blank

/-! # Where white space can stand in a match

A pattern is solid when its classes hold no white space, so that its matches do not either
(`ScreenedSuite.Pattern.Matches.solid`). More is known from left to right: whether the text up to
the end of a match is sure to end in no white space (`ScreenedSuite.Pattern.Matches.endsSolid`). A
pattern is settled when none of its conditions looks at the text behind a match that may end in
white space, so that this text may be replaced (`ScreenedSuite.Pattern.Matches.settle`).
-/

namespace ScreenedSuite

/-- White space between two words, at least one character of it. -/
def IsGap (text : List Char) : Prop :=
  text ≠ [] ∧ ∀ c ∈ text, Unicode.isBlank c = true

/-- Whether a text ends in white space. -/
def EndsInBlank (text : List Char) : Prop :=
  ∃ c, text.getLast? = some c ∧ Unicode.isBlank c = true

/-- Whether a text does not end in white space. -/
def EndsSolid (text : List Char) : Prop :=
  ∀ c, text.getLast? = some c → Unicode.isBlank c = false

theorem EndsInBlank.append {text : List Char} (blank : EndsInBlank text) (front : List Char) :
    EndsInBlank (front ++ text) := by
  obtain ⟨c, last, isBlank⟩ := blank
  exact ⟨c, by rw [List.getLast?_append, last, Option.some_or], isBlank⟩

theorem EndsInBlank.of_append {front text : List Char} (blank : EndsInBlank (front ++ text))
    (some_text : text ≠ []) : EndsInBlank text := by
  obtain ⟨c, last, isBlank⟩ := blank
  rw [List.getLast?_append_of_ne_nil front some_text] at last
  exact ⟨c, last, isBlank⟩

theorem EndsInBlank.ne_nil {text : List Char} (blank : EndsInBlank text) : text ≠ [] := by
  obtain ⟨c, last, _⟩ := blank
  intro nothing
  rw [nothing] at last
  cases last

theorem EndsInBlank.exists_mem {text : List Char} (blank : EndsInBlank text) :
    ∃ c ∈ text, Unicode.isBlank c = true := by
  obtain ⟨c, last, isBlank⟩ := blank
  exact ⟨c, List.mem_of_getLast? last, isBlank⟩

theorem endsInBlank_concat {c : Char} (blank : Unicode.isBlank c = true) (text : List Char) :
    EndsInBlank (text ++ [c]) :=
  ⟨c, List.getLast?_concat, blank⟩

theorem isGap_singleton {c : Char} (blank : Unicode.isBlank c = true) : IsGap [c] :=
  ⟨List.cons_ne_nil _ _, List.forall_mem_singleton.mpr blank⟩

theorem IsGap.endsInBlank {text : List Char} (isGap : IsGap text) : EndsInBlank text :=
  ⟨text.getLast isGap.1, List.getLast?_eq_some_getLast isGap.1,
    isGap.2 _ (List.getLast_mem isGap.1)⟩

theorem EndsInBlank.exists_eq {text : List Char} (blank : EndsInBlank text) :
    ∃ front c, text = front ++ [c] ∧ Unicode.isBlank c = true := by
  obtain ⟨c, last, isBlank⟩ := blank
  obtain ⟨front, rfl⟩ := List.getLast?_eq_some_iff.mp last
  exact ⟨front, c, rfl, isBlank⟩

theorem EndsSolid.not_endsInBlank {text : List Char} (solid : EndsSolid text) :
    ¬ EndsInBlank text := by
  intro ⟨c, last, blank⟩
  rw [solid c last] at blank
  cases blank

namespace CharClass

/-- Whether a class holds no white space, by its shape. -/
def solid : CharClass → Bool
  | range first last => '!' ≤ first && last ≤ '~'
  | word => true
  | never => true
  | either left right => left.solid && right.solid
  | anyCase inner => inner.solid
  | _ => false

/-- White space has no other case. -/
theorem caseVariants_of_isBlank {c : Char} (blank : Unicode.isBlank c = true) :
    Unicode.caseVariants c = [c] := by
  have alone : ∀ code ∈ Unicode.blankCodes,
      Unicode.caseVariants (Char.ofNat code) = [Char.ofNat code] := by
    decide +kernel
  exact Unicode.of_isBlank (fun c => Unicode.caseVariants c = [c]) alone blank

theorem isBlank_eq_false_of_solid {chars : CharClass} (solid : chars.solid = true) {c : Char}
    (held : chars.contains c = true) : Unicode.isBlank c = false := by
  by_contra isBlank
  have blank : Unicode.isBlank c = true := by simpa using isBlank
  induction chars with
  | range first last =>
      obtain ⟨above, below⟩ := Bool.and_eq_true_iff.mp solid
      obtain ⟨atLeast, atMost⟩ := Bool.and_eq_true_iff.mp held
      have outside : ∀ code ∈ Unicode.blankCodes,
          ¬ ('!' ≤ Char.ofNat code ∧ Char.ofNat code ≤ '~') := by
        decide +kernel
      exact Unicode.of_isBlank (fun c => ¬ ('!' ≤ c ∧ c ≤ '~')) outside blank
        ⟨Char.le_trans (of_decide_eq_true above) (of_decide_eq_true atLeast),
          Char.le_trans (of_decide_eq_true atMost) (of_decide_eq_true below)⟩
  | word =>
      have wordless := Unicode.isWord_eq_false_of_isBlank blank
      rw [contains, wordless] at held
      cases held
  | never => cases held
  | either left right leftSolid rightSolid =>
      obtain ⟨solidLeft, solidRight⟩ := Bool.and_eq_true_iff.mp solid
      rcases Bool.or_eq_true_iff.mp held with here | here
      · exact leftSolid solidLeft here
      · exact rightSolid solidRight here
  | anyCase inner innerSolid =>
      rw [contains, caseVariants_of_isBlank blank, List.any_cons, List.any_nil, Bool.or_false]
        at held
      exact innerSolid solid held
  | _ => cases solid

end CharClass

namespace Pattern

/-- What holds of all characters of the classes holds of all characters of a match. -/
theorem Matches.forall_mem {test : CharClass → Bool} {held : Char → Prop}
    (sound : ∀ {chars : CharClass} {c : Char}, test chars = true → chars.contains c = true → held c)
    {pattern : Pattern} {before piece after : List Char}
    (matched : Matches pattern before piece after) (classes : pattern.classesAll test = true) :
    ∀ c ∈ piece, held c := by
  induction pattern generalizing before piece after with
  | empty =>
      cases matched
      exact List.forall_mem_nil _
  | look condition =>
      cases matched
      exact List.forall_mem_nil _
  | char chars =>
      cases matched with
      | char contains => exact List.forall_mem_singleton.mpr (sound classes contains)
  | seq first second firstHolds secondHolds =>
      obtain ⟨left, right, rfl, firstMatches, secondMatches⟩ := matches_seq_iff.mp matched
      have both := Bool.and_eq_true_iff.mp classes
      exact List.forall_mem_append.mpr
        ⟨firstHolds firstMatches both.1, secondHolds secondMatches both.2⟩
  | alt left right leftHolds rightHolds =>
      have both := Bool.and_eq_true_iff.mp classes
      rcases matches_alt_iff.mp matched with here | here
      · exact leftHolds here both.1
      · exact rightHolds here both.2
  | rep inner least more innerHolds =>
      obtain ⟨count, allowed, copies⟩ := matches_rep_iff.mp matched
      clear matched allowed
      induction copies with
      | stop => exact List.forall_mem_nil _
      | copy first _ others =>
          exact List.forall_mem_append.mpr ⟨innerHolds first classes, others⟩

/-- Whether the classes of a pattern hold no white space. -/
def solid (pattern : Pattern) : Bool :=
  pattern.classesAll CharClass.solid

theorem Matches.solid {pattern : Pattern} {before piece after : List Char}
    (matched : Matches pattern before piece after) (solid : pattern.solid = true) :
    ∀ c ∈ piece, Unicode.isBlank c = false :=
  matched.forall_mem (fun solid held => CharClass.isBlank_eq_false_of_solid solid held) solid

/-- Whether the text up to the end of a match is sure not to end in white space, given whether the
text before the match is. -/
def solidAfter (before : Bool) : Pattern → Bool
  | empty => before
  | char chars => chars.solid
  | look _ => before
  | seq first second => second.solidAfter (first.solidAfter before)
  | alt left right => left.solidAfter before && right.solidAfter before
  | rep inner _ _ => before && inner.solidAfter true

theorem Matches.endsSolid {pattern : Pattern} {before piece after : List Char}
    (matched : Matches pattern before piece after) {known : Bool}
    (front : known = true → EndsSolid before) (solid : pattern.solidAfter known = true) :
    EndsSolid (before ++ piece) := by
  induction pattern generalizing before piece after known with
  | empty =>
      cases matched
      rw [List.append_nil]
      exact front solid
  | look condition =>
      cases matched
      rw [List.append_nil]
      exact front solid
  | char chars =>
      cases matched with
      | char held =>
          intro c last
          rw [List.getLast?_concat] at last
          cases last
          exact CharClass.isBlank_eq_false_of_solid solid held
  | seq first second firstSolid secondSolid =>
      obtain ⟨left, right, rfl, firstMatches, secondMatches⟩ := matches_seq_iff.mp matched
      rw [← List.append_assoc]
      exact secondSolid secondMatches (fun between => firstSolid firstMatches front between) solid
  | alt left right leftSolid rightSolid =>
      have both := Bool.and_eq_true_iff.mp solid
      rcases matches_alt_iff.mp matched with here | here
      · exact leftSolid here front both.1
      · exact rightSolid here front both.2
  | rep inner least more innerSolid =>
      obtain ⟨start, again⟩ := Bool.and_eq_true_iff.mp solid
      obtain ⟨count, allowed, copies⟩ := matches_rep_iff.mp matched
      have ends := front start
      clear matched allowed front
      -- A copy starts where the one before it ended.
      induction copies with
      | stop => rwa [List.append_nil]
      | copy first _ others =>
          rw [← List.append_assoc]
          exact others (innerSolid first (fun _ => ends) again)

/-- Whether a pattern matches no empty piece. -/
def consumes : Pattern → Bool
  | char _ => true
  | seq first second => first.consumes || second.consumes
  | alt left right => left.consumes && right.consumes
  | rep inner least _ => least != 0 && inner.consumes
  | _ => false

theorem Matches.ne_nil {pattern : Pattern} {before piece after : List Char}
    (matched : Matches pattern before piece after) (consumes : pattern.consumes = true) :
    piece ≠ [] := by
  induction matched with
  | char => exact List.cons_ne_nil _ _
  | seq _ _ firstNe secondNe =>
      rcases Bool.or_eq_true_iff.mp consumes with first | second
      · exact List.append_ne_nil_of_left_ne_nil (firstNe first) _
      · exact List.append_ne_nil_of_right_ne_nil _ (secondNe second)
  | alt_left _ leftNe => exact leftNe (Bool.and_eq_true_iff.mp consumes).1
  | alt_right _ rightNe => exact rightNe (Bool.and_eq_true_iff.mp consumes).2
  | rep_required _ _ firstNe _ =>
      exact List.append_ne_nil_of_left_ne_nil (firstNe (Bool.and_eq_true_iff.mp consumes).2) _
  | _ => cases consumes

/-- Whether no condition looks at the text behind a match that ends in white space, given whether
the text before the match is sure not to end so. -/
def settles (before : Bool) : Pattern → Bool
  | empty => true
  | char _ => true
  | look _ => before
  | seq first second =>
    second.settles (first.solidAfter before) && (second.consumes || first.settles before)
  | alt left right => left.settles before && right.settles before
  | rep inner _ _ => inner.looksAll fun _ => false

end Pattern

namespace Move

/-- Nothing changes at the edges of the match. -/
def still : Move where
  keeps _ := true
  left := Eq
  right := Eq
  left_refl := front.right_refl
  right_refl := front.right_refl
  holds := by
    intro condition before before' after after' _ left right held
    subst left right
    exact held

/-- The surroundings change in any way, and nothing may look at them. -/
def free : Move where
  keeps _ := false
  left _ _ := True
  right _ _ := True
  left_refl _ := trivial
  right_refl _ := trivial
  holds := by
    intro condition before before' after after' kept
    cases kept

end Move

namespace Pattern

theorem looksAll_still (pattern : Pattern) : pattern.looksAll Move.still.keeps = true := by
  induction pattern with
  | seq first second firstKept secondKept => exact Bool.and_eq_true_iff.mpr ⟨firstKept, secondKept⟩
  | alt left right leftKept rightKept => exact Bool.and_eq_true_iff.mpr ⟨leftKept, rightKept⟩
  | rep inner _ _ innerKept => exact innerKept
  | _ => rfl

/-- A match depends only on the neighbours of its piece. -/
theorem Matches.of_neighbours {pattern : Pattern} {before before' piece after after' : List Char}
    (matched : Matches pattern before piece after) (left : before.getLast? = before'.getLast?)
    (right : after.head? = after'.head?) : Matches pattern before' piece after' :=
  matched.move .still pattern.looksAll_still left right

/-- The text behind a match that ends in white space does not matter to a settled pattern. -/
theorem Matches.settle {pattern : Pattern} {before piece after : List Char}
    (matched : Matches pattern before piece after) {known : Bool}
    (front : known = true → EndsSolid before) (settles : pattern.settles known = true)
    (blank : EndsInBlank (before ++ piece)) (after' : List Char) :
    Matches pattern before piece after' := by
  induction pattern generalizing before piece after known with
  | empty =>
      cases matched
      exact .empty
  | char chars =>
      cases matched with
      | char held => exact .char held
  | look condition =>
      cases matched
      rw [List.append_nil] at blank
      exact ((front settles).not_endsInBlank blank).elim
  | seq first second firstSettles secondSettles =>
      obtain ⟨left, right, rfl, firstMatches, secondMatches⟩ := matches_seq_iff.mp matched
      obtain ⟨secondSettled, firstSettled⟩ := Bool.and_eq_true_iff.mp settles
      rw [← List.append_assoc] at blank
      have secondMoved : Matches second (before ++ left) right after' :=
        secondSettles secondMatches (firstMatches.endsSolid front) secondSettled blank
      refine .seq ?_ secondMoved
      cases right with
      | cons c right => exact firstMatches.of_neighbours rfl rfl
      | nil =>
          rw [List.append_nil] at blank
          rcases Bool.or_eq_true_iff.mp firstSettled with consumes | settled
          · exact (secondMatches.ne_nil consumes rfl).elim
          · exact firstSettles firstMatches front settled blank
  | alt left right leftSettles rightSettles =>
      have both := Bool.and_eq_true_iff.mp settles
      rcases matches_alt_iff.mp matched with here | here
      · exact .alt_left (leftSettles here front both.1 blank)
      · exact .alt_right (rightSettles here front both.2 blank)
  | rep inner least more _ => exact matched.move .free settles trivial trivial

end Pattern

end ScreenedSuite
