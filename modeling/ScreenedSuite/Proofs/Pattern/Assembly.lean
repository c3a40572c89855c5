import ScreenedSuite.Proofs.Pattern.Solid

/-! # Matches put together

A pattern in sequence begins a text piece by piece. These lemmas walk along the sequence: over a
character, a condition, white space, a part that may be left out, and a list of parts. A pattern
that begins the rest of a text occurs in it (`ScreenedSuite.Pattern.Begins.occurs`).
-/

namespace ScreenedSuite

namespace Pattern

theorem Begins.occurs {pattern : Pattern} {before text : List Char}
    (begins : pattern.Begins before text) : pattern.Occurs (before ++ text) := by
  obtain ⟨piece, after, rfl, matched⟩ := begins
  exact ⟨before, piece, after, (List.append_assoc _ _ _).symm, matched⟩

/-- A sequence begins a text with a piece of its first part and goes on behind that. -/
theorem Begins.seq {first second : Pattern} {before piece rest : List Char}
    (matched : Matches first before piece rest) (begins : second.Begins (before ++ piece) rest) :
    (seq first second).Begins before (piece ++ rest) := by
  obtain ⟨right, after, rfl, rightMatches⟩ := begins
  exact ⟨piece ++ right, after, (List.append_assoc _ _ _).symm, .seq matched rightMatches⟩

theorem Begins.cons {chars : CharClass} {second : Pattern} {before rest : List Char} {c : Char}
    (held : chars.contains c = true) (begins : second.Begins (before ++ [c]) rest) :
    (Pattern.seq (char chars) second).Begins before (c :: rest) :=
  .seq (.char held) begins

theorem Begins.look {condition : Look} {second : Pattern} {before text : List Char}
    (holds : condition.holds before.getLast? text.head? = true)
    (begins : second.Begins before text) :
    (Pattern.seq (look condition) second).Begins before text := by
  have here : Matches (Pattern.look condition) before [] text := .look holds
  exact .seq here (by rwa [List.append_nil])

theorem matches_char_iff {chars : CharClass} {before piece after : List Char} :
    Matches (char chars) before piece after ↔ ∃ c, piece = [c] ∧ chars.contains c = true := by
  constructor
  · intro matched
    cases matched with
    | @char _ _ _ c held => exact ⟨c, rfl, held⟩
  · intro ⟨c, same, held⟩
    rw [same]
    exact .char held

/-- Characters of a class, so many that the repetition needs no more. -/
theorem matches_rep_char {chars : CharClass} {least : Nat} {piece : List Char}
    (held : ∀ c ∈ piece, chars.contains c = true) (enough : least ≤ piece.length)
    (before after : List Char) : Matches (rep (char chars) least none) before piece after := by
  induction piece generalizing least before with
  | nil =>
      obtain rfl : least = 0 := Nat.le_zero.mp enough
      exact .rep_stop
  | cons c rest ih =>
      have first : Matches (char chars) before [c] (rest ++ after) :=
        .char (held c List.mem_cons_self)
      have others (least : Nat) (enough : least ≤ rest.length) :=
        ih (fun c member => held c (List.mem_cons_of_mem _ member)) enough (before ++ [c])
      cases least with
      | zero => exact .rep_unbounded first (others 0 (Nat.zero_le _))
      | succ least => exact .rep_required first (others least (Nat.le_of_succ_le_succ enough))

/-- White space, at least one character of it. -/
def gap : Pattern :=
  rep (char .space) 1 none

theorem matches_gap_iff {before piece after : List Char} :
    Matches gap before piece after ↔ IsGap piece := by
  constructor
  · intro matched
    have sound {chars : CharClass} {c : Char} (same : (chars == .space) = true)
        (held : chars.contains c = true) : Unicode.isBlank c = true := by
      cases eq_of_beq same
      exact held
    exact ⟨matched.ne_nil rfl, matched.forall_mem sound rfl⟩
  · intro isGap
    exact matches_rep_char isGap.2 (List.length_pos_iff.mpr isGap.1) before after

/-- A part that may be left out is there or not. -/
theorem matches_optional_iff {inner : Pattern} {before piece after : List Char} :
    Matches (rep inner 0 (some 1)) before piece after ↔
      piece = [] ∨ Matches inner before piece after := by
  constructor
  · intro matched
    cases matched with
    | rep_stop => exact .inl rfl
    | rep_bounded innerMatches nothing =>
        cases nothing
        rw [List.nil_append] at innerMatches
        rw [List.append_nil]
        exact .inr innerMatches
  · intro present
    rcases present with rfl | matched
    · exact .rep_stop
    · have alone : Matches (rep inner 0 (some 1)) before (piece ++ []) after := by
        apply Matches.rep_bounded
        · exact matched
        · exact .rep_stop
      rwa [List.append_nil] at alone

/-- Any number of parts that match in all surroundings. -/
theorem matches_rep_flatten {inner : Pattern} {pieces : List (List Char)}
    (each : ∀ piece ∈ pieces, ∀ before after, Matches inner before piece after)
    (before after : List Char) : Matches (rep inner 0 none) before pieces.flatten after := by
  induction pieces generalizing before with
  | nil => exact .rep_stop
  | cons piece pieces ih =>
      rw [List.flatten_cons]
      apply Matches.rep_unbounded
      · exact each piece List.mem_cons_self before _
      · exact ih (fun other member => each other (List.mem_cons_of_mem _ member)) _

end Pattern

end ScreenedSuite
