import Mathlib.Data.List.Basic
import ScreenedSuite.Pattern.Search

/-! # The search finds the occurrences

A repetition matches a piece exactly when so many copies as it allows match the piece in sequence
(`ScreenedSuite.Pattern.matches_rep_iff`). From this, a pattern matches the empty piece exactly when
it is nullable (`ScreenedSuite.Pattern.nullable_iff`), and a piece that begins with a character
exactly when a remainder after that character matches what is left
(`ScreenedSuite.Pattern.matches_cons_iff`). A search that carries the remainders along a text
therefore finds a pattern exactly when it occurs there
(`ScreenedSuite.Pattern.occursIn_iff_occurs`).
-/

namespace ScreenedSuite.Pattern

/-- So many pieces in sequence, each matched by a pattern. -/
inductive Copies (inner : Pattern) : Nat → List Char → List Char → List Char → Prop
  | stop {before after : List Char} : Copies inner 0 before [] after
  | copy {count : Nat} {before left right after : List Char}
      (first : Matches inner before left (right ++ after))
      (others : Copies inner count (before ++ left) right after) :
      Copies inner (count + 1) before (left ++ right) after

/-- Whether a repetition allows a number of copies. -/
def Allows (least : Nat) (more : Option Nat) (count : Nat) : Prop :=
  least ≤ count ∧ ∀ bound, more = some bound → count ≤ least + bound

theorem matches_seq_iff {first second : Pattern} {before piece after : List Char} :
    Matches (.seq first second) before piece after ↔
      ∃ left right, piece = left ++ right ∧ Matches first before left (right ++ after) ∧
        Matches second (before ++ left) right after := by
  constructor
  · intro matched
    cases matched with
    | seq first_matches second_matches => exact ⟨_, _, rfl, first_matches, second_matches⟩
  · rintro ⟨left, right, rfl, first_matches, second_matches⟩
    exact .seq first_matches second_matches

theorem matches_alt_iff {left right : Pattern} {before piece after : List Char} :
    Matches (.alt left right) before piece after ↔
      Matches left before piece after ∨ Matches right before piece after := by
  constructor
  · intro matched
    cases matched with
    | alt_left left_matches => exact .inl left_matches
    | alt_right right_matches => exact .inr right_matches
  · rintro (left_matches | right_matches)
    · exact .alt_left left_matches
    · exact .alt_right right_matches

theorem exists_copies_of_matches {pattern : Pattern} {before piece after : List Char}
    (matched : Matches pattern before piece after) {inner : Pattern} {least : Nat}
    {more : Option Nat} (same : pattern = .rep inner least more) :
    ∃ count, Allows least more count ∧ Copies inner count before piece after := by
  induction matched generalizing least more with
  | rep_stop =>
      cases same
      exact ⟨0, ⟨Nat.le_refl _, fun _ _ => Nat.zero_le _⟩, .stop⟩
  | rep_required inner_matches _ _ ih =>
      cases same
      obtain ⟨count, ⟨enough, bounded⟩, copies⟩ := ih rfl
      refine ⟨count + 1, ⟨by omega, fun bound known => ?_⟩, .copy inner_matches copies⟩
      have := bounded bound known
      omega
  | rep_bounded inner_matches _ _ ih =>
      cases same
      obtain ⟨count, ⟨_, bounded⟩, copies⟩ := ih rfl
      refine ⟨count + 1, ⟨Nat.zero_le _, fun bound known => ?_⟩, .copy inner_matches copies⟩
      cases known
      have := bounded _ rfl
      omega
  | rep_unbounded inner_matches _ _ ih =>
      cases same
      obtain ⟨count, _, copies⟩ := ih rfl
      exact ⟨count + 1, ⟨Nat.zero_le _, fun _ absurdity => by cases absurdity⟩,
        .copy inner_matches copies⟩
  | _ => cases same

theorem matches_of_copies {inner : Pattern} {least count : Nat} {more : Option Nat}
    {before piece after : List Char} (copies : Copies inner count before piece after)
    (allowed : Allows least more count) :
    Matches (.rep inner least more) before piece after := by
  induction copies generalizing least more with
  | stop =>
      obtain rfl : least = 0 := Nat.le_zero.mp allowed.1
      exact .rep_stop
  | copy first _ ih =>
      obtain ⟨enough, bounded⟩ := allowed
      cases least with
      | succ least =>
          refine .rep_required first (ih ⟨by omega, fun bound known => ?_⟩)
          have := bounded bound known
          omega
      | zero =>
          match more, bounded with
          | none, _ => exact .rep_unbounded first (ih ⟨Nat.zero_le _, fun _ known => by cases known⟩)
          | some 0, bounded => exact absurd (bounded 0 rfl) (by omega)
          | some (more + 1), bounded =>
              refine .rep_bounded first (ih ⟨Nat.zero_le _, fun bound known => ?_⟩)
              cases known
              have := bounded _ rfl
              omega

/-- A repetition matches what an allowed number of copies matches. -/
theorem matches_rep_iff {inner : Pattern} {least : Nat} {more : Option Nat}
    {before piece after : List Char} :
    Matches (.rep inner least more) before piece after ↔
      ∃ count, Allows least more count ∧ Copies inner count before piece after := by
  constructor
  · intro matched
    exact exists_copies_of_matches matched rfl
  · rintro ⟨count, allowed, copies⟩
    exact matches_of_copies copies allowed

/-- Copies of the empty piece, as many as one likes, may stand in front of other copies. -/
theorem Copies.padded {inner : Pattern} {count : Nat} {before piece after : List Char}
    (copies : Copies inner count before piece after)
    (skipped : Matches inner before [] (piece ++ after)) (more : Nat) :
    Copies inner (count + more) before piece after := by
  induction more with
  | zero => exact copies
  | succ more ih =>
      have behind : Copies inner (count + more) (before ++ []) piece after := by
        rwa [List.append_nil]
      exact .copy skipped behind

theorem nullable_of_matches {pattern : Pattern} {before piece after : List Char}
    (matched : Matches pattern before piece after) (nothing : piece = []) :
    pattern.nullable before.getLast? after.head? = true := by
  induction matched with
  | empty => rfl
  | char => cases nothing
  | look holds => exact holds
  | seq _ _ first_ih second_ih =>
      obtain ⟨rfl, rfl⟩ := List.append_eq_nil_iff.mp nothing
      have first := first_ih rfl
      have second := second_ih rfl
      rw [List.nil_append] at first
      rw [List.append_nil] at second
      rw [nullable, first, second, Bool.and_self]
  | alt_left _ ih => rw [nullable, ih nothing, Bool.true_or]
  | alt_right _ ih => rw [nullable, ih nothing, Bool.or_true]
  | rep_required _ _ ih _ =>
      obtain ⟨rfl, rfl⟩ := List.append_eq_nil_iff.mp nothing
      have inner := ih rfl
      rw [List.nil_append] at inner
      rw [nullable, inner, Bool.or_true]
  | _ => rfl

theorem matches_nil_of_nullable {pattern : Pattern} {before after : List Char}
    (nullable : pattern.nullable before.getLast? after.head? = true) :
    Matches pattern before [] after := by
  induction pattern with
  | empty => exact .empty
  | char chars => cases nullable
  | look condition => exact .look nullable
  | seq first second first_ih second_ih =>
      obtain ⟨first_nullable, second_nullable⟩ := Bool.and_eq_true_iff.mp nullable
      have second_matches : Matches second (before ++ []) [] after := by
        rw [List.append_nil]
        exact second_ih second_nullable
      exact .seq (first_ih first_nullable) second_matches
  | alt left right left_ih right_ih =>
      rcases Bool.or_eq_true_iff.mp nullable with left_nullable | right_nullable
      · exact .alt_left (left_ih left_nullable)
      · exact .alt_right (right_ih right_nullable)
  | rep inner least more ih =>
      rcases Bool.or_eq_true_iff.mp nullable with none_required | inner_nullable
      · obtain rfl : least = 0 := beq_iff_eq.mp none_required
        exact .rep_stop
      · have copies : Copies inner (0 + least) before [] after :=
          Copies.stop.padded (ih inner_nullable) least
        rw [Nat.zero_add] at copies
        exact matches_of_copies copies ⟨Nat.le_refl _, fun _ _ => Nat.le_add_right _ _⟩

/-- A pattern matches the empty piece exactly where it is nullable. -/
theorem nullable_iff (pattern : Pattern) (before after : List Char) :
    pattern.nullable before.getLast? after.head? = true ↔ Matches pattern before [] after :=
  ⟨matches_nil_of_nullable, fun matched => nullable_of_matches matched rfl⟩

theorem matches_followedBy_iff {first second : Pattern} {before piece after : List Char} :
    Matches (first.followedBy second) before piece after ↔
      Matches (.seq first second) before piece after := by
  cases first with
  | empty =>
      rw [matches_seq_iff, followedBy]
      constructor
      · intro matched
        exact ⟨[], piece, rfl, .empty, by rwa [List.append_nil]⟩
      · rintro ⟨left, right, rfl, first_matches, second_matches⟩
        cases first_matches
        rwa [List.append_nil] at second_matches
  | _ => rfl

/-- The first character of copies is the first one of some copy. The copies in front of that one are
empty. -/
theorem Copies.cons {inner : Pattern} {count : Nat} {before piece after : List Char}
    (copies : Copies inner count before piece after) {c : Char} {rest : List Char}
    (begins : piece = c :: rest) :
    ∃ others left right, others < count ∧ rest = left ++ right ∧
      Matches inner before (c :: left) (right ++ after) ∧
      Copies inner others (before ++ c :: left) right after ∧
      (others + 1 < count → Matches inner before [] (c :: rest ++ after)) := by
  induction copies with
  | stop => cases begins
  | @copy count before left right after first others ih =>
      cases left with
      | nil =>
          rw [List.nil_append] at begins
          rw [List.append_nil] at ih
          obtain ⟨remaining, left, behind, fewer, same, matched, copies, _⟩ := ih begins
          subst begins
          exact ⟨remaining, left, behind, by omega, same, matched, copies, fun _ => first⟩
      | cons head left =>
          cases begins
          exact ⟨count, left, right, Nat.lt_succ_self _, rfl, first, others,
            fun absurdity => absurd absurdity (Nat.lt_irrefl _)⟩

/-- What may follow a copy is other copies, so many that with empty copies in front, where these are
possible, the repetition allows them all. -/
theorem exists_copies_of_afterCopy {inner rest : Pattern} {least : Nat} {more : Option Nat}
    {skips : Bool} (left : afterCopy inner least more skips = some rest)
    {before piece after : List Char} (matched : Matches rest before piece after) :
    ∃ others padding, Allows least more (others + 1 + padding) ∧
      (padding ≠ 0 → skips = true) ∧ Copies inner others before piece after := by
  unfold afterCopy at left
  split at left
  · cases left
    obtain ⟨others, _, copies⟩ := matches_rep_iff.mp matched
    exact ⟨others, 0, ⟨Nat.zero_le _, fun _ known => by cases known⟩,
      fun absurdity => absurd rfl absurdity, copies⟩
  · cases left
  · cases left
    obtain ⟨others, ⟨_, bounded⟩, copies⟩ := matches_rep_iff.mp matched
    refine ⟨others, 0, ⟨Nat.zero_le _, fun bound known => ?_⟩,
      fun absurdity => absurd rfl absurdity, copies⟩
    cases known
    have := bounded _ rfl
    omega
  · next required =>
      cases skips with
      | true =>
          cases left
          obtain ⟨others, ⟨_, bounded⟩, copies⟩ := matches_rep_iff.mp matched
          refine ⟨others, required - others, ⟨by omega, fun bound known => ?_⟩, fun _ => rfl, copies⟩
          have := bounded (required + bound) (by rw [known, Option.map_some])
          omega
      | false =>
          cases left
          obtain ⟨others, ⟨enough, bounded⟩, copies⟩ := matches_rep_iff.mp matched
          refine ⟨others, 0, ⟨by omega, fun bound known => ?_⟩,
            fun absurdity => absurd rfl absurdity, copies⟩
          have := bounded bound known
          omega

/-- Whatever copies an allowed number leaves behind the first one that is not empty, they may follow
that one. -/
theorem exists_afterCopy_of_copies {inner : Pattern} {least count others : Nat} {more : Option Nat}
    {skips : Bool} (allowed : Allows least more count) (fewer : others < count)
    (skipped : others + 1 < count → skips = true) {before piece after : List Char}
    (copies : Copies inner others before piece after) :
    ∃ rest, afterCopy inner least more skips = some rest ∧ Matches rest before piece after := by
  obtain ⟨enough, bounded⟩ := allowed
  unfold afterCopy
  split
  · exact ⟨_, rfl, matches_of_copies copies ⟨Nat.zero_le _, fun _ known => by cases known⟩⟩
  · have := bounded 0 rfl
    omega
  · refine ⟨_, rfl, matches_of_copies copies ⟨Nat.zero_le _, fun bound known => ?_⟩⟩
    cases known
    have := bounded _ rfl
    omega
  · next required =>
      cases skips with
      | true =>
          refine ⟨_, rfl, matches_of_copies copies ⟨Nat.zero_le _, fun bound known => ?_⟩⟩
          obtain ⟨more, present, rfl⟩ := Option.map_eq_some_iff.mp known
          have := bounded more present
          omega
      | false =>
          have last : ¬ others + 1 < count := fun absurdity => by cases skipped absurdity
          refine ⟨_, rfl, matches_of_copies copies ⟨by omega, fun bound known => ?_⟩⟩
          have := bounded bound known
          omega

theorem exists_followedBy_iff (remainders : List Pattern) (second : Pattern)
    (before piece after : List Char) :
    (∃ rest ∈ remainders.map (·.followedBy second), Matches rest before piece after) ↔
      ∃ left right, piece = left ++ right ∧
        (∃ rest ∈ remainders, Matches rest before left (right ++ after)) ∧
          Matches second (before ++ left) right after := by
  constructor
  · rintro ⟨_, member, matched⟩
    obtain ⟨rest, rest_member, rfl⟩ := List.mem_map.mp member
    obtain ⟨left, right, same, rest_matches, second_matches⟩ :=
      matches_seq_iff.mp (matches_followedBy_iff.mp matched)
    exact ⟨left, right, same, ⟨rest, rest_member, rest_matches⟩, second_matches⟩
  · rintro ⟨left, right, same, ⟨rest, member, rest_matches⟩, second_matches⟩
    refine ⟨_, List.mem_map_of_mem member, matches_followedBy_iff.mpr ?_⟩
    exact matches_seq_iff.mpr ⟨left, right, same, rest_matches, second_matches⟩

/-- A sequence consumes a character with its second pattern, behind an empty piece, or with its
first one. -/
theorem matches_seq_cons_iff {first second : Pattern} {before piece after : List Char} {c : Char} :
    Matches (.seq first second) before (c :: piece) after ↔
      (∃ left right, piece = left ++ right ∧ Matches first before (c :: left) (right ++ after) ∧
        Matches second (before ++ c :: left) right after) ∨
      (Matches first before [] (c :: piece ++ after) ∧
        Matches second before (c :: piece) after) := by
  rw [matches_seq_iff]
  constructor
  · rintro ⟨left, right, same, first_matches, second_matches⟩
    rcases List.cons_eq_append_iff.mp same with ⟨rfl, rfl⟩ | ⟨left, rfl, rfl⟩
    · rw [List.append_nil] at second_matches
      exact .inr ⟨first_matches, second_matches⟩
    · exact .inl ⟨left, right, rfl, first_matches, second_matches⟩
  · rintro (⟨left, right, rfl, first_matches, second_matches⟩ | ⟨first_matches, second_matches⟩)
    · exact ⟨c :: left, right, rfl, first_matches, second_matches⟩
    · exact ⟨[], c :: piece, rfl, first_matches, by rwa [List.append_nil]⟩

/-- A repetition consumes a character with a copy of its pattern, and what that copy leaves open
follows. -/
theorem matches_rep_cons_iff {inner : Pattern} {least : Nat} {more : Option Nat}
    {before piece after : List Char} {c : Char} :
    Matches (.rep inner least more) before (c :: piece) after ↔
      ∃ rest, afterCopy inner least more (inner.nullable before.getLast? (some c)) = some rest ∧
        ∃ left right, piece = left ++ right ∧ Matches inner before (c :: left) (right ++ after) ∧
          Matches rest (before ++ c :: left) right after := by
  have passes : inner.nullable before.getLast? (some c) = true ↔
      Matches inner before [] (c :: piece ++ after) :=
    nullable_iff inner before (c :: piece ++ after)
  rw [matches_rep_iff]
  constructor
  · rintro ⟨count, allowed, copies⟩
    obtain ⟨others, left, right, fewer, same, first, copies, skipped⟩ := copies.cons rfl
    obtain ⟨rest, possible, rest_matches⟩ := exists_afterCopy_of_copies allowed fewer
      (fun some_skipped => passes.mpr (skipped some_skipped)) copies
    exact ⟨rest, possible, left, right, same, first, rest_matches⟩
  · rintro ⟨rest, possible, left, right, rfl, first, rest_matches⟩
    obtain ⟨others, padding, allowed, skipped, copies⟩ :=
      exists_copies_of_afterCopy possible rest_matches
    have all : Copies inner (others + 1) before (c :: left ++ right) after := .copy first copies
    refine ⟨others + 1 + padding, allowed, ?_⟩
    cases padding with
    | zero => exact all
    | succ padding => exact all.padded (passes.mp (skipped (Nat.succ_ne_zero padding))) _

theorem mem_step_seq_iff {first second rest : Pattern} {before : Option Char} {c : Char} :
    rest ∈ (seq first second).step before c ↔
      rest ∈ (first.step before c).map (·.followedBy second) ∨
        first.nullable before (some c) = true ∧ rest ∈ second.step before c := by
  rw [step]
  split
  · next passes => simp only [passes, List.mem_append, true_and]
  · next passes => simp only [passes, Bool.false_eq_true, false_and, or_false]

theorem mem_step_rep_iff {inner rest : Pattern} {least : Nat} {more : Option Nat}
    {before : Option Char} {c : Char} :
    rest ∈ (rep inner least more).step before c ↔
      ∃ others, afterCopy inner least more (inner.nullable before (some c)) = some others ∧
        rest ∈ (inner.step before c).map (·.followedBy others) := by
  rw [step]
  split
  · next impossible =>
      simp only [impossible, List.not_mem_nil, reduceCtorEq, false_and, exists_false]
  · next possible => simp only [possible, Option.some.injEq, exists_eq_left']

/-- The remainders of a pattern, each with another pattern behind it, match what is left where the
pattern consumes the character and the other one follows. -/
theorem exists_step_followedBy_iff {first second : Pattern} {before piece after : List Char}
    {c : Char}
    (consumes : ∀ {left right : List Char}, Matches first before (c :: left) right ↔
      ∃ rest ∈ first.step before.getLast? c, Matches rest (before ++ [c]) left right) :
    (∃ rest ∈ (first.step before.getLast? c).map (·.followedBy second),
        Matches rest (before ++ [c]) piece after) ↔
      ∃ left right, piece = left ++ right ∧ Matches first before (c :: left) (right ++ after) ∧
        Matches second (before ++ c :: left) right after := by
  rw [exists_followedBy_iff]
  simp only [consumes, List.append_assoc, List.singleton_append]

/-- A pattern matches a piece that begins with a character exactly when a remainder matches what is
left of the piece. -/
theorem matches_cons_iff {pattern : Pattern} {before piece after : List Char} {c : Char} :
    Matches pattern before (c :: piece) after ↔
      ∃ rest ∈ pattern.step before.getLast? c, Matches rest (before ++ [c]) piece after := by
  induction pattern generalizing before piece after with
  | empty | look =>
      constructor
      · intro absurdity
        cases absurdity
      · rintro ⟨rest, absurdity, _⟩
        cases absurdity
  | char chars =>
      unfold step
      constructor
      · intro matched
        cases matched with
        | char held =>
            rw [held]
            exact ⟨.empty, List.mem_singleton_self _, .empty⟩
      · rintro ⟨rest, member, matched⟩
        split at member
        · next held =>
            cases List.mem_singleton.mp member
            cases matched
            exact .char held
        · cases member
  | alt left right left_ih right_ih =>
      simp only [matches_alt_iff, left_ih, right_ih, step, List.mem_append, or_and_right,
        exists_or]
  | seq first second first_ih second_ih =>
      have passes : first.nullable before.getLast? (some c) = true ↔
          Matches first before [] (c :: piece ++ after) :=
        nullable_iff first before (c :: piece ++ after)
      rw [matches_seq_cons_iff, ← exists_step_followedBy_iff first_ih, ← passes, second_ih]
      simp only [mem_step_seq_iff, or_and_right, exists_or, and_assoc, exists_and_left]
  | rep inner least more ih =>
      rw [matches_rep_cons_iff]
      simp only [← exists_step_followedBy_iff ih, mem_step_rep_iff]
      constructor
      · rintro ⟨others, possible, rest, member, matched⟩
        exact ⟨rest, ⟨others, possible, member⟩, matched⟩
      · rintro ⟨rest, ⟨others, possible, member⟩, matched⟩
        exact ⟨others, possible, rest, member, matched⟩

/-- Whether a pattern matches a beginning of the rest of a text. -/
def Begins (pattern : Pattern) (before text : List Char) : Prop :=
  ∃ piece after, text = piece ++ after ∧ Matches pattern before piece after

theorem begins_nil_iff {pattern : Pattern} {before : List Char} :
    pattern.Begins before [] ↔ pattern.nullable before.getLast? none = true := by
  have null : pattern.nullable before.getLast? none = true ↔ Matches pattern before [] [] :=
    nullable_iff pattern before []
  rw [null]
  constructor
  · rintro ⟨piece, after, same, matched⟩
    obtain ⟨rfl, rfl⟩ := List.append_eq_nil_iff.mp same.symm
    exact matched
  · intro matched
    exact ⟨[], [], rfl, matched⟩

theorem begins_cons_iff {pattern : Pattern} {before text : List Char} {c : Char} :
    pattern.Begins before (c :: text) ↔
      pattern.nullable before.getLast? (some c) = true ∨
        ∃ rest ∈ pattern.step before.getLast? c, rest.Begins (before ++ [c]) text := by
  have null : pattern.nullable before.getLast? (some c) = true ↔
      Matches pattern before [] (c :: text) :=
    nullable_iff pattern before (c :: text)
  rw [null]
  constructor
  · rintro ⟨piece, after, same, matched⟩
    rcases List.cons_eq_append_iff.mp same with ⟨rfl, rfl⟩ | ⟨piece, rfl, rfl⟩
    · exact .inl matched
    · obtain ⟨rest, member, rest_matches⟩ := matches_cons_iff.mp matched
      exact .inr ⟨rest, member, piece, after, rfl, rest_matches⟩
  · rintro (matched | ⟨rest, member, piece, after, rfl, rest_matches⟩)
    · exact ⟨[], _, rfl, matched⟩
    · exact ⟨c :: piece, after, rfl, matches_cons_iff.mpr ⟨rest, member, rest_matches⟩⟩

/-- Of several patterns some one begins at a character where one is nullable or one of all their
remainders begins behind it. -/
theorem exists_begins_cons_iff {active : List Pattern} {before text : List Char} {c : Char} :
    (∃ pattern ∈ active, pattern.Begins before (c :: text)) ↔
      active.any (·.nullable before.getLast? (some c)) = true ∨
        ∃ rest ∈ (active.flatMap (·.step before.getLast? c)).eraseDups,
          rest.Begins (before ++ [c]) text := by
  simp only [List.any_eq_true, List.mem_eraseDups, List.mem_flatMap, begins_cons_iff]
  constructor
  · rintro ⟨pattern, member, null | ⟨rest, stepped, begins⟩⟩
    · exact .inl ⟨pattern, member, null⟩
    · exact .inr ⟨rest, ⟨pattern, member, stepped⟩, begins⟩
  · rintro (⟨pattern, member, null⟩ | ⟨rest, ⟨pattern, member, stepped⟩, begins⟩)
    · exact ⟨pattern, member, .inl null⟩
    · exact ⟨pattern, member, .inr ⟨rest, stepped, begins⟩⟩

/-- A search behind the text read so far finds what was begun and goes on, and what begins in the
rest of the text. -/
theorem occursFrom_iff {pattern : Pattern} {begun : List Pattern} {before text : List Char} :
    pattern.occursFrom begun before.getLast? text = true ↔
      (∃ rest ∈ begun, rest.Begins before text) ∨
        ∃ skipped remaining, text = skipped ++ remaining ∧
          pattern.Begins (before ++ skipped) remaining := by
  induction text generalizing begun before with
  | nil =>
      simp only [occursFrom, List.any_cons, Bool.or_eq_true, List.any_eq_true, ← begins_nil_iff]
      constructor
      · rintro (here | going_on)
        · exact .inr ⟨[], [], rfl, by rwa [List.append_nil]⟩
        · exact .inl going_on
      · rintro (going_on | ⟨skipped, remaining, same, here⟩)
        · exact .inr going_on
        · obtain ⟨rfl, rfl⟩ := List.append_eq_nil_iff.mp same.symm
          rw [List.append_nil] at here
          exact .inl here
  | cons c text ih =>
      have later := @ih ((pattern :: begun).flatMap (·.step before.getLast? c)).eraseDups
        (before ++ [c])
      rw [List.getLast?_concat] at later
      rw [occursFrom, Bool.or_eq_true, later, ← or_assoc, ← exists_begins_cons_iff,
        List.exists_mem_cons_iff]
      -- What begins in the rest of the text begins at its first character or behind it.
      constructor
      · rintro ((here | going_on) | ⟨skipped, remaining, rfl, begins⟩)
        · exact .inr ⟨[], _, rfl, by rwa [List.append_nil]⟩
        · exact .inl going_on
        · rw [List.append_assoc] at begins
          exact .inr ⟨c :: skipped, remaining, rfl, begins⟩
      · rintro (going_on | ⟨skipped, remaining, same, begins⟩)
        · exact .inl (.inr going_on)
        · rcases List.cons_eq_append_iff.mp same with ⟨rfl, rfl⟩ | ⟨skipped, rfl, rfl⟩
          · rw [List.append_nil] at begins
            exact .inl (.inl begins)
          · refine .inr ⟨skipped, remaining, rfl, ?_⟩
            rwa [List.append_assoc]

/-- The search finds exactly the occurrences. -/
theorem occursIn_iff_occurs {pattern : Pattern} {text : List Char} :
    pattern.occursIn text = true ↔ pattern.Occurs text := by
  have found := @occursFrom_iff pattern [] [] text
  rw [List.getLast?_nil] at found
  rw [occursIn, found, Occurs]
  constructor
  · rintro (⟨rest, absurdity, _⟩ | ⟨before, remaining, rfl, piece, after, rfl, matched⟩)
    · cases absurdity
    · exact ⟨before, piece, after, (List.append_assoc _ _ _).symm, matched⟩
  · rintro ⟨before, piece, after, rfl, matched⟩
    exact .inr ⟨before, piece ++ after, List.append_assoc _ _ _, piece, after, rfl, matched⟩

end ScreenedSuite.Pattern
