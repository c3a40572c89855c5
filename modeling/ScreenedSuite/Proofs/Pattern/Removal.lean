import ScreenedSuite.Proofs.Pattern.Insertion

/-! # Text taken out behind white space

A character and white space behind it stand in a text, directly behind white space. A pattern that
takes the character nowhere but in its stretches cannot need them: each of its occurrences is there
without them, apart from the place where they stood
(`ScreenedSuite.Pattern.occursApart_of_occurs_inserted`).
-/

namespace ScreenedSuite

namespace Pattern

/-! ## What a match begins with -/

/-- Whether a match is sure to begin with a character other than white space. -/
def opens : Pattern → Bool
  | char chars => chars.solid
  | seq first second =>
    match first with
    | look _ => second.opens
    | _ => first.opens
  | alt left right => left.opens && right.opens
  | rep inner least _ => least != 0 && inner.opens
  | _ => false

theorem Matches.exists_head {pattern : Pattern} {before piece after : List Char}
    (matched : Matches pattern before piece after) (opens : pattern.opens = true) :
    ∃ c, piece.head? = some c ∧ Unicode.isBlank c = false := by
  have longer {left : List Char} (right : List Char)
      (begun : ∃ c, left.head? = some c ∧ Unicode.isBlank c = false) :
      ∃ c, (left ++ right).head? = some c ∧ Unicode.isBlank c = false := by
    obtain ⟨c, first, solid⟩ := begun
    exact ⟨c, by rw [List.head?_append, first, Option.some_or], solid⟩
  induction matched with
  | char held => exact ⟨_, rfl, CharClass.isBlank_eq_false_of_solid opens held⟩
  | @seq first second _ _ right _ firstMatches _ firstBegins secondBegins =>
      cases first with
      | look condition =>
          cases firstMatches
          exact secondBegins opens
      | _ => exact longer right (firstBegins opens)
  | alt_left _ begins => exact begins (Bool.and_eq_true_iff.mp opens).1
  | alt_right _ begins => exact begins (Bool.and_eq_true_iff.mp opens).2
  | rep_required _ _ firstBegins _ =>
      exact longer _ (firstBegins (Bool.and_eq_true_iff.mp opens).2)
  | _ => cases opens

/-- A match that does not begin with white space begins behind it. -/
theorem Matches.begins_behind {pattern : Pattern} {before piece after : List Char}
    (matched : Matches pattern before piece after) (opens : pattern.opens = true)
    {blanks back lead : List Char} (all : ∀ c ∈ blanks, Unicode.isBlank c = true)
    (parts : blanks ++ back = lead ++ (piece ++ after)) :
    ∃ more, lead = blanks ++ more ∧ back = more ++ piece ++ after := by
  rcases List.append_eq_append_iff.mp parts with ⟨more, leadParts, backParts⟩ | ⟨more, rfl, begun⟩
  · exact ⟨more, leadParts, by rw [backParts, List.append_assoc]⟩
  · obtain ⟨c, first, solid⟩ := matched.exists_head opens
    have head : (more ++ back).head? = some c := by
      rw [← begun, List.head?_append, first, Option.some_or]
    cases more with
    | nil => exact ⟨[], by simp only [List.append_nil], by simpa using begun.symm⟩
    | cons d more =>
        cases head
        rw [all c (List.mem_append_right _ List.mem_cons_self)] at solid
        cases solid

/-! ## Where a character can stand in a match -/

variable {mark : Char}

/-- A character that stands in a text in two parts is in one of them. -/
theorem parts_around {left right first second : List Char}
    (parts : left ++ mark :: right = first ++ second) :
    (∃ more, first = left ++ mark :: more ∧ right = more ++ second) ∨
      ∃ more, left = first ++ more ∧ second = more ++ mark :: right := by
  rcases List.append_eq_append_iff.mp parts with ⟨more, rfl, rest⟩ | later
  · cases more with
    | nil => exact .inr ⟨[], by simp only [List.append_nil], rest.symm⟩
    | cons c more =>
        cases rest
        exact .inl ⟨more, rfl, rfl⟩
  · exact .inr later

/-- Whether no class of a pattern holds a character. -/
def clear (mark : Char) (pattern : Pattern) : Bool :=
  pattern.classesAll fun chars => !chars.contains mark

theorem Matches.not_mem_of_clear {pattern : Pattern} {before piece after : List Char}
    (matched : Matches pattern before piece after) (clear : pattern.clear mark = true) :
    mark ∉ piece := by
  have sound {chars : CharClass} {c : Char} (outside : (!chars.contains mark) = true)
      (held : chars.contains c = true) : c ≠ mark := by
    intro same
    rw [← same, held] at outside
    cases outside
  intro member
  exact matched.forall_mem sound clear mark member rfl

/-- Whether a pattern takes a character at most in the stretches that allow any text. -/
def confines (mark : Char) : Pattern → Bool
  | seq first (seq stretch second) =>
    first.clear mark &&
      if (cutBehind first (seq stretch second)).isEmpty then (seq stretch second).confines mark
      else second.confines mark
  | pattern => pattern.clear mark

/-- A match around a character that stands in a stretch of the pattern. -/
inductive AroundStretch (pattern : Pattern) (mark : Char) (before left right after : List Char) :
    Prop
  | mk {cut : Cut} (listed : cut ∈ pattern.cuts) {start within within' last : List Char}
      (leftParts : left = start ++ within) (rightParts : right = within' ++ last)
      (startMatches : Matches cut.first before start (within ++ mark :: (within' ++ last ++ after)))
      (lastMatches : Matches cut.second (before ++ left ++ mark :: within') last after)
      (blank : cut.blank = true → EndsInBlank within')

/-- A stretch of the rest of a pattern is a stretch of the pattern. -/
theorem AroundStretch.later {first rest : Pattern} {before start left right after : List Char}
    (firstMatches : Matches first before start (left ++ mark :: (right ++ after)))
    (around : rest.AroundStretch mark (before ++ start) left right after) :
    (seq first rest).AroundStretch mark before (start ++ left) right after := by
  obtain @⟨cut, listed, begun, within, within', last, rfl, rfl, startMatches, lastMatches, blank⟩ :=
    around
  have listed' : { cut with first := seq first cut.first } ∈ (seq first rest).cuts :=
    List.mem_append_right _ (List.mem_map_of_mem listed)
  refine .mk listed' (List.append_assoc _ _ _).symm rfl ?_ ?_ blank
  · apply Matches.seq
    · simpa only [List.append_assoc, List.cons_append] using firstMatches
    · exact startMatches
  · simpa only [List.append_assoc] using lastMatches

/-- A character in the stretch that follows the first part of a pattern. -/
theorem aroundStretch_of_mem_cutBehind {first stretch second : Pattern} {cut : Cut}
    (listed : cut ∈ cutBehind first (seq stretch second)) (solid : Unicode.isBlank mark = false)
    {before start within within' last after : List Char}
    (startMatches : Matches first before start (within ++ mark :: (within' ++ last ++ after)))
    (stretchMatches : Matches stretch (before ++ start) (within ++ mark :: within') (last ++ after))
    (lastMatches : Matches second (before ++ start ++ within ++ mark :: within') last after) :
    (seq first (seq stretch second)).AroundStretch mark before (start ++ within) (within' ++ last)
      after := by
  have listed' : cut ∈ (seq first (seq stretch second)).cuts := List.mem_append_left _ listed
  rcases mem_cutBehind listed with
    ⟨final, same, rfl⟩ | ⟨second, same, rfl⟩ | ⟨second, same, rfl, rfl⟩
  · cases same
    obtain ⟨space, right, rfl, spaceMatches, rightMatches⟩ := matches_seq_iff.mp lastMatches
    obtain ⟨c, rfl, held⟩ := matches_char_iff.mp spaceMatches
    refine .mk listed' rfl (List.append_assoc _ _ _).symm ?_ ?_ fun _ => endsInBlank_concat held _
    · simpa only [List.append_assoc] using startMatches
    · simpa only [List.append_assoc, List.cons_append] using rightMatches
  · cases same
    refine .mk listed' rfl rfl startMatches ?_ fun closed => by cases closed
    simpa only [List.append_assoc] using lastMatches
  · cases same
    refine .mk listed' rfl rfl startMatches ?_ fun _ => ?_
    · simpa only [List.append_assoc] using lastMatches
    · rcases matches_optional_iff.mp stretchMatches with nothing | words
      · cases (List.append_eq_nil_iff.mp nothing).2
      · obtain ⟨any, space, parts, _, spaceMatches⟩ := matches_seq_iff.mp words
        obtain ⟨c, rfl, held⟩ := matches_char_iff.mp spaceMatches
        have whole : EndsInBlank (within ++ [mark] ++ within') := by
          rw [List.append_assoc, List.singleton_append, parts]
          exact endsInBlank_concat held any
        apply whole.of_append
        intro nothing
        rw [nothing, List.append_nil] at whole
        obtain ⟨d, last, space⟩ := whole
        rw [List.getLast?_concat] at last
        cases last
        rw [solid] at space
        cases space

/-- Where a pattern takes a character only in its stretches, a match around it has it in one. -/
theorem aroundStretch_of_confines {pattern : Pattern} (confines : pattern.confines mark = true)
    (solid : Unicode.isBlank mark = false) {before left right after : List Char}
    (matched : Matches pattern before (left ++ mark :: right) after) :
    pattern.AroundStretch mark before left right after := by
  induction pattern using Pattern.confines.induct generalizing before left with
  | case1 first stretch second restAround secondAround =>
      obtain ⟨firstClear, others⟩ := Bool.and_eq_true_iff.mp confines
      obtain ⟨start, rest, parts, firstMatches, restMatches⟩ := matches_seq_iff.mp matched
      rcases parts_around parts with ⟨more, rfl, _⟩ | ⟨left, rfl, rfl⟩
      · exact (firstMatches.not_mem_of_clear firstClear (by simp)).elim
      · split at others
        · apply AroundStretch.later _ (restAround others restMatches)
          simpa only [List.append_assoc, List.cons_append] using firstMatches
        · next some_cut =>
            obtain ⟨cut, listed⟩ := List.exists_mem_of_ne_nil _ (by simpa using some_cut)
            obtain ⟨piece, rest, parts, stretchMatches, secondMatches⟩ :=
              matches_seq_iff.mp restMatches
            rcases parts_around parts with ⟨more, rfl, rfl⟩ | ⟨more, rfl, rfl⟩
            · apply aroundStretch_of_mem_cutBehind listed solid
              · simpa only [List.append_assoc, List.cons_append] using firstMatches
              · exact stretchMatches
              · simpa only [List.append_assoc] using secondMatches
            · apply AroundStretch.later
              · simpa only [List.append_assoc, List.cons_append] using firstMatches
              · apply AroundStretch.later
                · simpa only [List.append_assoc, List.cons_append] using stretchMatches
                · exact secondAround others (by simpa only [List.append_assoc] using secondMatches)
  | case2 pattern shape =>
      rw [Pattern.confines.eq_2 mark pattern shape] at confines
      exact (matched.not_mem_of_clear confines (by simp)).elim

/-! ## Occurrences around what is taken out -/

/-- Whether a pattern takes a character only in its stretches, and neither it nor what follows a
stretch begins with white space. -/
def dispenses (mark : Char) (pattern : Pattern) : Bool :=
  pattern.opens && pattern.confines mark && pattern.cuts.all fun cut => cut.second.opens

/-- What occurs around a character and white space that are put behind white space, or on either
side of them, occurs without them, apart from the place where they were. -/
theorem occursApart_of_occurs_inserted {pattern : Pattern} {front back blanks : List Char}
    (occurs : pattern.Occurs (front ++ mark :: (blanks ++ back)))
    (dispenses : pattern.dispenses mark = true) (withstands : pattern.withstands = true)
    (solid : Unicode.isBlank mark = false) (blank : EndsInBlank front) (isGap : IsGap blanks) :
    pattern.OccursApart front back := by
  obtain ⟨both, cutsOpen⟩ := Bool.and_eq_true_iff.mp dispenses
  obtain ⟨opens, confines⟩ := Bool.and_eq_true_iff.mp both
  obtain ⟨both, cutsWithstand⟩ := Bool.and_eq_true_iff.mp withstands
  obtain ⟨settles, looks⟩ := Bool.and_eq_true_iff.mp both
  have ends : EndsInBlank (front ++ mark :: blanks) := by
    have longer := isGap.endsInBlank.append (front ++ [mark])
    rwa [List.append_assoc, List.singleton_append] at longer
  obtain ⟨lead, piece, rest, parts, matched⟩ := occurs
  rw [List.append_assoc] at parts
  -- The character stands before the piece, in it or behind it.
  rcases parts_around parts with ⟨between, rfl, behind⟩ | ⟨begun, rfl, remainder⟩
  · obtain ⟨more, rfl, rfl⟩ := matched.begins_behind opens isGap.2 behind
    apply OccursApart.behind rfl
    apply Matches.replace_before _ looks ends blank
    simpa only [List.append_assoc, List.cons_append] using matched
  · rcases parts_around remainder.symm with ⟨more, rfl, around⟩ | ⟨between, rfl, rfl⟩
    · obtain @⟨cut, listed, start, within, within', last, rfl, rfl, startMatches, lastMatches,
        required⟩ := aroundStretch_of_confines confines solid matched
      obtain ⟨cutSettles, cutLooks⟩ :=
        Bool.and_eq_true_iff.mp (List.all_eq_true.mp cutsWithstand cut listed)
      rw [List.append_assoc] at around
      obtain ⟨gap, rfl, rfl⟩ :=
        lastMatches.begins_behind (List.all_eq_true.mp cutsOpen cut listed) isGap.2 around
      apply @OccursApart.across _ _ _ cut listed lead start within gap last rest
      · rw [List.append_assoc]
      · rfl
      · apply startMatches.replace_behind cutSettles
        rwa [List.append_assoc]
      · apply Matches.replace_before _ cutLooks ends blank
        simpa only [List.append_assoc, List.cons_append] using lastMatches
      · intro closed
        by_cases nothing : gap = []
        · rwa [nothing, List.append_nil]
        · exact ((required closed).of_append nothing).append _
    · apply OccursApart.before (List.append_assoc _ _ _).symm
      exact matched.replace_behind settles (by rwa [List.append_assoc]) back

end Pattern

end ScreenedSuite
