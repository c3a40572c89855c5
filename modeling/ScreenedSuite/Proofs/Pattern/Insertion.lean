import ScreenedSuite.Proofs.Pattern.Assembly

/-! # Text put behind white space

Text that ends in white space is put into a text, directly behind white space. An occurrence
survives this when it does not hold the two sides of that place together: it stands on one side, or
the place falls into a stretch where the pattern allows any text
(`ScreenedSuite.Pattern.OccursApart.occurs_inserted`). For a pattern whose other parts have white
space at their ends at most, this is so of every occurrence
(`ScreenedSuite.Pattern.occursApart_of_occurs`).
-/

namespace ScreenedSuite

namespace Pattern

/-- A stretch of a pattern that allows any text, between what comes before it and what comes after
it. -/
structure Cut where
  first : Pattern
  second : Pattern
  /-- The text in the stretch must end in white space. -/
  blank : Bool
deriving DecidableEq

/-- Any text. -/
def anything : Pattern :=
  rep (char .any) 0 none

/-- Any text that ends in white space, or nothing. -/
def anyWords : Pattern :=
  rep (seq anything (char .space)) 0 (some 1)

/-- The stretch that follows a part of a pattern, if one does. White space behind any text belongs
to the stretch, and so do words that may be left out behind white space. -/
def cutBehind (first : Pattern) : Pattern → List Cut
  | seq stretch second =>
    if stretch = anything then
      match second with
      | seq (char .space) last => [⟨first, last, true⟩]
      | _ => [⟨first, second, false⟩]
    else if stretch = anyWords ∧ first = gap then
      [⟨first, second, true⟩]
    else
      []
  | _ => []

/-- All stretches of a pattern that allow any text. -/
def cuts : Pattern → List Cut
  | seq first rest =>
    cutBehind first rest ++ rest.cuts.map fun cut => { cut with first := seq first cut.first }
  | _ => []

theorem mem_cutBehind {first rest : Pattern} {cut : Cut} (listed : cut ∈ cutBehind first rest) :
    (∃ last, rest = seq anything (seq (char .space) last) ∧ cut = ⟨first, last, true⟩) ∨
      (∃ second, rest = seq anything second ∧ cut = ⟨first, second, false⟩) ∨
        ∃ second, rest = seq anyWords second ∧ first = gap ∧ cut = ⟨first, second, true⟩ := by
  unfold cutBehind at listed
  split at listed
  · next stretch second =>
      split at listed
      · next any =>
          subst any
          split at listed
          · exact .inl ⟨_, rfl, List.mem_singleton.mp listed⟩
          · exact .inr (.inl ⟨second, rfl, List.mem_singleton.mp listed⟩)
      · split at listed
        · next words =>
            obtain ⟨rfl, rfl⟩ := words
            exact .inr (.inr ⟨second, rfl, rfl, List.mem_singleton.mp listed⟩)
        · cases listed
  · cases listed

theorem matches_anything (before piece after : List Char) :
    Matches anything before piece after :=
  matches_rep_char (fun _ _ => rfl) (Nat.zero_le _) before after

/-- What is put together at a cut matches, whatever stands between. -/
theorem matches_of_mem_cutBehind {first rest : Pattern} {cut : Cut}
    (listed : cut ∈ cutBehind first rest) {before left gap right after : List Char}
    (leftMatches : Matches cut.first before left (gap ++ right ++ after))
    (rightMatches : Matches cut.second (before ++ left ++ gap) right after)
    (blank : cut.blank = true → EndsInBlank gap) :
    Matches (seq first rest) before (left ++ (gap ++ right)) after := by
  rcases mem_cutBehind listed with ⟨last, rfl, rfl⟩ | ⟨second, rfl, rfl⟩ | ⟨second, rfl, rfl, rfl⟩
  · obtain ⟨front, c, rfl, space⟩ := (blank rfl).exists_eq
    refine .seq leftMatches ?_
    rw [List.append_assoc]
    refine .seq (matches_anything _ _ _) ?_
    rw [← List.append_assoc] at rightMatches
    exact .seq (.char space) rightMatches
  · exact .seq leftMatches (.seq (matches_anything _ _ _) rightMatches)
  · obtain ⟨front, c, rfl, space⟩ := (blank rfl).exists_eq
    refine .seq leftMatches (.seq (matches_optional_iff.mpr (.inr ?_)) rightMatches)
    exact .seq (matches_anything _ _ _) (.char space)

theorem matches_of_mem_cuts {pattern : Pattern} {cut : Cut} (listed : cut ∈ pattern.cuts)
    {before left gap right after : List Char}
    (leftMatches : Matches cut.first before left (gap ++ right ++ after))
    (rightMatches : Matches cut.second (before ++ left ++ gap) right after)
    (blank : cut.blank = true → EndsInBlank gap) :
    Matches pattern before (left ++ (gap ++ right)) after := by
  induction pattern generalizing cut before left with
  | seq first rest _ restMatches =>
      rcases List.mem_append.mp listed with here | later
      · exact matches_of_mem_cutBehind here leftMatches rightMatches blank
      · obtain ⟨inner, innerListed, rfl⟩ := List.mem_map.mp later
        obtain ⟨start, middle, rfl, startMatches, middleMatches⟩ := matches_seq_iff.mp leftMatches
        rw [List.append_assoc]
        apply Matches.seq
        · simpa only [List.append_assoc] using startMatches
        · apply restMatches innerListed middleMatches _ blank
          simpa only [List.append_assoc] using rightMatches
  | _ => cases listed

/-- A match falls into two parts at a cut, and where the stretch between must end in white space,
there is white space before the second part. -/
theorem exists_of_mem_cutBehind {first rest : Pattern} {cut : Cut}
    (listed : cut ∈ cutBehind first rest) {before piece after : List Char}
    (matched : Matches (seq first rest) before piece after) :
    ∃ left gap right, piece = left ++ (gap ++ right) ∧
      Matches cut.first before left (gap ++ right ++ after) ∧
        Matches cut.second (before ++ left ++ gap) right after ∧
          (cut.blank = true → EndsInBlank (left ++ gap)) := by
  obtain ⟨left, others, rfl, firstMatches, restMatches⟩ := matches_seq_iff.mp matched
  rcases mem_cutBehind listed with ⟨last, rfl, rfl⟩ | ⟨second, rfl, rfl⟩ | ⟨second, rfl, rfl, rfl⟩
  · obtain ⟨any, ending, rfl, _, endingMatches⟩ := matches_seq_iff.mp restMatches
    obtain ⟨space, right, rfl, spaceMatches, rightMatches⟩ := matches_seq_iff.mp endingMatches
    obtain ⟨c, rfl, held⟩ := matches_char_iff.mp spaceMatches
    refine ⟨left, any ++ [c], right, ?_, ?_, ?_, fun _ => ?_⟩
    · simp only [List.append_assoc]
    · simpa only [List.append_assoc] using firstMatches
    · simpa only [List.append_assoc] using rightMatches
    · exact (endsInBlank_concat held any).append left
  · obtain ⟨gap, right, rfl, _, rightMatches⟩ := matches_seq_iff.mp restMatches
    refine ⟨left, gap, right, rfl, firstMatches, rightMatches, fun required => ?_⟩
    cases required
  · obtain ⟨gap, right, rfl, gapMatches, rightMatches⟩ := matches_seq_iff.mp restMatches
    refine ⟨left, gap, right, rfl, firstMatches, rightMatches, fun _ => ?_⟩
    rcases matches_optional_iff.mp gapMatches with rfl | words
    · rw [List.append_nil]
      exact (matches_gap_iff.mp firstMatches).endsInBlank
    · obtain ⟨any, space, rfl, _, spaceMatches⟩ := matches_seq_iff.mp words
      obtain ⟨c, rfl, held⟩ := matches_char_iff.mp spaceMatches
      exact (endsInBlank_concat held any).append left

theorem exists_of_mem_cuts {pattern : Pattern} {cut : Cut} (listed : cut ∈ pattern.cuts)
    {before piece after : List Char} (matched : Matches pattern before piece after) :
    ∃ left gap right, piece = left ++ (gap ++ right) ∧
      Matches cut.first before left (gap ++ right ++ after) ∧
        Matches cut.second (before ++ left ++ gap) right after ∧
          (cut.blank = true → EndsInBlank (left ++ gap)) := by
  induction pattern generalizing cut before piece with
  | seq first rest _ restParts =>
      rcases List.mem_append.mp listed with here | later
      · exact exists_of_mem_cutBehind here matched
      · obtain ⟨inner, innerListed, rfl⟩ := List.mem_map.mp later
        obtain ⟨start, others, rfl, startMatches, othersMatch⟩ := matches_seq_iff.mp matched
        obtain ⟨middle, gap, right, rfl, middleMatches, rightMatches, blank⟩ :=
          restParts innerListed othersMatch
        refine ⟨start ++ middle, gap, right, ?_, ?_, ?_, fun required => ?_⟩
        · rw [List.append_assoc]
        · exact .seq (by simpa only [List.append_assoc] using startMatches) middleMatches
        · simpa only [List.append_assoc] using rightMatches
        · rw [List.append_assoc]
          exact (blank required).append start
  | _ => cases listed

/-! ## Occurrences apart from a place -/

/-- An occurrence in a text in two parts that does not hold the two together: it stands in one of
them, or the place between them falls into a stretch that allows any text. -/
inductive OccursApart (pattern : Pattern) (front back : List Char) : Prop
  | before {lead piece rest : List Char} (parts : front = lead ++ piece ++ rest)
      (matched : Matches pattern lead piece (rest ++ back))
  | behind {lead piece rest : List Char} (parts : back = lead ++ piece ++ rest)
      (matched : Matches pattern (front ++ lead) piece rest)
  | across {cut : Cut} (listed : cut ∈ pattern.cuts) {lead left gap gap' right rest : List Char}
      (frontParts : front = lead ++ left ++ gap) (backParts : back = gap' ++ right ++ rest)
      (leftMatches : Matches cut.first lead left (gap ++ back))
      (rightMatches : Matches cut.second (front ++ gap') right rest)
      (blank : cut.blank = true → EndsInBlank (front ++ gap'))

/-- Whether text put behind white space leaves alone what matches before it and behind it. -/
def withstands (pattern : Pattern) : Bool :=
  pattern.settles false && pattern.looksAll Move.front.keeps &&
    pattern.cuts.all fun cut => cut.first.settles false && cut.second.looksAll Move.front.keeps

/-- A match that ends at white space or before it does not see what is behind. -/
theorem Matches.replace_behind {pattern : Pattern} {lead piece rest after : List Char}
    (matched : Matches pattern lead piece (rest ++ after)) (settles : pattern.settles false = true)
    (blank : EndsInBlank (lead ++ piece ++ rest)) (after' : List Char) :
    Matches pattern lead piece (rest ++ after') := by
  cases rest with
  | nil =>
      rw [List.append_nil] at blank
      exact matched.settle (fun known => by cases known) settles blank _
  | cons c rest => exact matched.of_neighbours rfl rfl

/-- A match behind white space does not see which white space it is. -/
theorem Matches.replace_before {pattern : Pattern} {front lead piece rest : List Char}
    (matched : Matches pattern (front ++ lead) piece rest)
    (looks : pattern.looksAll Move.front.keeps = true) (blank : EndsInBlank front)
    {front' : List Char} (blank' : EndsInBlank front') :
    Matches pattern (front' ++ lead) piece rest := by
  apply matched.move .front looks _ rfl
  apply Move.left_append
  obtain ⟨start, c, rfl, space⟩ := blank.exists_eq
  obtain ⟨start', d, rfl, space'⟩ := blank'.exists_eq
  rw [List.getLast?_concat, List.getLast?_concat]
  have wordless : Unicode.isWord c = Unicode.isWord d := by
    rw [Unicode.isWord_eq_false_of_isBlank space, Unicode.isWord_eq_false_of_isBlank space']
  exact wordless

/-- An occurrence that does not hold the two parts of a text together survives text between
them. -/
theorem OccursApart.occurs_inserted {pattern : Pattern} {front back : List Char}
    (apart : pattern.OccursApart front back) (withstands : pattern.withstands = true)
    (blank : EndsInBlank front) {inserted : List Char} (more : EndsInBlank inserted) :
    pattern.Occurs (front ++ inserted ++ back) := by
  obtain ⟨both, cutsWithstand⟩ := Bool.and_eq_true_iff.mp withstands
  obtain ⟨settles, looks⟩ := Bool.and_eq_true_iff.mp both
  cases apart with
  | @before lead piece rest parts matched =>
      subst parts
      refine ⟨lead, piece, rest ++ (inserted ++ back), ?_, ?_⟩
      · simp only [List.append_assoc]
      · exact matched.replace_behind settles blank (inserted ++ back)
  | @behind lead piece rest parts matched =>
      subst parts
      refine ⟨front ++ inserted ++ lead, piece, rest, ?_, ?_⟩
      · simp only [List.append_assoc]
      · exact matched.replace_before looks blank (more.append front)
  | @across cut listed lead left gap gap' right rest frontParts backParts leftMatches rightMatches
      required =>
      obtain ⟨cutSettles, cutLooks⟩ :=
        Bool.and_eq_true_iff.mp (List.all_eq_true.mp cutsWithstand cut listed)
      have leftMoved := leftMatches.replace_behind cutSettles (by rwa [← frontParts])
        (inserted ++ back)
      have rightMoved := rightMatches.replace_before cutLooks blank (more.append front)
      subst frontParts backParts
      refine ⟨lead, left ++ (gap ++ inserted ++ gap' ++ right), rest, ?_, ?_⟩
      · simp only [List.append_assoc]
      · apply matches_of_mem_cuts listed
        · simpa only [List.append_assoc] using leftMoved
        · simpa only [List.append_assoc] using rightMoved
        · intro closed
          by_cases nothing : gap' = []
          · rw [nothing, List.append_nil]
            exact more.append gap
          · exact ((required closed).of_append nothing).append _

/-! ## Patterns whose occurrences stand apart -/

/-- Whether white space can only be the last character of a match. -/
def blankLast (pattern : Pattern) : Bool :=
  pattern.solid || ((pattern.withEnding empty).solid &&
    (pattern.ending == char .space || pattern.ending == alt (char .space) (look .textEnd)))

/-- Whether a match that is cut behind white space leaves a match before the cut. -/
def shortens (pattern : Pattern) : Bool :=
  pattern.solid || ((pattern.withEnding empty).solid && pattern.ending == gap)

/-- Whether a pattern is sure not to hold together what white space and further text separate. -/
def bears (pattern : Pattern) : Bool :=
  pattern.blankLast || pattern.cuts.any fun cut => cut.first.shortens && cut.second.blankLast

theorem Matches.not_exists_blank {pattern : Pattern} {before piece after : List Char}
    (matched : Matches pattern before piece after) (solid : pattern.solid = true) :
    ¬ ∃ c ∈ piece, Unicode.isBlank c = true := by
  intro ⟨c, member, space⟩
  rw [matched.solid solid c member] at space
  cases space

theorem Matches.not_solid {pattern : Pattern} {before left right after : List Char}
    (matched : Matches pattern before (left ++ right) after) (blank : EndsInBlank left) :
    pattern.solid ≠ true := by
  intro solid
  obtain ⟨c, member, space⟩ := blank.exists_mem
  exact matched.not_exists_blank solid ⟨c, List.mem_append_left _ member, space⟩

/-- White space in a match is in its last part, if there is none in the others. -/
theorem Matches.exists_ending {pattern : Pattern} {before left right after : List Char}
    (matched : Matches pattern before (left ++ right) after)
    (solid : (pattern.withEnding .empty).solid = true) (blank : EndsInBlank left) :
    ∃ start last, left = start ++ last ∧ EndsInBlank last ∧
      Matches (pattern.withEnding .empty) before start (last ++ right ++ after) ∧
        Matches pattern.ending (before ++ start) (last ++ right) after := by
  rw [← pattern.withEnding_ending] at matched
  obtain ⟨start, others, parts, startMatches, lastMatches⟩ := matches_withEnding_iff.mp matched
  rcases List.append_eq_append_iff.mp parts with ⟨more, rfl, _⟩ | ⟨last, rfl, rfl⟩
  · exact (startMatches.not_solid blank solid).elim
  · refine ⟨start, last, rfl, blank.of_append ?_, startMatches, lastMatches⟩
    intro nothing
    rw [nothing, List.append_nil] at blank
    exact startMatches.not_exists_blank solid blank.exists_mem

/-- What ends in white space is not followed by more in a single character. -/
theorem Matches.nothing_behind_space {before left right after : List Char}
    (matched : Matches (.char .space) before (left ++ right) after) (blank : EndsInBlank left) :
    right = [] := by
  obtain ⟨c, single, _⟩ := matches_char_iff.mp matched
  rcases List.append_eq_singleton_iff.mp single with ⟨nothing, _⟩ | ⟨_, nothing⟩
  · exact (blank.ne_nil nothing).elim
  · exact nothing

theorem Matches.nothing_behind {pattern : Pattern} {before left right after : List Char}
    (matched : Matches pattern before (left ++ right) after) (last : pattern.blankLast = true)
    (blank : EndsInBlank left) : right = [] := by
  rcases Bool.or_eq_true_iff.mp last with solid | both
  · exact (matched.not_solid blank solid).elim
  · obtain ⟨solid, endings⟩ := Bool.and_eq_true_iff.mp both
    obtain ⟨start, others, rfl, othersBlank, _, lastMatches⟩ := matched.exists_ending solid blank
    rcases Bool.or_eq_true_iff.mp endings with space | choice
    · rw [eq_of_beq space] at lastMatches
      exact lastMatches.nothing_behind_space othersBlank
    · rw [eq_of_beq choice] at lastMatches
      rcases matches_alt_iff.mp lastMatches with space | atEnd
      · exact space.nothing_behind_space othersBlank
      · have nothing : others ++ right = [] := by
          generalize others ++ right = piece at atEnd
          cases atEnd
          rfl
        exact (othersBlank.ne_nil (List.append_eq_nil_iff.mp nothing).1).elim

theorem Matches.shorten {pattern : Pattern} {before left right after : List Char}
    (matched : Matches pattern before (left ++ right) after) (shortens : pattern.shortens = true)
    (blank : EndsInBlank left) : Matches pattern before left (right ++ after) := by
  rcases Bool.or_eq_true_iff.mp shortens with solid | both
  · exact (matched.not_solid blank solid).elim
  · obtain ⟨solid, ending⟩ := Bool.and_eq_true_iff.mp both
    obtain ⟨start, last, rfl, lastBlank, startMatches, lastMatches⟩ :=
      matched.exists_ending solid blank
    rw [eq_of_beq ending] at lastMatches
    rw [← pattern.withEnding_ending]
    refine matches_withEnding_iff.mpr ⟨start, last, rfl, ?_, ?_⟩
    · simpa only [List.append_assoc] using startMatches
    · rw [eq_of_beq ending]
      have all := (matches_gap_iff.mp lastMatches).2
      exact matches_gap_iff.mpr
        ⟨lastBlank.ne_nil, fun c member => all c (List.mem_append_left _ member)⟩

/-- A match around white space stands apart from the place behind it. -/
theorem Matches.occursApart {pattern : Pattern} {lead begun others rest : List Char}
    (matched : Matches pattern lead (begun ++ others) rest) (bears : pattern.bears = true)
    (blank : EndsInBlank begun) : pattern.OccursApart (lead ++ begun) (others ++ rest) := by
  have ended (nothing : others = []) : pattern.OccursApart (lead ++ begun) (others ++ rest) := by
    apply OccursApart.before (List.append_nil _).symm
    simpa only [nothing, List.append_nil, List.nil_append] using matched
  rcases Bool.or_eq_true_iff.mp bears with last | cutBears
  · exact ended (matched.nothing_behind last blank)
  · obtain ⟨cut, listed, both⟩ := List.any_eq_true.mp cutBears
    obtain ⟨shortens, last⟩ := Bool.and_eq_true_iff.mp both
    obtain ⟨left, gap, right, parts, leftMatches, rightMatches, required⟩ :=
      exists_of_mem_cuts listed matched
    have stretched {within within' : List Char} (stretch : gap = within ++ within') :
        pattern.OccursApart (lead ++ (left ++ within)) (within' ++ right ++ rest) := by
      subst stretch
      apply @OccursApart.across _ _ _ cut listed lead left within within' right rest
      · rw [List.append_assoc]
      · rfl
      · simpa only [List.append_assoc] using leftMatches
      · simpa only [List.append_assoc] using rightMatches
      · intro closed
        simpa only [List.append_assoc] using (required closed).append lead
    -- The place is in the part before the stretch, in the part behind it, or in the stretch.
    rcases List.append_eq_append_iff.mp parts with ⟨more, rfl, rfl⟩ | ⟨within, rfl, stretch⟩
    · have shortened := leftMatches.shorten shortens blank
      apply @OccursApart.across _ _ _ cut listed lead begun [] (more ++ gap) right rest
      · rw [List.append_nil]
      · simp only [List.append_assoc]
      · simpa only [List.append_assoc, List.nil_append] using shortened
      · simpa only [List.append_assoc] using rightMatches
      · intro closed
        simpa only [List.append_assoc] using (required closed).append lead
    · rcases List.append_eq_append_iff.mp stretch with ⟨more, rfl, rfl⟩ | ⟨within', rfl, rfl⟩
      · by_cases nothing : more = []
        · subst nothing
          simpa only [List.append_nil, List.nil_append] using stretched (List.append_nil gap).symm
        · rw [← List.append_assoc] at blank
          exact ended (rightMatches.nothing_behind last (blank.of_append nothing))
      · exact stretched rfl

/-- Every occurrence of such a pattern stands apart from a place behind white space. -/
theorem occursApart_of_occurs {pattern : Pattern} {front back : List Char}
    (occurs : pattern.Occurs (front ++ back)) (bears : pattern.bears = true)
    (blank : EndsInBlank front) : pattern.OccursApart front back := by
  obtain ⟨lead, piece, rest, parts, matched⟩ := occurs
  rw [List.append_assoc] at parts
  rcases List.append_eq_append_iff.mp parts with ⟨lead, rfl, rfl⟩ | ⟨begun, rfl, remainder⟩
  · exact .behind (List.append_assoc _ _ _).symm matched
  · rcases List.append_eq_append_iff.mp remainder with ⟨between, rfl, rfl⟩ | ⟨others, rfl, rfl⟩
    · exact .before (List.append_assoc _ _ _).symm matched
    · by_cases nothing : begun = []
      · subst nothing
        have alone : Matches pattern (lead ++ [] ++ []) others rest := by
          simpa only [List.append_nil, List.nil_append] using matched
        exact .behind (by rw [List.nil_append]) alone
      · exact matched.occursApart bears (blank.of_append nothing)

end Pattern

end ScreenedSuite
