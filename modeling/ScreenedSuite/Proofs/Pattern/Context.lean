import ScreenedSuite.Proofs.Pattern.Search

/-! # Occurrences in a larger text

A pattern that occurs in a text need not occur in a longer one: its conditions look at the
neighbours of the positions they stand at. Here is what the shape of a pattern says about that. A
match moves to other surroundings when its conditions cannot tell the new neighbours from the old
ones (`ScreenedSuite.Pattern.Matches.move`). So an occurrence survives text in front of it
(`ScreenedSuite.Pattern.Occurs.prepend`), below a directory
(`ScreenedSuite.Pattern.Occurs.below`), and text behind it when the end of the text is only one of
several endings, another of which takes the first character of that text
(`ScreenedSuite.Pattern.Occurs.append`).
-/

namespace ScreenedSuite

/-- A change of the characters around a position: which neighbour may stand in for which, and the
conditions that still hold after the change. -/
structure Move where
  keeps : Look → Bool
  left : Option Char → Option Char → Prop
  right : Option Char → Option Char → Prop
  left_refl : ∀ neighbour, left neighbour neighbour
  right_refl : ∀ neighbour, right neighbour neighbour
  holds : ∀ {condition : Look} {before before' after after' : Option Char},
    keeps condition = true → left before before' → right after after' →
      condition.holds before after = true → condition.holds before' after' = true

namespace Move

/-- Whether two neighbours are the same to a word boundary. -/
def SameToWords (neighbour other : Option Char) : Prop :=
  Look.isIn .word neighbour = Look.isIn .word other

/-- Text is put in front. A condition on the start of the text may fail then. -/
def front : Move where
  keeps condition := condition == .boundary .word || condition == .textEnd
  left := SameToWords
  right := Eq
  left_refl _ := rfl
  right_refl _ := rfl
  holds := by
    intro condition before before' after after' kept left right held
    subst right
    rcases Bool.or_eq_true_iff.mp kept with boundary | atEnd
    · cases eq_of_beq boundary
      simp only [Look.holds] at held ⊢
      rw [← show Look.isIn .word before = Look.isIn .word before' from left]
      exact held
    · cases eq_of_beq atEnd
      exact held

/-- Text is put behind. A condition on the end of the text may fail then. -/
def back : Move where
  keeps condition := condition == .boundary .word
  left := Eq
  right := SameToWords
  left_refl _ := rfl
  right_refl _ := rfl
  holds := by
    intro condition before before' after after' kept left right held
    subst left
    cases eq_of_beq kept
    simp only [Look.holds] at held ⊢
    rw [← show Look.isIn .word after = Look.isIn .word after' from right]
    exact held

variable (move : Move)

theorem left_append {before before' : List Char} (left : move.left before.getLast? before'.getLast?)
    (piece : List Char) :
    move.left (before ++ piece).getLast? (before' ++ piece).getLast? := by
  rw [List.getLast?_append, List.getLast?_append]
  cases piece.getLast? with
  | none => exact left
  | some c => exact move.left_refl (some c)

theorem right_append {after after' : List Char} (right : move.right after.head? after'.head?)
    (piece : List Char) :
    move.right (piece ++ after).head? (piece ++ after').head? := by
  rw [List.head?_append, List.head?_append]
  cases piece.head? with
  | none => exact right
  | some c => exact move.right_refl (some c)

end Move

namespace Pattern

/-- Whether all conditions in a pattern pass a test. -/
def looksAll (test : Look → Bool) : Pattern → Bool
  | empty => true
  | char _ => true
  | look condition => test condition
  | seq first second => first.looksAll test && second.looksAll test
  | alt left right => left.looksAll test && right.looksAll test
  | rep inner _ _ => inner.looksAll test

/-- A match moves to surroundings that its conditions cannot tell from the old ones. -/
theorem Matches.move (change : Move) {pattern : Pattern} {before piece after : List Char}
    (matched : Matches pattern before piece after) (looks : pattern.looksAll change.keeps = true)
    {before' after' : List Char} (left : change.left before.getLast? before'.getLast?)
    (right : change.right after.head? after'.head?) :
    Matches pattern before' piece after' := by
  -- The induction is on the match; a part of the piece is a neighbour of the other part.
  induction matched generalizing before' after' with
  | empty => exact .empty
  | char held => exact .char held
  | look holds => exact .look (change.holds looks left right holds)
  | seq _ _ firstMoves secondMoves =>
      have both := Bool.and_eq_true_iff.mp looks
      exact .seq (firstMoves both.1 left (change.right_append right _))
        (secondMoves both.2 (change.left_append left _) right)
  | alt_left _ moves => exact .alt_left (moves (Bool.and_eq_true_iff.mp looks).1 left right)
  | alt_right _ moves => exact .alt_right (moves (Bool.and_eq_true_iff.mp looks).2 left right)
  | rep_stop => exact .rep_stop
  | rep_required _ _ firstMoves restMoves =>
      exact .rep_required (firstMoves looks left (change.right_append right _))
        (restMoves looks (change.left_append left _) right)
  | rep_bounded _ _ firstMoves restMoves =>
      exact .rep_bounded (firstMoves looks left (change.right_append right _))
        (restMoves looks (change.left_append left _) right)
  | rep_unbounded _ _ firstMoves restMoves =>
      exact .rep_unbounded (firstMoves looks left (change.right_append right _))
        (restMoves looks (change.left_append left _) right)

/-- Whether a text ends in no word. -/
def EndsOutsideWords (text : List Char) : Prop :=
  ∀ c, text.getLast? = some c → Unicode.isWord c = false

theorem EndsOutsideWords.front_left {lead : List Char} (outside : EndsOutsideWords lead)
    (before : List Char) :
    Move.front.left before.getLast? (lead ++ before).getLast? := by
  rw [List.getLast?_append]
  cases before.getLast? with
  | some c => rfl
  | none =>
      cases last : lead.getLast? with
      | none => rfl
      | some c => exact (outside c last).symm

/-- An occurrence survives text in front of it that ends in no word. -/
theorem Occurs.prepend {pattern : Pattern} {text : List Char} (occurs : pattern.Occurs text)
    (looks : pattern.looksAll Move.front.keeps = true) {lead : List Char}
    (outside : EndsOutsideWords lead) : pattern.Occurs (lead ++ text) := by
  obtain ⟨before, piece, after, rfl, matched⟩ := occurs
  refine ⟨lead ++ before, piece, after, ?_, ?_⟩
  · simp only [List.append_assoc]
  · exact matched.move .front looks (outside.front_left before) rfl

/-! ## Below a directory -/

/-- Whether a pattern begins either at the start of the text or with a slash, and otherwise looks
at the start nowhere. -/
def beginsName : Pattern → Bool
  | seq (alt (look .textStart) (char chars)) rest =>
    chars.contains '/' && rest.looksAll Move.front.keeps
  | _ => false

/-- Whether a pattern only describes texts that begin with a slash. -/
def beginsAtRoot : Pattern → Bool
  | seq (look .textStart) (seq (char chars) _) => chars == .single '/'
  | _ => false

/-- Whether an occurrence in a relative path is found again below any directory. -/
def descends (pattern : Pattern) : Bool :=
  pattern.looksAll Move.front.keeps || pattern.beginsName || pattern.beginsAtRoot

theorem endsOutsideWords_slash (directory : List Char) :
    EndsOutsideWords (directory ++ ['/']) := by
  intro c last
  have same : c = '/' := by simpa using last.symm
  rw [same]
  decide +kernel

theorem Occurs.below_of_beginsName {pattern : Pattern} {text : List Char}
    (occurs : pattern.Occurs text) (begins : pattern.beginsName = true) (directory : List Char) :
    pattern.Occurs (directory ++ '/' :: text) := by
  unfold beginsName at begins
  split at begins
  · rename_i chars rest
    obtain ⟨slash, looks⟩ := Bool.and_eq_true_iff.mp begins
    obtain ⟨before, piece, after, rfl, matched⟩ := occurs
    obtain ⟨left, right, rfl, start, remaining⟩ := matches_seq_iff.mp matched
    rcases matches_alt_iff.mp start with atStart | withSlash
    · -- At the start of the text the slash of the directory takes over.
      cases atStart with
      | look holds =>
          have nothing : before = [] := by
            simpa only [Look.holds, Option.isNone_iff_eq_none, List.getLast?_eq_none_iff]
              using holds
          subst nothing
          refine ⟨directory, ['/'] ++ right, after, ?_, ?_⟩
          · simp only [List.nil_append, List.append_assoc, List.cons_append]
          · apply Matches.seq
            · exact .alt_right (.char slash)
            · have same := (endsOutsideWords_slash directory).front_left []
              exact remaining.move .front looks (by simpa using same) rfl
    · have moved : Matches (seq (char chars) rest) (directory ++ '/' :: before) (left ++ right)
          after := by
        have looksAll : (seq (char chars) rest).looksAll Move.front.keeps = true := looks
        have same := (endsOutsideWords_slash directory).front_left before
        have original : Matches (seq (char chars) rest) before (left ++ right) after :=
          .seq withSlash remaining
        exact original.move .front looksAll (by simpa using same) rfl
      refine ⟨directory ++ '/' :: before, left ++ right, after, ?_, ?_⟩
      · simp only [List.append_assoc, List.cons_append]
      · obtain ⟨first, second, cut, firstMatches, secondMatches⟩ := matches_seq_iff.mp moved
        rw [cut]
        exact .seq (.alt_right firstMatches) secondMatches
  · cases begins

theorem Occurs.head?_of_beginsAtRoot {pattern : Pattern} {text : List Char}
    (occurs : pattern.Occurs text) (begins : pattern.beginsAtRoot = true) :
    text.head? = some '/' := by
  unfold beginsAtRoot at begins
  split at begins
  · obtain ⟨before, piece, after, rfl, matched⟩ := occurs
    obtain ⟨left, right, rfl, start, remaining⟩ := matches_seq_iff.mp matched
    obtain ⟨slash, others, rfl, slashMatches, _⟩ := matches_seq_iff.mp remaining
    cases start with
    | look holds =>
        have nothing : before = [] := by
          simpa only [Look.holds, Option.isNone_iff_eq_none, List.getLast?_eq_none_iff] using holds
        subst nothing
        cases slashMatches with
        | @char _ _ _ c held =>
            cases eq_of_beq begins
            have bounds : '/' ≤ c ∧ c ≤ '/' := by
              simpa only [CharClass.contains, CharClass.single, Bool.and_eq_true,
                decide_eq_true_eq] using held
            rw [Char.le_antisymm bounds.2 bounds.1]
            rfl
  · cases begins

/-- An occurrence in a relative path survives any directory in front of it. -/
theorem Occurs.below {pattern : Pattern} {text : List Char} (occurs : pattern.Occurs text)
    (descends : pattern.descends = true) (relative : text.head? ≠ some '/')
    (directory : List Char) : pattern.Occurs (directory ++ '/' :: text) := by
  rcases Bool.or_eq_true_iff.mp descends with others | atRoot
  · rcases Bool.or_eq_true_iff.mp others with looks | begins
    · have moved := occurs.prepend looks (endsOutsideWords_slash directory)
      simpa using moved
    · exact occurs.below_of_beginsName begins directory
  · exact (relative (occurs.head?_of_beginsAtRoot atRoot)).elim

/-! ## Text behind an occurrence -/

/-- The last part of a pattern. -/
def ending : Pattern → Pattern
  | seq _ second => second.ending
  | pattern => pattern

/-- A pattern with another last part. -/
def withEnding : Pattern → Pattern → Pattern
  | seq first second, last => seq first (second.withEnding last)
  | _, last => last

/-- A pattern matches with some other ending what it matches up to its own ending, followed by
what the other ending matches. -/
theorem matches_withEnding_iff {pattern last : Pattern} {before piece after : List Char} :
    Matches (pattern.withEnding last) before piece after ↔
      ∃ left right, piece = left ++ right ∧
        Matches (pattern.withEnding empty) before left (right ++ after) ∧
          Matches last (before ++ left) right after := by
  induction pattern generalizing before piece with
  | seq first second _ ih =>
      simp only [withEnding]
      constructor
      · intro matched
        obtain ⟨left, rest, rfl, firstMatches, restMatches⟩ := matches_seq_iff.mp matched
        obtain ⟨middle, right, rfl, secondMatches, lastMatches⟩ := ih.mp restMatches
        refine ⟨left ++ middle, right, (List.append_assoc _ _ _).symm, ?_, ?_⟩
        · apply Matches.seq
          · simpa only [List.append_assoc] using firstMatches
          · exact secondMatches
        · simpa only [List.append_assoc] using lastMatches
      · rintro ⟨left, right, rfl, matched, lastMatches⟩
        obtain ⟨start, middle, rfl, firstMatches, secondMatches⟩ := matches_seq_iff.mp matched
        rw [List.append_assoc]
        apply Matches.seq
        · simpa only [List.append_assoc] using firstMatches
        · exact ih.mpr ⟨middle, right, rfl, secondMatches,
            by simpa only [List.append_assoc] using lastMatches⟩
  | _ =>
      simp only [withEnding]
      constructor
      · intro matched
        exact ⟨[], piece, rfl, .empty, by simpa only [List.append_nil] using matched⟩
      · rintro ⟨left, right, rfl, nothing, lastMatches⟩
        cases nothing
        simpa only [List.append_nil, List.nil_append] using lastMatches

theorem withEnding_ending (pattern : Pattern) : pattern.withEnding pattern.ending = pattern := by
  induction pattern with
  | seq first second _ ih => simp only [withEnding, ending, ih]
  | _ => rfl

/-- A pattern that ends in a choice occurs where it does with one of the two endings. -/
theorem occurs_iff_of_ending {pattern left right : Pattern} (choice : pattern.ending = alt left right)
    {text : List Char} :
    pattern.Occurs text ↔
      (pattern.withEnding left).Occurs text ∨ (pattern.withEnding right).Occurs text := by
  have either (before piece after : List Char) : Matches pattern before piece after ↔
      Matches (pattern.withEnding left) before piece after ∨
        Matches (pattern.withEnding right) before piece after := by
    conv_lhs => rw [← pattern.withEnding_ending, choice]
    rw [@matches_withEnding_iff pattern (alt left right), @matches_withEnding_iff pattern left,
      @matches_withEnding_iff pattern right]
    simp only [matches_alt_iff, and_or_left, exists_or]
  simp only [Occurs, either, and_or_left, exists_or]

/-- Whether a pattern is a choice one branch of which is a class of characters. -/
def offers (chars : CharClass) : Pattern → Bool
  | char other => other == chars
  | alt left right => left.offers chars || right.offers chars
  | _ => false

/-- Whether a pattern is a choice of which every branch but the end of the text can be told apart
from it by word boundaries at most. -/
def closes : Pattern → Bool
  | look condition => condition == .textEnd || Move.back.keeps condition
  | alt left right => left.closes && right.closes
  | pattern => pattern.looksAll Move.back.keeps

/-- Whether an occurrence is found again when text beginning with a character of a class follows:
the end of the text is at most one of several endings, another of which is the class. -/
def endures (chars : CharClass) (pattern : Pattern) : Bool :=
  (pattern.withEnding empty).looksAll Move.back.keeps &&
    (pattern.ending.looksAll Move.back.keeps ||
      pattern.ending.closes && pattern.ending.offers chars)

theorem matches_of_offers {chars : CharClass} {pattern : Pattern} {c : Char}
    (offers : pattern.offers chars = true) (held : chars.contains c = true)
    (before after : List Char) : Matches pattern before [c] after := by
  induction pattern with
  | char other =>
      cases eq_of_beq offers
      exact .char held
  | alt left right leftMatches rightMatches =>
      rcases Bool.or_eq_true_iff.mp offers with left | right
      · exact .alt_left (leftMatches left)
      · exact .alt_right (rightMatches right)
  | _ => cases offers

/-- What a closing choice matches is found again, or it is the end of the text. -/
theorem Matches.move_of_closes {pattern : Pattern} {before piece after : List Char}
    (matched : Matches pattern before piece after) (closes : pattern.closes = true)
    {after' : List Char} (right : Move.back.right after.head? after'.head?) :
    Matches pattern before piece after' ∨ piece = [] ∧ after = [] := by
  induction pattern with
  | look condition =>
      rcases Bool.or_eq_true_iff.mp closes with atEnd | kept
      · cases eq_of_beq atEnd
        cases matched with
        | look holds =>
            have nothing : after = [] := by
              simpa only [Look.holds, Option.isNone_iff_eq_none, List.head?_eq_none_iff] using holds
            exact .inr ⟨rfl, nothing⟩
      · exact .inl (matched.move .back kept rfl right)
  | alt first second firstMoves secondMoves =>
      have both := Bool.and_eq_true_iff.mp closes
      rcases matches_alt_iff.mp matched with matched | matched
      · exact (firstMoves matched both.1).imp_left .alt_left
      · exact (secondMoves matched both.2).imp_left .alt_right
  | _ => exact .inl (matched.move .back closes rfl right)

/-- An occurrence survives text behind it that begins, outside words, with a character of the
class. -/
theorem Occurs.append {pattern : Pattern} {text : List Char} (occurs : pattern.Occurs text)
    {chars : CharClass} (endures : pattern.endures chars = true) {c : Char}
    (held : chars.contains c = true) (outside : Unicode.isWord c = false) (rest : List Char) :
    pattern.Occurs (text ++ c :: rest) := by
  obtain ⟨frontLooks, endingShape⟩ := Bool.and_eq_true_iff.mp endures
  obtain ⟨before, piece, after, rfl, matched⟩ := occurs
  rw [← pattern.withEnding_ending] at matched
  obtain ⟨left, right, rfl, frontMatches, endingMatches⟩ := matches_withEnding_iff.mp matched
  have neighbour (others : List Char) :
      Move.back.right others.head? (others ++ c :: rest).head? := by
    cases others with
    | nil => exact outside.symm
    | cons _ _ => rfl
  have ending : Matches pattern.ending (before ++ left) right (after ++ c :: rest) ∨
      right = [] ∧ after = [] ∧ pattern.ending.offers chars = true := by
    rcases Bool.or_eq_true_iff.mp endingShape with looks | closing
    · exact .inl (endingMatches.move .back looks rfl (neighbour after))
    · obtain ⟨closes, offers⟩ := Bool.and_eq_true_iff.mp closing
      rcases endingMatches.move_of_closes closes (neighbour after) with moved | ⟨rfl, rfl⟩
      · exact .inl moved
      · exact .inr ⟨rfl, rfl, offers⟩
  rcases ending with endingMoved | ⟨rfl, rfl, offers⟩
  · have frontMoved : Matches (pattern.withEnding empty) before left
        (right ++ (after ++ c :: rest)) := by
      apply frontMatches.move .back frontLooks rfl
      simpa only [List.append_assoc] using neighbour (right ++ after)
    refine ⟨before, left ++ right, after ++ c :: rest, ?_, ?_⟩
    · simp only [List.append_assoc]
    · rw [← pattern.withEnding_ending]
      exact matches_withEnding_iff.mpr ⟨left, right, rfl, frontMoved, endingMoved⟩
  · -- The occurrence reached the end of the text; now it takes one character more.
    have frontMoved : Matches (pattern.withEnding empty) before left ([c] ++ rest) :=
      frontMatches.move .back frontLooks rfl (neighbour [])
    refine ⟨before, left ++ [c], rest, ?_, ?_⟩
    · simp only [List.append_nil, List.append_assoc, List.singleton_append]
    · rw [← pattern.withEnding_ending]
      exact matches_withEnding_iff.mpr
        ⟨left, [c], rfl, frontMoved, matches_of_offers offers held _ rest⟩

/-! ## Pieces that match everywhere -/

/-- Whether a pattern matches a piece in any surroundings, character by character. -/
def spells : Pattern → List Char → Bool
  | char chars, [c] => chars.contains c
  | seq first second, c :: rest => first.spells [c] && second.spells rest
  | alt left right, piece => left.spells piece || right.spells piece
  | _, _ => false

theorem matches_of_spells {pattern : Pattern} {piece : List Char}
    (spelt : pattern.spells piece = true) (before after : List Char) :
    Matches pattern before piece after := by
  induction pattern generalizing piece before after with
  | char chars =>
      match piece, spelt with
      | [c], held => exact .char held
  | seq first second firstMatches secondMatches =>
      match piece, spelt with
      | c :: rest, both =>
          obtain ⟨one, others⟩ := Bool.and_eq_true_iff.mp both
          exact .seq (firstMatches one before (rest ++ after)) (secondMatches others _ after)
  | alt left right leftMatches rightMatches =>
      have either : left.spells piece = true ∨ right.spells piece = true := by
        simpa only [spells, Bool.or_eq_true] using spelt
      rcases either with spelt | spelt
      · exact .alt_left (leftMatches spelt before after)
      · exact .alt_right (rightMatches spelt before after)
  | _ => simp only [spells, Bool.false_eq_true] at spelt

/-- A pattern occurs in every text that holds a piece it spells. -/
theorem occurs_of_spells {pattern : Pattern} {piece text : List Char}
    (spelt : pattern.spells piece = true) (held : piece <:+: text) : pattern.Occurs text := by
  obtain ⟨before, after, rfl⟩ := held
  exact ⟨before, piece, after, rfl, matches_of_spells spelt before after⟩

end Pattern

end ScreenedSuite
