import ScreenedSuite.Proofs.Cell.Plain
import ScreenedSuite.Proofs.Unicode.Blank

/-! # Names of test cases on their lines

Whatever a test case is called, its name is laid out without controls
(`ScreenedSuite.Cell.isControl_eq_false_of_mem_nameLine`), so it does not leave its line.

A name is trimmed before its controls become spaces. The line of a name therefore begins or ends
with a space just when a control is the first or the last character that trimming leaves of the
name (`ScreenedSuite.Cell.nameLine_shape`), and it stands by itself in any other case
(`ScreenedSuite.Cell.NameShape.standsAlone_iff`).
-/

namespace ScreenedSuite.Cell

theorem mem_of_mem_joinSpaces {spaced : Bool} {text : List Char} {c : Char}
    (member : c ∈ joinSpaces spaced text) : c ∈ text := by
  induction text generalizing spaced with
  | nil => exact member
  | cons first rest ih =>
      rw [joinSpaces] at member
      split at member
      · split at member
        · exact List.mem_cons_of_mem _ (ih member)
        · rename_i space _
          rcases List.mem_cons.mp member with rfl | later
          · rw [beq_iff_eq.mp space]
            exact List.mem_cons_self
          · exact List.mem_cons_of_mem _ (ih later)
      · rcases List.mem_cons.mp member with rfl | later
        · exact List.mem_cons_self
        · exact List.mem_cons_of_mem _ (ih later)

/-- The line of a name has no controls. -/
theorem isControl_eq_false_of_mem_nameLine {name : List Char} {c : Char}
    (member : c ∈ nameLine name) : isControl c = false := by
  have flat {text : List Char}
      (joined : c ∈ joinSpaces false (text.map fun d => if isControl d then ' ' else d)) :
      isControl c = false := by
    obtain ⟨d, _, rfl⟩ := List.mem_map.mp (mem_of_mem_joinSpaces joined)
    split
    · decide
    · rename_i shown
      exact Bool.eq_false_iff.mpr shown
  unfold nameLine at member
  dsimp only at member
  split at member
  · rcases List.mem_cons.mp member with rfl | joined
    · decide
    · exact flat joined
  · exact flat member

theorem lineFeed_not_mem_nameLine (name : List Char) : '\n' ∉ nameLine name := by
  intro member
  exact absurd (isControl_eq_false_of_mem_nameLine member) (by decide)

/-! ## Lines that stand by themselves -/

/-- A text that begins with a sign for comments or headers. -/
def Marked (text : List Char) : Prop :=
  ['#'] <+: text ∨ ['*', '*', '*'] <+: text

instance : DecidablePred Marked :=
  fun text => inferInstanceAs (Decidable (['#'] <+: text ∨ ['*', '*', '*'] <+: text))

/-- A line that is read as a name and keeps its characters. -/
structure StandsAlone (line : List Char) : Prop where
  nonempty : line ≠ []
  shown : ∀ c ∈ line, isControl c = false
  first : line.head? ≠ some ' '
  last : line.getLast? ≠ some ' '
  apart : line.IsChain Apart
  unmarked : ¬ Marked (line.dropWhile (· == ' '))

/-- What a character of a name is shown as. -/
def shownAs (c : Char) : Char :=
  if isControl c then ' ' else c

/-- Whether a character of a name is shown as a space. -/
def leavesGap (c : Char) : Bool :=
  shownAs c == ' '

/-- What the line of a name looks like. All that trimming leaves of the name is shown: a control at
its start or its end as a space, and a sign behind a control at its start without an escape. -/
structure NameShape (name line : List Char) : Prop where
  nonempty : line ≠ []
  shown : ∀ c ∈ line, isControl c = false
  apart : line.IsChain Apart
  unmarked : ¬ Marked line
  first : line.head? = some ' ' ↔ ∃ c ∈ (Unicode.trim name).head?, isControl c = true
  last : line.getLast? = some ' ' ↔ ∃ c ∈ (Unicode.trim name).getLast?, isControl c = true
  indented : Marked (line.dropWhile (· == ' ')) ↔
    (∃ c ∈ (Unicode.trim name).head?, isControl c = true) ∧
      Marked ((Unicode.trim name).dropWhile leavesGap)

variable {c : Char} {name : List Char}

/-! ## Joining spaces -/

theorem joinSpaces_cons_of_ne (notSpace : c ≠ ' ') (spaced : Bool) (rest : List Char) :
    joinSpaces spaced (c :: rest) = c :: joinSpaces false rest := by
  rw [joinSpaces, if_neg (mt beq_iff_eq.mp notSpace)]

theorem dropWhile_eq_self_of_head? {text : List Char} (first : text.head? ≠ some ' ') :
    text.dropWhile (· == ' ') = text := by
  cases text with
  | nil => rfl
  | cons c rest =>
      refine List.dropWhile_cons_of_neg fun space => first ?_
      rw [List.head?_cons, beq_iff_eq.mp space]

/-- Behind a space, all spaces are skipped. -/
theorem joinSpaces_true (text : List Char) :
    joinSpaces true text = joinSpaces false (text.dropWhile (· == ' ')) := by
  induction text with
  | nil => rfl
  | cons c rest ih =>
      by_cases space : c = ' '
      · subst space
        exact ih
      · have first : (c :: rest).head? ≠ some ' ' := fun same => space (Option.some.inj same)
        rw [dropWhile_eq_self_of_head? first, joinSpaces_cons_of_ne space,
          joinSpaces_cons_of_ne space]

theorem head?_joinSpaces (text : List Char) : (joinSpaces false text).head? = text.head? := by
  cases text with
  | nil => rfl
  | cons c rest =>
      by_cases space : c = ' '
      · subst space
        rfl
      · rw [joinSpaces_cons_of_ne space, List.head?_cons, List.head?_cons]

theorem head?_dropWhile_space (text : List Char) :
    (text.dropWhile (· == ' ')).head? ≠ some ' ' := by
  intro space
  have stops := List.head?_dropWhile_not (· == ' ') text
  rw [space] at stops
  cases stops

/-- Joining takes no space from the end of a text, except behind a space. -/
theorem getLast?_cons_joinSpaces (text : List Char) :
    (' ' :: joinSpaces true text).getLast? = (' ' :: text).getLast? ∧
      (joinSpaces false text).getLast? = text.getLast? := by
  induction text with
  | nil => exact ⟨rfl, rfl⟩
  | cons c rest ih =>
      by_cases space : c = ' '
      · subst space
        exact ⟨ih.1.trans List.getLast?_cons_cons.symm, ih.1⟩
      · have last : (c :: joinSpaces false rest).getLast? = (c :: rest).getLast? := by
          rw [List.getLast?_cons, List.getLast?_cons, ih.2]
        rw [joinSpaces_cons_of_ne space, joinSpaces_cons_of_ne space, List.getLast?_cons_cons,
          List.getLast?_cons_cons]
        exact ⟨last, last⟩

theorem joinSpaces_isChain (spaced : Bool) (text : List Char) :
    (joinSpaces spaced text).IsChain Apart := by
  induction text generalizing spaced with
  | nil => exact .nil
  | cons c rest ih =>
      by_cases space : c = ' '
      · subst space
        cases spaced with
        | true => exact ih true
        | false =>
            change (' ' :: joinSpaces true rest).IsChain Apart
            rw [List.isChain_cons]
            refine ⟨fun d first both => ?_, ih true⟩
            rw [joinSpaces_true, head?_joinSpaces, both.2] at first
            exact head?_dropWhile_space rest first
      · rw [joinSpaces_cons_of_ne space, List.isChain_cons]
        exact ⟨fun _ _ both => space both.1, ih false⟩

theorem dropWhile_joinSpaces (text : List Char) :
    (joinSpaces false text).dropWhile (· == ' ') =
      joinSpaces false (text.dropWhile (· == ' ')) := by
  have joined (other : List Char) (first : other.head? ≠ some ' ') :
      (joinSpaces false other).dropWhile (· == ' ') = joinSpaces false other := by
    apply dropWhile_eq_self_of_head?
    rwa [head?_joinSpaces]
  cases text with
  | nil => rfl
  | cons c rest =>
      by_cases space : c = ' '
      · subst space
        change (joinSpaces true rest).dropWhile (· == ' ') =
          joinSpaces false (rest.dropWhile (· == ' '))
        rw [joinSpaces_true]
        exact joined _ (head?_dropWhile_space rest)
      · have first : (c :: rest).head? ≠ some ' ' := fun same => space (Option.some.inj same)
        rw [joined _ first, dropWhile_eq_self_of_head? first]

/-- A text without spaces comes first after joining just when it does before. -/
theorem prefix_joinSpaces_iff {front : List Char} (spaceless : ' ' ∉ front) (text : List Char) :
    front <+: joinSpaces false text ↔ front <+: text := by
  induction front generalizing text with
  | nil => exact iff_of_true List.nil_prefix List.nil_prefix
  | cons d others ih =>
      rw [List.mem_cons, not_or] at spaceless
      cases text with
      | nil => rfl
      | cons c rest =>
          by_cases space : c = ' '
          · subst space
            change d :: others <+: ' ' :: joinSpaces true rest ↔ _
            rw [List.cons_prefix_cons, List.cons_prefix_cons]
            exact iff_of_false (fun both => spaceless.1 both.1.symm)
              (fun both => spaceless.1 both.1.symm)
          · rw [joinSpaces_cons_of_ne space, List.cons_prefix_cons, List.cons_prefix_cons,
              ih spaceless.2]

/-! ## Showing controls as spaces -/

theorem eq_shownAs_iff {d : Char} (plain : isControl d = false ∧ d ≠ ' ') (c : Char) :
    d = shownAs c ↔ d = c := by
  unfold shownAs
  split
  · rename_i control
    refine iff_of_false plain.2 ?_
    rintro rfl
    exact Bool.false_ne_true (plain.1.symm.trans control)
  · rfl

theorem prefix_map_shownAs_iff {front : List Char}
    (plain : ∀ d ∈ front, isControl d = false ∧ d ≠ ' ') (text : List Char) :
    front <+: text.map shownAs ↔ front <+: text := by
  induction front generalizing text with
  | nil => exact iff_of_true List.nil_prefix List.nil_prefix
  | cons d others ih =>
      obtain ⟨first, later⟩ := List.forall_mem_cons.mp plain
      cases text with
      | nil => rfl
      | cons c rest =>
          rw [List.map_cons, List.cons_prefix_cons, List.cons_prefix_cons, eq_shownAs_iff first,
            ih later]

/-- The signs for comments and headers are shown as they are. -/
theorem marked_joinSpaces_iff (text : List Char) :
    Marked (joinSpaces false (text.map shownAs)) ↔ Marked text := by
  unfold Marked
  rw [prefix_joinSpaces_iff (by decide), prefix_joinSpaces_iff (by decide),
    prefix_map_shownAs_iff (forall_mem_of_all (by decide)),
    prefix_map_shownAs_iff (forall_mem_of_all (by decide))]

/-! ## Trimming -/

/-- What trimming leaves at the ends of a name is shown as a space only if it is a control. -/
theorem shownAs_eq_space_iff (visible : Unicode.isBlank c = false) :
    shownAs c = ' ' ↔ isControl c = true := by
  unfold shownAs
  split
  · rename_i control
    exact iff_of_true rfl control
  · rename_i shown
    refine iff_of_false ?_ shown
    rintro rfl
    cases visible

/-! ## Lines of names -/

/-- What is shown of a name. -/
def flatName (name : List Char) : List Char :=
  joinSpaces false ((Unicode.trim name).map shownAs)

theorem nameLine_eq (name : List Char) :
    nameLine name = if Marked (flatName name) then '\\' :: flatName name else flatName name := by
  have sign : "#".toList.isPrefixOf (flatName name) = true ↔ ['#'] <+: flatName name :=
    List.isPrefixOf_iff_prefix
  have header : "***".toList.isPrefixOf (flatName name) = true ↔
      ['*', '*', '*'] <+: flatName name := List.isPrefixOf_iff_prefix
  change (if "#".toList.isPrefixOf (flatName name) || "***".toList.isPrefixOf (flatName name)
    then '\\' :: flatName name else flatName name) = _
  simp only [Bool.or_eq_true, sign, header]
  rfl

theorem nameLine_of_marked (marked : Marked (flatName name)) :
    nameLine name = '\\' :: flatName name := by
  rw [nameLine_eq, if_pos marked]

theorem nameLine_of_not_marked (unmarked : ¬ Marked (flatName name)) :
    nameLine name = flatName name := by
  rw [nameLine_eq, if_neg unmarked]

theorem not_marked_cons (c : Char) (notSign : c ≠ '#') (notStar : c ≠ '*') (rest : List Char) :
    ¬ Marked (c :: rest) := by
  rintro (sign | header)
  · exact notSign (List.cons_prefix_cons.mp sign).1.symm
  · exact notStar (List.cons_prefix_cons.mp header).1.symm

/-- A sign at the start is not a space. -/
theorem head?_of_marked {text : List Char} (marked : Marked text) : text.head? ≠ some ' ' := by
  intro space
  obtain ⟨rest, rfl⟩ := List.head?_eq_some_iff.mp space
  exact not_marked_cons ' ' (by decide) (by decide) rest marked

theorem head?_flatName_iff :
    (flatName name).head? = some ' ' ↔ ∃ c ∈ (Unicode.trim name).head?, isControl c = true := by
  rw [flatName, head?_joinSpaces, List.head?_map, Option.map_eq_some_iff]
  refine exists_congr fun c => and_congr_right fun first => ?_
  exact shownAs_eq_space_iff ((Unicode.trimmed_trim name).first c first)

theorem getLast?_flatName_iff : (flatName name).getLast? = some ' ' ↔
    ∃ c ∈ (Unicode.trim name).getLast?, isControl c = true := by
  rw [flatName, (getLast?_cons_joinSpaces _).2, List.getLast?_map, Option.map_eq_some_iff]
  refine exists_congr fun c => and_congr_right fun last => ?_
  exact shownAs_eq_space_iff ((Unicode.trimmed_trim name).last c last)

theorem marked_dropWhile_flatName_iff : Marked ((flatName name).dropWhile (· == ' ')) ↔
    Marked ((Unicode.trim name).dropWhile leavesGap) := by
  rw [flatName, dropWhile_joinSpaces, List.dropWhile_map, marked_joinSpaces_iff]
  rfl

theorem flatName_ne_nil (visible : Unicode.trim name ≠ []) : flatName name ≠ [] := by
  intro empty
  have none := head?_joinSpaces ((Unicode.trim name).map shownAs)
  rw [← flatName, empty, List.head?_map, eq_comm, List.head?_nil, Option.map_eq_none_iff,
    List.head?_eq_none_iff] at none
  exact visible none

/-- A name that looks like a marked line gets a backslash in front. -/
theorem nameShape_of_marked (visible : Unicode.trim name ≠ []) (marked : Marked (flatName name)) :
    NameShape name ('\\' :: flatName name) := by
  have notControl : ¬ ∃ c ∈ (Unicode.trim name).head?, isControl c = true :=
    head?_flatName_iff.not.mp (head?_of_marked marked)
  have escaped : ¬ Marked ('\\' :: flatName name) :=
    not_marked_cons '\\' (by decide) (by decide) _
  refine {
    nonempty := List.cons_ne_nil _ _
    shown := ?_
    apart := ?_
    unmarked := escaped
    first := iff_of_false (by rw [List.head?_cons]; decide) notControl
    last := ?_
    indented := iff_of_false escaped fun both => notControl both.1 }
  · rw [← nameLine_of_marked marked]
    exact fun _ => isControl_eq_false_of_mem_nameLine
  · rw [List.isChain_cons]
    exact ⟨fun _ _ both => absurd both.1 (by decide), joinSpaces_isChain false _⟩
  · rw [← List.singleton_append, List.getLast?_append_of_ne_nil _ (flatName_ne_nil visible)]
    exact getLast?_flatName_iff

/-- Any other name stands there as it is. -/
theorem nameShape_of_not_marked (visible : Unicode.trim name ≠ [])
    (unmarked : ¬ Marked (flatName name)) : NameShape name (flatName name) := by
  refine {
    nonempty := flatName_ne_nil visible
    shown := ?_
    apart := joinSpaces_isChain false _
    unmarked
    first := head?_flatName_iff
    last := getLast?_flatName_iff
    indented := ?_ }
  · rw [← nameLine_of_not_marked unmarked]
    exact fun _ => isControl_eq_false_of_mem_nameLine
  · rw [← head?_flatName_iff, ← marked_dropWhile_flatName_iff, and_iff_right_of_imp]
    intro behind
    by_contra notSpace
    rw [dropWhile_eq_self_of_head? notSpace] at behind
    exact unmarked behind

/-- What the line of a name looks like, if trimming leaves anything of the name. -/
theorem nameLine_shape (visible : Unicode.trim name ≠ []) : NameShape name (nameLine name) := by
  by_cases marked : Marked (flatName name)
  · rw [nameLine_of_marked marked]
    exact nameShape_of_marked visible marked
  · rw [nameLine_of_not_marked marked]
    exact nameShape_of_not_marked visible marked

/-- The line of a name stands alone just when trimming leaves a control at neither end of it. -/
theorem NameShape.standsAlone_iff {line : List Char} (shape : NameShape name line) :
    StandsAlone line ↔ (∀ c ∈ (Unicode.trim name).head?, isControl c = false) ∧
      ∀ c ∈ (Unicode.trim name).getLast?, isControl c = false := by
  have never {ends : Option Char} : (¬ ∃ c ∈ ends, isControl c = true) ↔
      ∀ c ∈ ends, isControl c = false := by
    simp only [not_exists, not_and, Bool.not_eq_true]
  rw [← never, ← never, ← shape.first, ← shape.last]
  constructor
  · intro alone
    exact ⟨alone.first, alone.last⟩
  · rintro ⟨first, last⟩
    exact {
      nonempty := shape.nonempty
      shown := shape.shown
      first := first
      last := last
      apart := shape.apart
      unmarked := fun behind => first (shape.first.mpr (shape.indented.mp behind).1) }

end ScreenedSuite.Cell
