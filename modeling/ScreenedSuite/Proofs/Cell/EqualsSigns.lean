import Mathlib.Algebra.Group.Nat.Even
import ScreenedSuite.Proofs.Cell.Reading

/-! # Equals signs in cells

For a call that takes any named arguments, a cell is a named argument if it has an equals sign that
is bare, that is behind an even number of backslashes. Escaping deals with the one sign that stands
behind a name at the start of the argument: every other equals sign of the argument is bare in its
cell (`ScreenedSuite.Cell.bareEquals_escape_iff`).
-/

namespace ScreenedSuite.Cell

/-- A text with an equals sign that no backslash escapes. -/
def BareEquals (text : List Char) : Prop :=
  ∃ front back, text = front ++ '=' :: back ∧ Even (front.reverse.takeWhile (· == '\\')).length

/-- An argument with an equals sign that does not stand behind a name at its start. -/
def EqualsPastName (value : List Char) : Prop :=
  ∃ before after, value = before ++ '=' :: after ∧ isName before = false

/-! ## Finding bare equals signs -/

/-- Whether the first character behind a text is escaped. -/
def leavesEscape (escaped : Bool) (text : List Char) : Bool :=
  text.foldl (fun escaped c => !escaped && c == '\\') escaped

/-- Whether a text has a bare equals sign; `escaped` tells whether its first character is
escaped. -/
def hasBareEquals (escaped : Bool) : List Char → Bool
  | [] => false
  | c :: rest => (!escaped && c == '=') || hasBareEquals (!escaped && c == '\\') rest

variable {escaped : Bool}

theorem leavesEscape_eq_false_iff (text : List Char) : leavesEscape false text = false ↔
    Even (text.reverse.takeWhile (· == '\\')).length := by
  induction text using List.reverseRecOn with
  | nil => simp [leavesEscape]
  | append_singleton front c ih =>
      have step : leavesEscape false (front ++ [c]) =
          (!leavesEscape false front && c == '\\') := by
        rw [leavesEscape, List.foldl_append]
        rfl
      rw [step, List.reverse_append, List.reverse_singleton, List.singleton_append]
      by_cases backslash : c = '\\'
      · subst backslash
        rw [List.takeWhile_cons_of_pos rfl, List.length_cons, Nat.even_add_one, ← ih]
        simp
      · have other : ¬(c == '\\') = true := fun same => backslash (beq_iff_eq.mp same)
        have none : (c :: front.reverse).takeWhile (· == '\\') = [] :=
          List.takeWhile_cons_of_neg other
        rw [none]
        simp [backslash]

theorem hasBareEquals_iff (text : List Char) : hasBareEquals escaped text = true ↔
    ∃ front back, text = front ++ '=' :: back ∧ leavesEscape escaped front = false := by
  induction text generalizing escaped with
  | nil => simp [hasBareEquals]
  | cons c rest ih =>
      rw [hasBareEquals, Bool.or_eq_true, ih]
      constructor
      · rintro (here | ⟨front, back, rfl, unescaped⟩)
        · rw [Bool.and_eq_true, Bool.not_eq_true', beq_iff_eq] at here
          obtain ⟨unescaped, rfl⟩ := here
          exact ⟨[], rest, rfl, unescaped⟩
        · exact ⟨c :: front, back, rfl, unescaped⟩
      · rintro ⟨front, back, whole, unescaped⟩
        cases front with
        | nil =>
            obtain ⟨rfl, rfl⟩ := List.cons.inj whole
            have open_ : escaped = false := unescaped
            rw [open_]
            exact .inl rfl
        | cons d more =>
            obtain ⟨rfl, rfl⟩ := List.cons.inj whole
            exact .inr ⟨more, back, rfl, unescaped⟩

theorem bareEquals_iff (text : List Char) : BareEquals text ↔ hasBareEquals false text = true := by
  rw [hasBareEquals_iff]
  simp only [BareEquals, leavesEscape_eq_false_iff]

instance (text : List Char) : Decidable (BareEquals text) :=
  decidable_of_iff' _ (bareEquals_iff text)

/-! ## Equals signs through the passes -/

/-- The passes over spaces put texts in that have neither backslashes nor equals signs: what is
bare behind such a text does not depend on the text. -/
theorem hasBareEquals_append_of_inert {text : List Char} (nonempty : text ≠ [])
    (inert : ∀ c ∈ text, c ≠ '\\' ∧ c ≠ '=') (rest : List Char) :
    hasBareEquals escaped (text ++ rest) = hasBareEquals false rest := by
  induction text generalizing escaped with
  | nil => exact (nonempty rfl).elim
  | cons c more ih =>
      obtain ⟨⟨notBackslash, notEquals⟩, others⟩ := List.forall_mem_cons.mp inert
      have step : hasBareEquals escaped (c :: (more ++ rest)) =
          hasBareEquals false (more ++ rest) := by
        rw [hasBareEquals, beq_eq_false_iff_ne.mpr notBackslash, beq_eq_false_iff_ne.mpr notEquals,
          Bool.and_false, Bool.false_or]
      rw [List.cons_append, step]
      by_cases last : more = []
      · rw [last, List.nil_append]
      · exact ih last others

theorem hasBareEquals_append_congr {first second : List Char}
    (same : ∀ escaped, hasBareEquals escaped first = hasBareEquals escaped second)
    (front : List Char) :
    hasBareEquals escaped (front ++ first) = hasBareEquals escaped (front ++ second) := by
  induction front generalizing escaped with
  | nil => exact same escaped
  | cons c rest ih => rw [List.cons_append, List.cons_append, hasBareEquals, hasBareEquals, ih]

theorem spacesVariable_inert (count : Nat) : ∀ c ∈ spacesVariable count, c ≠ '\\' ∧ c ≠ '=' := by
  intro c member
  unfold spacesVariable at member
  rw [List.mem_append, List.mem_append] at member
  rcases member with (opening | digit) | closing
  · have inert : ∀ c ∈ r"${SPACE * ".toList, c ≠ '\\' ∧ c ≠ '=' := forall_mem_of_all (by decide)
    exact inert c opening
  · have isDigit := isDigit_of_mem_toString digit
    exact ⟨ne_of_isDigit isDigit rfl, ne_of_isDigit isDigit rfl⟩
  · have inert : ∀ c ∈ r"}".toList, c ≠ '\\' ∧ c ≠ '=' := forall_mem_of_all (by decide)
    exact inert c closing

theorem replicate_inert (count : Nat) : ∀ c ∈ List.replicate count ' ', c ≠ '\\' ∧ c ≠ '=' := by
  intro c member
  rw [List.eq_of_mem_replicate member]
  decide

/-- A run of spaces and what stands for it are alike for what is behind them. -/
theorem hasBareEquals_spaceRun (count : Nat) {first second : List Char}
    (same : ∀ escaped, hasBareEquals escaped first = hasBareEquals escaped second) :
    hasBareEquals escaped (spaceRun count ++ first) =
      hasBareEquals escaped (List.replicate count ' ' ++ second) := by
  unfold spaceRun
  split
  · exact hasBareEquals_append_congr same _
  · rename_i several
    have spaces : List.replicate count ' ' ≠ [] := by
      rw [ne_eq, List.replicate_eq_nil_iff]
      omega
    have variableNonempty : spacesVariable count ≠ [] :=
      List.append_ne_nil_of_right_ne_nil _ (by decide)
    rw [hasBareEquals_append_of_inert variableNonempty (spacesVariable_inert count),
      hasBareEquals_append_of_inert spaces (replicate_inert count), same]

theorem hasBareEquals_escapeRuns (count : Nat) (text : List Char) :
    hasBareEquals escaped (escapeRuns count text) =
      hasBareEquals escaped (List.replicate count ' ' ++ text) := by
  induction text generalizing escaped count with
  | nil =>
      rw [escapeRuns, ← List.append_nil (spaceRun count)]
      exact hasBareEquals_spaceRun count fun _ => rfl
  | cons c rest ih =>
      rw [escapeRuns]
      split
      · rename_i space
        rw [ih, beq_iff_eq.mp space, List.replicate_succ', List.append_assoc,
          List.singleton_append]
      · apply hasBareEquals_spaceRun
        intro escaped
        rw [hasBareEquals, hasBareEquals, ih]
        rfl

theorem hasBareEquals_space (rest : List Char) :
    hasBareEquals escaped (spaceVariable ++ rest) = hasBareEquals escaped (' ' :: rest) := by
  have inert : ∀ c ∈ spaceVariable, c ≠ '\\' ∧ c ≠ '=' := forall_mem_of_all (by decide)
  rw [hasBareEquals_append_of_inert (by decide) inert, ← List.singleton_append]
  exact (hasBareEquals_append_of_inert (List.cons_ne_nil _ _) (replicate_inert 1) rest).symm

theorem hasBareEquals_escapeFirst (text : List Char) :
    hasBareEquals escaped (escapeFirst text) = hasBareEquals escaped text := by
  unfold escapeFirst
  split
  · exact hasBareEquals_space _
  · rfl

theorem hasBareEquals_escapeLast (text : List Char) :
    hasBareEquals escaped (escapeLast text) = hasBareEquals escaped text := by
  unfold escapeLast
  split
  · rename_i last
    obtain ⟨front, rfl⟩ := List.getLast?_eq_some_iff.mp (beq_iff_eq.mp last)
    have same (escaped : Bool) : hasBareEquals escaped spaceVariable = hasBareEquals escaped [' '] := by
      rw [← hasBareEquals_space [], List.append_nil]
    rw [List.dropLast_concat]
    exact hasBareEquals_append_congr same front
  · rfl

theorem hasBareEquals_escapeSpaces (text : List Char) :
    hasBareEquals escaped (escapeSpaces text) = hasBareEquals escaped text := by
  unfold escapeSpaces
  rw [hasBareEquals_escapeLast, hasBareEquals_escapeFirst, hasBareEquals_escapeRuns]
  rfl

theorem hasBareEquals_escape (c : Char) (rest : List Char) :
    hasBareEquals false ('\\' :: c :: rest) = hasBareEquals false rest :=
  rfl

theorem hasBareEquals_cons {c : Char} (notBackslash : c ≠ '\\') (rest : List Char) :
    hasBareEquals false (c :: rest) = (c == '=' || hasBareEquals false rest) := by
  rw [hasBareEquals, beq_eq_false_iff_ne.mpr notBackslash, Bool.and_false, Bool.not_false,
    Bool.true_and]

/-- Once marks are escaped, every equals sign is bare. -/
theorem hasBareEquals_escapeMarks (text : List Char) :
    hasBareEquals false (escapeMarks text) = true ↔ '=' ∈ text := by
  induction text with
  | nil => simp [escapeMarks, hasBareEquals]
  | cons c rest ih =>
      have escape (d : Char) (notEquals : '=' ≠ c) :
          hasBareEquals false (['\\', d] ++ escapeMarks rest) = true ↔ '=' ∈ c :: rest := by
        rw [List.cons_append, List.singleton_append, hasBareEquals_escape, ih, List.mem_cons,
          or_iff_right notEquals]
      rw [escapeMarks_cons]
      unfold escapeMark
      split_ifs with backslash lineFeed carriageReturn tab marked
      · exact escape _ (by rw [backslash]; decide)
      · exact escape _ (by rw [lineFeed]; decide)
      · exact escape _ (by rw [carriageReturn]; decide)
      · exact escape _ (by rw [tab]; decide)
      · apply escape
        rintro rfl
        cases marked
      · rw [List.singleton_append, hasBareEquals_cons backslash, Bool.or_eq_true, beq_iff_eq, ih,
          List.mem_cons, eq_comm]

theorem hasBareEquals_escapeComment (text : List Char) :
    hasBareEquals false (escapeComment text) = hasBareEquals false text := by
  unfold escapeComment
  split
  · rw [hasBareEquals_escape, hasBareEquals_cons (by decide)]
    rfl
  · rfl

/-! ## The name at the start -/

theorem escapeMarks_named {name : List Char} (continues : ∀ c ∈ name, continuesName c = true)
    (value : List Char) :
    escapeMarks (name ++ '=' :: value) = name ++ '=' :: escapeMarks value := by
  induction name with
  | nil => rfl
  | cons c rest ih =>
      obtain ⟨first, others⟩ := List.forall_mem_cons.mp continues
      have itself (next : Option Char) : escapeMark next c = [c] :=
        escapeMark_of_kept (ne_of_continuesName first rfl) (ne_of_continuesName first rfl)
          (ne_of_continuesName first rfl) (ne_of_continuesName first rfl)
          (marksVariable_of_continuesName first) next
      rw [List.cons_append, escapeMarks_cons, itself, ih others]
      rfl

theorem prefix_of_prefix_escapeMarks {front text : List Char} (unescaped : '\\' ∉ front)
    (begins : front <+: escapeMarks text) : front <+: text := by
  induction front generalizing text with
  | nil => exact List.nil_prefix
  | cons first others ih =>
      rw [List.mem_cons, not_or] at unescaped
      cases text with
      | nil => exact begins
      | cons c rest =>
          rw [escapeMarks_cons] at begins
          unfold escapeMark at begins
          split_ifs at begins
          · exact (unescaped.1 (List.cons_prefix_cons.mp begins).1.symm).elim
          · exact (unescaped.1 (List.cons_prefix_cons.mp begins).1.symm).elim
          · exact (unescaped.1 (List.cons_prefix_cons.mp begins).1.symm).elim
          · exact (unescaped.1 (List.cons_prefix_cons.mp begins).1.symm).elim
          · exact (unescaped.1 (List.cons_prefix_cons.mp begins).1.symm).elim
          · obtain ⟨rfl, later⟩ := List.cons_prefix_cons.mp begins
            exact List.cons_prefix_cons.mpr ⟨rfl, ih unescaped.2 later⟩

theorem prefix_of_prefix_escapeComment {front text : List Char} (unescaped : '\\' ∉ front)
    (begins : front <+: escapeComment text) : front <+: text := by
  unfold escapeComment at begins
  split at begins
  · cases front with
    | nil => exact List.nil_prefix
    | cons first others =>
        rw [(List.cons_prefix_cons.mp begins).1] at unescaped
        exact (unescaped List.mem_cons_self).elim
  · exact begins

theorem namesArgument_of_escaped {text : List Char}
    (named : NamesArgument (escapeComment (escapeMarks text))) : NamesArgument text := by
  obtain ⟨name, value, nameOf, whole⟩ := named
  have unescaped : '\\' ∉ name ++ ['='] := by
    intro member
    rcases List.mem_append.mp member with inName | sign
    · exact ne_of_continuesName (continuesName_of_isName nameOf _ inName) rfl rfl
    · exact absurd (List.mem_singleton.mp sign) (by decide)
  have begins : name ++ ['='] <+: escapeComment (escapeMarks text) :=
    ⟨value, by rw [List.append_assoc, List.singleton_append, whole]⟩
  obtain ⟨rest, rfl⟩ := prefix_of_prefix_escapeMarks unescaped
    (prefix_of_prefix_escapeComment unescaped begins)
  exact ⟨name, rest, nameOf, by rw [List.append_assoc, List.singleton_append]⟩

theorem escapeSigns_named {name : List Char} (nameOf : isName name = true) (value : List Char) :
    escapeSigns (name ++ '=' :: value) = name ++ '\\' :: '=' :: escapeMarks value := by
  have continues := continuesName_of_isName nameOf
  have uncommented : escapeComment (name ++ '=' :: escapeMarks value) =
      name ++ '=' :: escapeMarks value := by
    cases name with
    | nil => cases nameOf
    | cons c rest =>
        unfold escapeComment
        split
        · rename_i same
          have sign : c = '#' := (List.cons.inj same).1
          exact (ne_of_continuesName (continues c List.mem_cons_self) rfl sign).elim
        · rfl
  unfold escapeSigns
  rw [escapeMarks_named continues, uncommented, escapeNamed_of_isName nameOf]

theorem not_isName_of_equals {text : List Char} (equals : '=' ∈ text) : isName text = false := by
  rw [← Bool.not_eq_true]
  intro nameOf
  exact ne_of_continuesName (continuesName_of_isName nameOf _ equals) rfl rfl

theorem equalsPastName_of_named {name : List Char} (nameOf : isName name = true)
    (value : List Char) : EqualsPastName (name ++ '=' :: value) ↔ '=' ∈ value := by
  constructor
  · rintro ⟨before, after, whole, other⟩
    have different : before ≠ name := by
      rintro rfl
      rw [nameOf] at other
      cases other
    rcases List.append_eq_append_iff.mp whole with ⟨more, rfl, rest⟩ | ⟨more, rfl, rest⟩
    · cases more with
      | nil => exact (different (List.append_nil name)).elim
      | cons c others =>
          rw [(List.cons.inj rest).2]
          exact List.mem_append_right _ List.mem_cons_self
    · cases more with
      | nil => exact (different (List.append_nil before).symm).elim
      | cons c others =>
          have inName : '=' ∈ before ++ c :: others := by
            rw [(List.cons.inj rest).1]
            exact List.mem_append_right _ List.mem_cons_self
          rw [not_isName_of_equals inName] at nameOf
          cases nameOf
  · intro member
    obtain ⟨before, after, rfl⟩ := List.append_of_mem member
    refine ⟨name ++ '=' :: before, after, ?_, ?_⟩
    · rw [List.append_assoc, List.cons_append]
    · exact not_isName_of_equals (List.mem_append_right _ List.mem_cons_self)

theorem equalsPastName_of_not_namesArgument {value : List Char} (unnamed : ¬ NamesArgument value) :
    EqualsPastName value ↔ '=' ∈ value := by
  constructor
  · rintro ⟨before, after, rfl, _⟩
    exact List.mem_append_right _ List.mem_cons_self
  · intro member
    obtain ⟨before, after, rfl⟩ := List.append_of_mem member
    refine ⟨before, after, rfl, ?_⟩
    rw [← Bool.not_eq_true]
    exact fun nameOf => unnamed ⟨before, after, nameOf, rfl⟩

theorem hasBareEquals_escapeSigns (text : List Char) :
    hasBareEquals false (escapeSigns text) = true ↔ EqualsPastName text := by
  by_cases named : NamesArgument text
  · obtain ⟨name, value, nameOf, rfl⟩ := named
    have nonempty : name ≠ [] := by
      rintro rfl
      cases nameOf
    have inert : ∀ c ∈ name, c ≠ '\\' ∧ c ≠ '=' := by
      intro c member
      have continues := continuesName_of_isName nameOf c member
      exact ⟨ne_of_continuesName continues rfl, ne_of_continuesName continues rfl⟩
    rw [escapeSigns_named nameOf, hasBareEquals_append_of_inert nonempty inert,
      hasBareEquals_escape, hasBareEquals_escapeMarks, equalsPastName_of_named nameOf]
  · have unnamed : ¬ NamesArgument (escapeComment (escapeMarks text)) :=
      fun escaped => named (namesArgument_of_escaped escaped)
    rw [escapeSigns, escapeNamed_of_not_namesArgument unnamed, hasBareEquals_escapeComment,
      hasBareEquals_escapeMarks, equalsPastName_of_not_namesArgument named]

/-- The bare equals signs of a cell are those of the argument past a name at its start. -/
theorem bareEquals_escape_iff (value : List Char) :
    BareEquals (escape value) ↔ EqualsPastName value := by
  rw [bareEquals_iff]
  by_cases empty : value = []
  · subst empty
    have none : ¬ EqualsPastName [] := by
      rintro ⟨before, after, whole, _⟩
      exact List.append_ne_nil_of_right_ne_nil _ (List.cons_ne_nil _ _) whole.symm
    exact iff_of_false (by decide) none
  · rw [escape_of_ne_nil empty]
    change hasBareEquals false (escapeSpaces (escapeSigns value)) = true ↔ _
    rw [hasBareEquals_escapeSpaces, hasBareEquals_escapeSigns]

end ScreenedSuite.Cell
