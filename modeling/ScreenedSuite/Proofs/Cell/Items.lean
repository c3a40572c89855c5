import ScreenedSuite.Proofs.Cell.Blanks
import ScreenedSuite.Proofs.Cell.EqualsSigns

/-! # Items of variables in cells

A variable with a bracket directly behind it is read as an item of its value. Escaping puts
variables in the place of spaces and leaves brackets alone: the cell for an argument accesses an
item just when a bracket of the argument stands directly behind a space at the start, or behind
several spaces. Any other cell denotes its argument, also where brackets access items
(`ScreenedSuite.Cell.ofArgument_accessesItem_iff`).
-/

namespace ScreenedSuite.Cell

/-- A text that begins with a variable and a bracket directly behind it. -/
def BeginsItem (text : List Char) : Prop :=
  ∃ name value back, Variable name value ∧ text = name ++ '[' :: back

/-- A text with a variable that no backslash escapes and that has a bracket directly behind it. -/
def AccessesItem (text : List Char) : Prop :=
  ∃ front back, text = front ++ back ∧ Even (front.reverse.takeWhile (· == '\\')).length ∧
    BeginsItem back

/-- A cell that is read as a text and accesses no items, so that brackets do not change what is
read. -/
structure Denotes (cell text : List Char) : Prop where
  reads : read cell = some text
  itemless : ¬ AccessesItem cell

/-- An argument with a bracket directly behind a space at its start, or behind several spaces. -/
def BracketPastSpaces (value : List Char) : Prop :=
  [' ', '['] <+: value ∨ [' ', ' ', '['] <:+: value

instance : DecidablePred BracketPastSpaces :=
  fun value => inferInstanceAs (Decidable ([' ', '['] <+: value ∨ [' ', ' ', '['] <:+: value))

/-! ## Finding items

An item is looked for from left to right, as bare equals signs are. -/

/-- A text that accesses an item, if the first character is escaped or not. -/
def AccessesFrom (escaped : Bool) (text : List Char) : Prop :=
  ∃ front back, text = front ++ back ∧ leavesEscape escaped front = false ∧ BeginsItem back

variable {escaped : Bool} {c : Char} {name value rest : List Char}

theorem accessesItem_iff (text : List Char) : AccessesItem text ↔ AccessesFrom false text := by
  simp only [AccessesItem, AccessesFrom, leavesEscape_eq_false_iff]

theorem BeginsItem.exists_eq {text : List Char} (begins : BeginsItem text) :
    ∃ more, text = '$' :: '\x7B' :: more := by
  obtain ⟨name, value, back, isVariable, rfl⟩ := begins
  obtain ⟨more, rfl⟩ := isVariable.begins
  exact ⟨_, rfl⟩

theorem accessesFrom_cons (c : Char) (rest : List Char) : AccessesFrom escaped (c :: rest) ↔
    (escaped = false ∧ BeginsItem (c :: rest)) ∨ AccessesFrom (!escaped && c == '\\') rest := by
  constructor
  · rintro ⟨front, back, whole, unescaped, begins⟩
    cases front with
    | nil => exact .inl ⟨unescaped, whole ▸ begins⟩
    | cons d more =>
        obtain ⟨rfl, rfl⟩ := List.cons.inj whole
        exact .inr ⟨more, back, rfl, unescaped, begins⟩
  · rintro (⟨unescaped, begins⟩ | ⟨front, back, rfl, unescaped, begins⟩)
    · exact ⟨[], c :: rest, rfl, unescaped, begins⟩
    · exact ⟨c :: front, back, rfl, unescaped, begins⟩

theorem not_beginsItem_cons (unmarked : c = '$' → rest.head? ≠ some '\x7B') :
    ¬ BeginsItem (c :: rest) := by
  intro begins
  obtain ⟨more, same⟩ := begins.exists_eq
  obtain ⟨rfl, rfl⟩ := List.cons.inj same
  exact unmarked rfl rfl

/-- A character that begins no item is passed over. -/
theorem accessesFrom_cons_of_unmarked (unmarked : c = '$' → rest.head? ≠ some '\x7B') :
    AccessesFrom escaped (c :: rest) ↔ AccessesFrom (!escaped && c == '\\') rest := by
  rw [accessesFrom_cons, or_iff_right fun here => not_beginsItem_cons unmarked here.2]

theorem not_accessesFrom_nil : ¬ AccessesFrom escaped [] := by
  rintro ⟨front, back, whole, _, begins⟩
  obtain ⟨more, rfl⟩ := begins.exists_eq
  exact List.append_ne_nil_of_right_ne_nil _ (List.cons_ne_nil _ _) whole.symm

theorem accessesFrom_append_of_inert {text : List Char} (nonempty : text ≠ [])
    (inert : ∀ c ∈ text, c ≠ '\\' ∧ c ≠ '$') (rest : List Char) :
    AccessesFrom escaped (text ++ rest) ↔ AccessesFrom false rest := by
  induction text generalizing escaped with
  | nil => exact (nonempty rfl).elim
  | cons c more ih =>
      obtain ⟨⟨notBackslash, notDollar⟩, others⟩ := List.forall_mem_cons.mp inert
      rw [List.cons_append, accessesFrom_cons_of_unmarked fun dollar => (notDollar dollar).elim,
        beq_eq_false_iff_ne.mpr notBackslash, Bool.and_false]
      by_cases last : more = []
      · rw [last, List.nil_append]
      · exact ih last others

theorem accessesFrom_escape (c : Char) (rest : List Char) :
    AccessesFrom false ('\\' :: c :: rest) ↔ AccessesFrom false rest := by
  have backslash : '\\' ≠ '$' := by decide
  rw [accessesFrom_cons_of_unmarked fun dollar => (backslash dollar).elim, accessesFrom_cons,
    or_iff_right]
  · rfl
  · rintro ⟨absurdity, _⟩
    cases absurdity

theorem accessesFrom_kept (notBackslash : c ≠ '\\')
    (unmarked : marksVariable c = true → rest.head? ≠ some '\x7B') :
    AccessesFrom false (c :: rest) ↔ AccessesFrom false rest := by
  have noVariable (dollar : c = '$') : rest.head? ≠ some '\x7B' := unmarked (dollar ▸ rfl)
  rw [accessesFrom_cons_of_unmarked noVariable, beq_eq_false_iff_ne.mpr notBackslash,
    Bool.and_false]

/-- Past its first character a variable has neither backslashes nor dollar signs. -/
theorem Variable.exists_inert (isVariable : Variable name value) :
    ∃ more, name = '$' :: more ∧ more ≠ [] ∧ ∀ c ∈ more, c ≠ '\\' ∧ c ≠ '$' := by
  cases isVariable with
  | empty => exact ⟨_, rfl, List.cons_ne_nil _ _, forall_mem_of_all (by decide)⟩
  | space => exact ⟨_, rfl, List.cons_ne_nil _ _, forall_mem_of_all (by decide)⟩
  | spaces count =>
      have whole : spacesVariable count =
          '$' :: (r"{SPACE * ".toList ++ (Nat.toDigits 10 count ++ ['\x7D'])) := by
        rw [← List.append_nil (spacesVariable count), spacesVariable_append]
        rfl
      refine ⟨_, whole, List.append_ne_nil_of_left_ne_nil (by decide) _, fun c member => ?_⟩
      rcases List.mem_append.mp member with opening | behind
      · exact forall_mem_of_all (p := fun c => c ≠ '\\' ∧ c ≠ '$') (by decide) c opening
      rcases List.mem_append.mp behind with digit | closing
      · have isDigit := Nat.isDigit_of_mem_toDigits (by decide) (by decide) digit
        exact ⟨ne_of_isDigit isDigit rfl, ne_of_isDigit isDigit rfl⟩
      · rw [List.mem_singleton.mp closing]
        decide

/-- A variable begins an item just when a bracket stands directly behind it. -/
theorem Variable.beginsItem_iff (isVariable : Variable name value) (rest : List Char) :
    BeginsItem (name ++ rest) ↔ rest.head? = some '[' := by
  constructor
  · rintro ⟨other, otherValue, back, otherVariable, same⟩
    have found := isVariable.readVariable? rest
    rw [same, otherVariable.readVariable?, Option.some.injEq, Prod.mk.injEq] at found
    rw [← found.2]
    rfl
  · intro bracket
    obtain ⟨back, rfl⟩ := List.head?_eq_some_iff.mp bracket
    exact ⟨name, value, back, isVariable, rfl⟩

theorem Variable.accessesFrom_iff (isVariable : Variable name value) (rest : List Char) :
    AccessesFrom false (name ++ rest) ↔ rest.head? = some '[' ∨ AccessesFrom false rest := by
  have begins := isVariable.beginsItem_iff rest
  obtain ⟨more, rfl, nonempty, inert⟩ := isVariable.exists_inert
  rw [← begins, List.cons_append, accessesFrom_cons, accessesFrom_append_of_inert nonempty inert]
  exact or_congr_left (and_iff_right rfl)

/-- What has no brackets cannot complete an item. -/
theorem accessesFrom_append_of_bracketless {front back : List Char} (bracketless : '[' ∉ back) :
    AccessesFrom escaped (front ++ back) ↔ AccessesFrom escaped front := by
  constructor
  · rintro ⟨before, _, whole, unescaped, name, value, behind, isVariable, rfl⟩
    rw [← List.append_assoc] at whole
    rcases List.append_eq_append_iff.mp whole with ⟨more, _, rfl⟩ | ⟨more, rfl, same⟩
    · exact (bracketless (List.mem_append_right _ List.mem_cons_self)).elim
    · cases more with
      | nil =>
          rw [List.nil_append] at same
          exact (bracketless (same ▸ List.mem_cons_self)).elim
      | cons c others =>
          obtain ⟨rfl, _⟩ := List.cons.inj same
          exact ⟨before, name ++ '[' :: others, List.append_assoc .., unescaped, name, value, others,
            isVariable, rfl⟩
  · rintro ⟨before, _, rfl, unescaped, name, value, behind, isVariable, rfl⟩
    exact ⟨before, name ++ '[' :: (behind ++ back), by simp, unescaped, name, value, _, isVariable,
      rfl⟩

/-! ## Items through the passes -/

theorem spaceRun_accessesFrom_iff (spaces : Nat) (rest : List Char) :
    AccessesFrom false (spaceRun spaces ++ rest) ↔
      (2 ≤ spaces ∧ rest.head? = some '[') ∨ AccessesFrom false rest := by
  unfold spaceRun
  split
  · rename_i few
    rw [or_iff_right fun several => absurd several.1 (Nat.not_le.mpr few)]
    cases spaces with
    | zero => rfl
    | succ fewer =>
        have inert : ∀ c ∈ List.replicate (fewer + 1) ' ', c ≠ '\\' ∧ c ≠ '$' := by
          intro c member
          rw [List.eq_of_mem_replicate member]
          decide
        exact accessesFrom_append_of_inert (List.cons_ne_nil _ _) inert rest
  · rename_i several
    rw [(Variable.spaces spaces).accessesFrom_iff, and_iff_right (Nat.not_lt.mp several)]

theorem infix_cons_of_ne {first : Char} {front : List Char} (other : c ≠ first) (rest : List Char) :
    first :: front <:+: c :: rest ↔ first :: front <:+: rest := by
  rw [List.infix_cons_iff, or_iff_right]
  intro begins
  exact other (List.cons_prefix_cons.mp begins).1.symm

/-- A bracket behind several spaces stands behind the spaces that come first, or later. -/
theorem infix_replicate_append_iff (spaces : Nat) (notSpace : c ≠ ' ') (rest : List Char) :
    [' ', ' ', '['] <:+: List.replicate spaces ' ' ++ c :: rest ↔
      (2 ≤ spaces ∧ c = '[') ∨ [' ', ' ', '['] <:+: rest := by
  induction spaces with
  | zero =>
      rw [List.replicate_zero, List.nil_append, infix_cons_of_ne notSpace, or_iff_right]
      exact fun several => absurd several.1 (by decide)
  | succ fewer ih =>
      have begins : [' ', '['] <+: List.replicate fewer ' ' ++ c :: rest ↔ fewer = 1 ∧ c = '[' := by
        match fewer with
        | 0 => simp [List.cons_prefix_cons, notSpace.symm]
        | 1 => simp [List.cons_prefix_cons, eq_comm]
        | several + 2 => simp [List.replicate_succ, List.cons_prefix_cons]
      have count : fewer = 1 ∨ 2 ≤ fewer ↔ 2 ≤ fewer + 1 := by omega
      rw [List.replicate_succ, List.cons_append, List.infix_cons_iff, List.cons_prefix_cons,
        and_iff_right rfl, begins, ih, ← or_assoc, ← or_and_right, count]

theorem head?_of_escapeRuns {spaces : Nat} {text : List Char} (solid : Solid c)
    (first : (escapeRuns spaces text).head? = some c) : text.head? = some c := by
  obtain ⟨more, isCons⟩ := List.head?_eq_some_iff.mp first
  have begins : [c] <+: escapeRuns spaces text := ⟨more, isCons.symm⟩
  obtain ⟨others, rfl⟩ := (prefix_of_prefix_escapeRuns (List.forall_mem_singleton.mpr solid)
    (List.cons_ne_nil _ _) begins).2
  rfl

/-- Runs of spaces become variables, so that a bracket behind several spaces accesses an item. -/
theorem escapeRuns_accessesFrom_iff {text : List Char} (spells : Spells false text value)
    (spaces : Nat) : AccessesFrom false (escapeRuns spaces text) ↔
      [' ', ' ', '['] <:+: List.replicate spaces ' ' ++ text := by
  induction spells generalizing spaces with
  | nil =>
      have bracketless : ¬ [' ', ' ', '['] <:+: List.replicate spaces ' ' ++ [] := by
        intro several
        have member := several.subset (show '[' ∈ [' ', ' ', '['] by decide)
        rw [List.append_nil] at member
        exact absurd (List.eq_of_mem_replicate member) (by decide)
      rw [escapeRuns, ← List.append_nil (spaceRun spaces), spaceRun_accessesFrom_iff]
      refine iff_of_false ?_ bracketless
      rintro (⟨_, absurdity⟩ | nothing)
      · cases absurdity
      · exact not_accessesFrom_nil nothing
  | @kept c rest value notBackslash unmarked later ih =>
      rw [escapeRuns]
      split
      · rename_i space
        rw [ih, beq_iff_eq.mp space, List.replicate_succ', List.append_assoc,
          List.singleton_append]
      · rename_i other
        have notSpace : c ≠ ' ' := fun space => other (beq_iff_eq.mpr space)
        have stays (marked : marksVariable c = true) : (escapeRuns 0 rest).head? ≠ some '\x7B' :=
          fun brace => unmarked marked (head?_of_escapeRuns (by decide) brace)
        rw [spaceRun_accessesFrom_iff, List.head?_cons, Option.some.injEq,
          accessesFrom_kept notBackslash stays, ih, infix_replicate_append_iff spaces notSpace,
          List.replicate_zero, List.nil_append]
  | @escaped c rest value printed notSpace later ih =>
      have other : ¬(c == ' ') = true := fun space => notSpace (beq_iff_eq.mp space)
      have backslash : '\\' ≠ ' ' := by decide
      have shown : escapeRuns spaces ('\\' :: c :: rest) =
          spaceRun spaces ++ '\\' :: c :: escapeRuns 0 rest := by
        rw [escapeRuns, if_neg (by decide), escapeRuns, if_neg other]
        rfl
      rw [shown, spaceRun_accessesFrom_iff, accessesFrom_escape, ih,
        infix_replicate_append_iff spaces backslash, infix_cons_of_ne notSpace, List.head?_cons,
        Option.some.injEq]
      rfl
  | named allowed => cases allowed

theorem escapeFirst_accessesFrom_iff (text : List Char) : AccessesFrom false (escapeFirst text) ↔
    [' ', '['] <+: text ∨ AccessesFrom false text := by
  unfold escapeFirst
  split
  · rename_i rest
    have passed : AccessesFrom false (' ' :: rest) ↔ AccessesFrom false rest :=
      accessesFrom_kept (by decide) (fun marked => by cases marked)
    have bracket : ['['] <+: rest ↔ rest.head? = some '[' := by
      cases rest <;> simp [List.cons_prefix_cons, eq_comm]
    rw [Variable.space.accessesFrom_iff, passed, List.cons_prefix_cons, and_iff_right rfl, bracket]
  · rename_i other
    rw [or_iff_right]
    rintro ⟨rest, rfl⟩
    exact other _ rfl

theorem escapeLast_accessesFrom_iff (text : List Char) :
    AccessesFrom false (escapeLast text) ↔ AccessesFrom false text := by
  unfold escapeLast
  split
  · rename_i last
    obtain ⟨front, rfl⟩ := List.getLast?_eq_some_iff.mp (beq_iff_eq.mp last)
    rw [List.dropLast_concat, accessesFrom_append_of_bracketless (by decide),
      accessesFrom_append_of_bracketless (by decide)]
  · rfl

theorem prefix_escapeRuns_iff (text : List Char) :
    [' ', '['] <+: escapeRuns 0 text ↔ [' ', '['] <+: text := by
  match text with
  | [] => rfl
  | [c] =>
      by_cases space : c = ' '
      · rw [space]
        rfl
      · have shown : escapeRuns 0 [c] = [c] := by
          rw [escapeRuns, if_neg (mt beq_iff_eq.mp space)]
          rfl
        rw [shown]
  | c :: d :: rest =>
      by_cases space : c = ' '
      · subst space
        by_cases another : d = ' '
        · subst another
          obtain ⟨more, several⟩ := exists_escapeRuns_of_several 0 rest
          have shown : escapeRuns 0 (' ' :: ' ' :: rest) = '$' :: '\x7B' :: more := several
          rw [shown]
          simp [List.cons_prefix_cons]
        · rw [escapeRuns_space_cons another]
          simp [List.cons_prefix_cons]
      · have shown : escapeRuns 0 (c :: d :: rest) = c :: escapeRuns 0 (d :: rest) := by
          rw [escapeRuns.eq_2, if_neg (mt beq_iff_eq.mp space)]
          rfl
        rw [shown]
        simp [List.cons_prefix_cons, Ne.symm space]

/-! ## Signs and spaces -/

/-- In a text whose signs are escaped, every space stands for one of the argument. -/
theorem Spells.split_space {first second : List Char}
    (spells : Spells false (first ++ ' ' :: second) value) :
    ∃ front back, value = front ++ ' ' :: back ∧ Spells false second back := by
  generalize whole : first ++ ' ' :: second = text at spells
  induction spells generalizing first with
  | nil => simp at whole
  | @kept c rest value notBackslash unmarked later ih =>
      cases first with
      | nil =>
          obtain ⟨rfl, rfl⟩ := List.cons.inj whole
          exact ⟨[], value, rfl, later⟩
      | cons d more =>
          obtain ⟨rfl, rfl⟩ := List.cons.inj whole
          obtain ⟨front, back, rfl, behind⟩ := ih rfl
          exact ⟨d :: front, back, rfl, behind⟩
  | @escaped c rest value printed notSpace later ih =>
      match first with
      | [] => cases whole
      | [_] => exact (notSpace (List.cons.inj (List.cons.inj whole).2).1.symm).elim
      | _ :: d :: more =>
          obtain ⟨rfl, rfl⟩ := List.cons.inj (List.cons.inj whole).2
          obtain ⟨front, back, rfl, behind⟩ := ih rfl
          exact ⟨unescaped d :: front, back, rfl, behind⟩
  | named allowed => cases allowed

theorem infix_escapeSigns_iff (value : List Char) :
    [' ', ' ', '['] <:+: escapeSigns value ↔ [' ', ' ', '['] <:+: value := by
  constructor
  · rintro ⟨first, second, whole⟩
    have spells : Spells false (escapeSigns value) value := escapeSigns_spells value
    rw [← whole, List.append_assoc, List.cons_append] at spells
    obtain ⟨front, rest, rfl, behindFirst⟩ := spells.split_space
    obtain ⟨_, rfl, behindSecond⟩ := behindFirst.of_cons (by decide) (by decide)
    obtain ⟨back, rfl, _⟩ := behindSecond.of_cons (by decide) (by decide)
    exact ⟨front, back, by rw [List.append_assoc, List.cons_append]; rfl⟩
  · rintro ⟨front, back, rfl⟩
    have cut := escapeSigns_append (.inr rfl) front (' ' :: '[' :: back)
    refine ⟨escapeSigns front, escapeMarks back, ?_⟩
    rw [List.append_assoc, List.append_assoc]
    exact cut.symm

theorem prefix_escapeSigns_iff (value : List Char) :
    [' ', '['] <+: escapeSigns value ↔ [' ', '['] <+: value := by
  constructor
  · rintro ⟨rest, whole⟩
    have spells : Spells false (escapeSigns value) value := escapeSigns_spells value
    rw [← whole] at spells
    obtain ⟨_, rfl, behind⟩ := spells.of_cons (by decide) (by decide)
    obtain ⟨back, rfl, _⟩ := behind.of_cons (by decide) (by decide)
    exact ⟨back, rfl⟩
  · rintro ⟨back, rfl⟩
    exact ⟨escapeMarks back, (escapeSigns_append (.inr rfl) [] ('[' :: back)).symm⟩

/-! ## Cells for arguments -/

theorem accessesItem_escape_iff (value : List Char) :
    AccessesItem (escape value) ↔ BracketPastSpaces value := by
  rw [accessesItem_iff]
  by_cases empty : value = []
  · subst empty
    have itemless : ¬ AccessesFrom false (escape []) := by
      have nothing := (Variable.empty.accessesFrom_iff []).not.mpr
        (not_or_intro (by decide) not_accessesFrom_nil)
      rwa [List.append_nil] at nothing
    exact iff_of_false itemless (by decide)
  · rw [escape_of_ne_nil empty, escapeLast_accessesFrom_iff, escapeFirst_accessesFrom_iff,
      escapeRuns_accessesFrom_iff (escapeSigns_spells value), prefix_escapeRuns_iff,
      prefix_escapeSigns_iff, List.replicate_zero, List.nil_append, infix_escapeSigns_iff]
    rfl

/-- **Which cells access items.** A space at the start of an argument and several spaces side by
side become variables. The cell accesses an item of one just when the argument has a bracket
directly behind these spaces, and denotes the argument just when it has none there. -/
theorem ofArgument_accessesItem_iff (value : String) :
    (AccessesItem (ofArgument value).toList ↔ BracketPastSpaces value.toList) ∧
      (Denotes (ofArgument value).toList value.toList ↔ ¬ BracketPastSpaces value.toList) := by
  rw [ofArgument, String.toList_ofList]
  have items := accessesItem_escape_iff value.toList
  refine ⟨items, ?_, ?_⟩
  · rintro ⟨_, itemless⟩
    exact items.not.mp itemless
  · intro bracketless
    exact ⟨(escape_spells value.toList).read, items.not.mpr bracketless⟩

/-- An index behind a space is taken for an index into the space. -/
theorem ofArgument_leading_space_index :
    ofArgument " [0]" = r"${SPACE}[0]" ∧ AccessesItem (ofArgument " [0]").toList ∧
      ¬ Denotes (ofArgument " [0]").toList " [0]".toList := by
  have indexed : AccessesItem r"${SPACE}[0]".toList :=
    ⟨[], _, rfl, by decide, _, _, _, .space, rfl⟩
  have cell : ofArgument " [0]" = r"${SPACE}[0]" := by decide +kernel
  rw [cell]
  exact ⟨rfl, indexed, fun denotes => denotes.itemless indexed⟩

end ScreenedSuite.Cell
