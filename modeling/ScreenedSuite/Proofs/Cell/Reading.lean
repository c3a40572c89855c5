import ScreenedSuite.Proofs.Cell.Plain

/-! # Reading cells

A cell is read from left to right: a backslash gives the character behind it or a control, a
variable gives spaces or nothing, and every other character stands for itself
(`ScreenedSuite.Cell.read`). The cell for an argument is read back as the argument, and none of it
is taken for a comment or the name of an argument (`ScreenedSuite.Cell.ofArgument_readsBack`).

Between the passes of the escaping, a text is related to its value (`ScreenedSuite.Cell.Spells`);
each pass keeps the value.
-/

namespace ScreenedSuite.Cell

/-- What a character means behind a backslash. -/
def unescaped (c : Char) : Char :=
  if c = 'n' then '\n' else if c = 'r' then '\r' else if c = 't' then '\t' else c

/-- The value of the variable that a text begins with, and the text behind it. Only an empty text
and spaces have variables. -/
def readVariable? (text : List Char) : Option (List Char × List Char) :=
  if r"${EMPTY}".toList.isPrefixOf text then some ([], text.drop 8)
  else if r"${SPACE}".toList.isPrefixOf text then some ([' '], text.drop 8)
  else if r"${SPACE * ".toList.isPrefixOf text then
    match (text.drop 10).takeWhile (·.isDigit), (text.drop 10).dropWhile (·.isDigit) with
    | digit :: digits, '\x7D' :: rest =>
      some (List.replicate (Nat.ofDigitChars 10 (digit :: digits) 0) ' ', rest)
    | _, _ => none
  else none

theorem length_lt_of_readVariable? {text value rest : List Char}
    (found : readVariable? text = some (value, rest)) : rest.length < text.length := by
  have shorter (opening : String) (begins : opening.toList.isPrefixOf text = true)
      (nonempty : 0 < opening.toList.length) (count : Nat) (positive : 0 < count) :
      (text.drop count).length < text.length := by
    have fits := (List.isPrefixOf_iff_prefix.mp begins).length_le
    rw [List.length_drop]
    omega
  unfold readVariable? at found
  split at found
  · rename_i begins
    cases found
    exact shorter _ begins (by decide) 8 (by decide)
  split at found
  · rename_i begins
    cases found
    exact shorter _ begins (by decide) 8 (by decide)
  split at found
  · rename_i begins
    split at found
    · rename_i closed
      cases found
      have whole := (List.dropWhile_suffix (l := text.drop 10) (·.isDigit)).length_le
      rw [closed, List.length_cons] at whole
      have := shorter _ begins (by decide) 10 (by decide)
      omega
    · cases found
  · cases found

/-- The value of a cell, if it has no other variables. -/
def read : List Char → Option (List Char)
  | [] => some []
  | '\\' :: c :: rest => (read rest).map (unescaped c :: ·)
  | c :: rest =>
    if marksVariable c && rest.head? == some '\x7B' then
      match found : readVariable? (c :: rest) with
      | none => none
      | some (value, after) =>
        have := length_lt_of_readVariable? found
        (read after).map (value ++ ·)
    else
      (read rest).map (c :: ·)
termination_by text => text.length
decreasing_by
  · exact Nat.lt_succ_of_lt (Nat.lt_succ_self _)
  · assumption
  · exact Nat.lt_succ_self _

/-! ## Values of texts -/

/-- Variables and their values. -/
inductive Variable : List Char → List Char → Prop
  | empty : Variable r"${EMPTY}".toList []
  | space : Variable spaceVariable [' ']
  | spaces (count : Nat) : Variable (spacesVariable count) (List.replicate count ' ')

theorem Variable.begins {name value : List Char} (isVariable : Variable name value) :
    ∃ more, name = '$' :: '\x7B' :: more := by
  cases isVariable with
  | empty => exact ⟨_, rfl⟩
  | space => exact ⟨_, rfl⟩
  | spaces count => exact ⟨_, rfl⟩

theorem Variable.getLast? {name value : List Char} (isVariable : Variable name value) :
    name.getLast? = some '\x7D' := by
  cases isVariable with
  | empty => rfl
  | space => rfl
  | spaces count =>
      unfold spacesVariable
      rw [List.getLast?_append_of_ne_nil _ (by decide)]
      rfl

theorem Variable.printable {name value : List Char} (isVariable : Variable name value) :
    ∀ c ∈ name, Printable c := by
  cases isVariable with
  | empty => exact forall_mem_of_all (by decide)
  | space => exact forall_mem_of_all (by decide)
  | spaces count => exact fun c => printable_of_mem_spacesVariable

theorem spacesVariable_append (count : Nat) (rest : List Char) :
    spacesVariable count ++ rest =
      r"${SPACE * ".toList ++ (Nat.toDigits 10 count ++ '\x7D' :: rest) := by
  have digits : (toString count).toList = Nat.toDigits 10 count := by
    rw [Nat.toString_eq_ofList_toDigits, String.toList_ofList]
  unfold spacesVariable
  -- the characters of the literal are in the way of the rewriting
  generalize r"${SPACE * ".toList = opening
  rw [digits, List.append_assoc, List.append_assoc]
  rfl

theorem readVariable?_number {number digits rest : List Char} (nonempty : digits ≠ [])
    (taken : number.takeWhile (·.isDigit) = digits)
    (dropped : number.dropWhile (·.isDigit) = '\x7D' :: rest) :
    readVariable? (r"${SPACE * ".toList ++ number) =
      some (List.replicate (Nat.ofDigitChars 10 digits 0) ' ', rest) := by
  have notEmpty : ¬ r"${EMPTY}".toList.isPrefixOf (r"${SPACE * ".toList ++ number) = true :=
    ne_true_of_eq_false rfl
  have notSingle : ¬ r"${SPACE}".toList.isPrefixOf (r"${SPACE * ".toList ++ number) = true :=
    ne_true_of_eq_false rfl
  have opens : r"${SPACE * ".toList.isPrefixOf (r"${SPACE * ".toList ++ number) = true := rfl
  have behind : (r"${SPACE * ".toList ++ number).drop 10 = number := rfl
  obtain ⟨digit, more, rfl⟩ := List.exists_cons_of_ne_nil nonempty
  rw [readVariable?, if_neg notEmpty, if_neg notSingle, if_pos opens, behind, taken, dropped]
  rfl

theorem readVariable?_spacesVariable (count : Nat) (rest : List Char) :
    readVariable? (spacesVariable count ++ rest) = some (List.replicate count ' ', rest) := by
  have isDigit : ∀ c ∈ Nat.toDigits 10 count, c.isDigit = true := fun c member =>
    Nat.isDigit_of_mem_toDigits (by decide) (by decide) member
  have value : Nat.ofDigitChars 10 (Nat.toDigits 10 count) 0 = count :=
    Nat.ofDigitChars_toDigits (by decide) (by decide)
  rw [spacesVariable_append, readVariable?_number Nat.toDigits_ne_nil _ _, value]
  · rw [List.takeWhile_append_of_pos isDigit, List.takeWhile_cons_of_neg (by decide),
      List.append_nil]
  · rw [List.dropWhile_append_of_pos isDigit, List.dropWhile_cons_of_neg (by decide)]

theorem Variable.readVariable? {name value : List Char} (isVariable : Variable name value)
    (rest : List Char) : readVariable? (name ++ rest) = some (value, rest) := by
  cases isVariable with
  | empty => rfl
  | space => rfl
  | spaces count => exact readVariable?_spacesVariable count rest

/-- A text that is read as a value, with or without variables in it. What stands behind a backslash
is printable but no space, so that a run of spaces can be replaced as a whole. -/
inductive Spells (withVariables : Bool) : List Char → List Char → Prop
  | nil : Spells withVariables [] []
  | kept {c : Char} {rest value : List Char} (unescaped : c ≠ '\\')
      (unmarked : marksVariable c = true → rest.head? ≠ some '\x7B')
      (later : Spells withVariables rest value) : Spells withVariables (c :: rest) (c :: value)
  | escaped {c : Char} {rest value : List Char} (printed : Printable c) (notSpace : c ≠ ' ')
      (later : Spells withVariables rest value) :
      Spells withVariables ('\\' :: c :: rest) (unescaped c :: value)
  | named {name value rest after : List Char} (allowed : withVariables = true)
      (isVariable : Variable name value) (later : Spells withVariables rest after) :
      Spells withVariables (name ++ rest) (value ++ after)

variable {withVariables : Bool}

theorem read_cons_of_unmarked {c : Char} {rest : List Char} (unescaped : c ≠ '\\')
    (unmarked : marksVariable c = true → rest.head? ≠ some '\x7B') :
    read (c :: rest) = (read rest).map (c :: ·) := by
  have noVariable : ¬(marksVariable c && rest.head? == some '\x7B') = true := by
    rw [Bool.and_eq_true, beq_iff_eq]
    exact fun both => unmarked both.1 both.2
  rw [read, if_neg noVariable]
  intro d more backslash
  exact (unescaped backslash).elim

theorem read_variable {name value : List Char} (isVariable : Variable name value)
    (rest : List Char) : read (name ++ rest) = (read rest).map (value ++ ·) := by
  have found := isVariable.readVariable? rest
  obtain ⟨more, rfl⟩ := isVariable.begins
  rw [List.cons_append, List.cons_append] at found ⊢
  have marked : (marksVariable '$' && ('\x7B' :: (more ++ rest)).head? == some '\x7B') = true := rfl
  rw [read, if_pos marked]
  · split
    · rename_i missing
      rw [found] at missing
      cases missing
    · rename_i other
      rw [found] at other
      cases other
      rfl
  · intro d rest backslash
    cases backslash

theorem Spells.read {text value : List Char} (spells : Spells withVariables text value) :
    read text = some value := by
  induction spells with
  | nil => rw [Cell.read]
  | kept unescaped unmarked _ ih =>
      rw [read_cons_of_unmarked unescaped unmarked, ih]
      rfl
  | escaped _ _ _ ih =>
      rw [Cell.read, ih]
      rfl
  | named _ isVariable _ ih =>
      rw [read_variable isVariable, ih]
      rfl

/-- A first character that begins neither an escape nor a variable stands for itself. -/
theorem Spells.of_cons {c : Char} {rest value : List Char}
    (spells : Spells withVariables (c :: rest) value) (unescaped : c ≠ '\\') (unnamed : c ≠ '$') :
    ∃ later, value = c :: later ∧ Spells withVariables rest later := by
  generalize whole : c :: rest = text at spells
  cases spells with
  | nil => cases whole
  | kept _ _ later =>
      cases whole
      exact ⟨_, rfl, later⟩
  | escaped =>
      cases whole
      exact (unescaped rfl).elim
  | named _ isVariable =>
      obtain ⟨more, rfl⟩ := isVariable.begins
      cases whole
      exact (unnamed rfl).elim

/-! ## Values through the passes -/

theorem head?_escapeMarks {text : List Char} (brace : (escapeMarks text).head? = some '\x7B') :
    text.head? = some '\x7B' := by
  cases text with
  | nil => cases brace
  | cons c rest =>
      rw [escapeMarks_cons] at brace
      unfold escapeMark at brace
      split_ifs at brace
      · cases brace
      · cases brace
      · cases brace
      · cases brace
      · cases brace
      · exact brace

theorem escapeMark_of_kept {c : Char} (notBackslash : c ≠ '\\') (notLineFeed : c ≠ '\n')
    (notReturn : c ≠ '\r') (notTab : c ≠ '\t') (unmarked : marksVariable c = false)
    (next : Option Char) : escapeMark next c = [c] := by
  unfold escapeMark
  rw [if_neg notBackslash, if_neg notLineFeed, if_neg notReturn, if_neg notTab, unmarked,
    Bool.false_and, if_neg Bool.false_ne_true]

theorem escapeMarks_spells (text : List Char) : Spells withVariables (escapeMarks text) text := by
  induction text with
  | nil => exact .nil
  | cons c rest ih =>
      rw [escapeMarks_cons]
      unfold escapeMark
      split_ifs with backslash lineFeed carriageReturn tab marked
      · rw [backslash]
        exact .escaped (by decide) (by decide) ih
      · rw [lineFeed]
        exact .escaped (by decide) (by decide) ih
      · rw [carriageReturn]
        exact .escaped (by decide) (by decide) ih
      · rw [tab]
        exact .escaped (by decide) (by decide) ih
      · rw [Bool.and_eq_true, beq_iff_eq] at marked
        have itself : unescaped c = c ∧ Printable c ∧ c ≠ ' ' := by
          have sign := marked.1
          simp only [marksVariable, Bool.or_eq_true, beq_iff_eq] at sign
          rcases sign with ((rfl | rfl) | rfl) | rfl <;> decide
        have spells := Spells.escaped itself.2.1 itself.2.2 ih
        rwa [itself.1] at spells
      · rw [Bool.and_eq_true, beq_iff_eq, not_and] at marked
        exact .kept backslash (fun sign brace => marked sign (head?_escapeMarks brace)) ih

theorem escapeComment_spells {text value : List Char} (spells : Spells withVariables text value) :
    Spells withVariables (escapeComment text) value := by
  unfold escapeComment
  split
  · obtain ⟨later, rfl, rest⟩ := spells.of_cons (by decide) (by decide)
    exact .escaped (by decide) (by decide) rest
  · exact spells

/-- Whether a text can be the name of an argument. -/
def isName : List Char → Bool
  | [] => false
  | c :: rest => startsName c && rest.all continuesName

/-- A text that is read as a named argument. -/
def NamesArgument (text : List Char) : Prop :=
  ∃ name value, isName name = true ∧ text = name ++ '=' :: value

theorem continuesName_of_isName {name : List Char} (nameOf : isName name = true) :
    ∀ c ∈ name, continuesName c = true := by
  cases name with
  | nil => cases nameOf
  | cons c rest =>
      rw [isName, Bool.and_eq_true, startsName, Bool.or_eq_true, List.all_eq_true] at nameOf
      refine List.forall_mem_cons.mpr ⟨?_, nameOf.2⟩
      rw [continuesName, Bool.or_eq_true, Char.isAlphanum]
      exact nameOf.1.imp_left fun alpha => by rw [alpha, Bool.true_or]

/-- In a text that is read as a named argument, the sign behind the name is escaped. -/
theorem escapeNamed_of_isName {name : List Char} (isName : isName name = true)
    (value : List Char) : escapeNamed (name ++ '=' :: value) = name ++ '\\' :: '=' :: value := by
  cases name with
  | nil => cases isName
  | cons c rest =>
      rw [Cell.isName, Bool.and_eq_true, List.all_eq_true] at isName
      rw [List.cons_append, escapeNamed, if_pos isName.1,
        List.dropWhile_append_of_pos isName.2, List.dropWhile_cons_of_neg (by decide),
        List.takeWhile_append_of_pos isName.2, List.takeWhile_cons_of_neg (by decide),
        List.append_nil]
      rfl

/-- Any other text is left as it is. -/
theorem escapeNamed_of_not_namesArgument {text : List Char} (unnamed : ¬ NamesArgument text) :
    escapeNamed text = text := by
  cases text with
  | nil => rfl
  | cons c rest =>
      rw [escapeNamed]
      split
      · rename_i starts
        split
        · rename_i value found
          refine (unnamed ⟨c :: rest.takeWhile continuesName, value, ?_, ?_⟩).elim
          · rw [isName, starts, Bool.true_and]
            exact List.all_takeWhile
          · rw [List.cons_append, ← found, List.takeWhile_append_dropWhile]
        · rfl
      · rfl

/-- Neither a space nor the beginning of a variable for spaces. -/
def Solid (c : Char) : Prop :=
  c ≠ ' ' ∧ c ≠ '$'

instance : DecidablePred Solid :=
  fun c => inferInstanceAs (Decidable (c ≠ ' ' ∧ c ≠ '$'))

theorem ne_of_continuesName {c d : Char} (continues : continuesName c = true)
    (sign : continuesName d = false) : c ≠ d := by
  rintro rfl
  rw [sign] at continues
  cases continues

theorem solid_of_continuesName {c : Char} (continues : continuesName c = true) : Solid c :=
  ⟨ne_of_continuesName continues rfl, ne_of_continuesName continues rfl⟩

theorem marksVariable_of_continuesName {c : Char} (continues : continuesName c = true) :
    marksVariable c = false := by
  simp only [marksVariable, Bool.or_eq_false_iff, beq_eq_false_iff_ne]
  exact ⟨⟨⟨ne_of_continuesName continues rfl, ne_of_continuesName continues rfl⟩,
    ne_of_continuesName continues rfl⟩, ne_of_continuesName continues rfl⟩

theorem Spells.escape_equals {name rest value : List Char}
    (continues : ∀ c ∈ name, continuesName c = true)
    (spells : Spells withVariables (name ++ '=' :: rest) value) :
    Spells withVariables (name ++ '\\' :: '=' :: rest) value := by
  induction name generalizing value with
  | nil =>
      obtain ⟨later, rfl, rest⟩ := spells.of_cons (by decide) (by decide)
      exact .escaped (by decide) (by decide) rest
  | cons c more ih =>
      obtain ⟨first, others⟩ := List.forall_mem_cons.mp continues
      have notBackslash : c ≠ '\\' := ne_of_continuesName first rfl
      obtain ⟨later, rfl, rest⟩ := spells.of_cons notBackslash (solid_of_continuesName first).2
      refine .kept notBackslash (fun marked => ?_) (ih others rest)
      rw [marksVariable_of_continuesName first] at marked
      cases marked

theorem escapeNamed_spells {text value : List Char} (spells : Spells withVariables text value) :
    Spells withVariables (escapeNamed text) value := by
  by_cases named : NamesArgument text
  · obtain ⟨name, rest, isName, rfl⟩ := named
    rw [escapeNamed_of_isName isName]
    exact spells.escape_equals (continuesName_of_isName isName)
  · rw [escapeNamed_of_not_namesArgument named]
    exact spells

theorem escapeSigns_spells (text : List Char) : Spells withVariables (escapeSigns text) text :=
  escapeNamed_spells (escapeComment_spells (escapeMarks_spells text))

/-! ## Spaces

What comes before the first space or dollar sign of a cell came first before its spaces were
escaped. -/

/-- What is escaped in a nonempty argument after its signs. -/
def escapeSpaces (text : List Char) : List Char :=
  escapeLast (escapeFirst (escapeRuns 0 text))

theorem exists_spaceRun {count : Nat} (spaces : 0 < count) :
    ∃ c rest, spaceRun count = c :: rest ∧ ¬ Solid c := by
  unfold spaceRun
  split
  · obtain ⟨fewer, rfl⟩ := Nat.exists_eq_add_of_le' spaces
    exact ⟨' ', _, rfl, fun solid => solid.1 rfl⟩
  · exact ⟨'$', _, rfl, fun solid => solid.2 rfl⟩

theorem prefix_of_prefix_escapeRuns {front text : List Char} {spaces : Nat}
    (solid : ∀ c ∈ front, Solid c) (nonempty : front ≠ [])
    (begins : front <+: escapeRuns spaces text) : spaces = 0 ∧ front <+: text := by
  have noSpaces {front more : List Char} {spaces : Nat} (solid : ∀ c ∈ front, Solid c)
      (nonempty : front ≠ []) (begins : front <+: spaceRun spaces ++ more) : spaces = 0 := by
    by_contra some
    obtain ⟨c, rest, isCons, notSolid⟩ := exists_spaceRun (Nat.pos_of_ne_zero some)
    obtain ⟨first, others, rfl⟩ := List.exists_cons_of_ne_nil nonempty
    rw [isCons, List.cons_append, List.cons_prefix_cons] at begins
    exact notSolid (begins.1 ▸ solid first List.mem_cons_self)
  induction text generalizing front spaces with
  | nil =>
      rw [escapeRuns, ← List.append_nil (spaceRun spaces)] at begins
      have none := noSpaces solid nonempty begins
      subst none
      exact ⟨rfl, begins⟩
  | cons c rest ih =>
      rw [escapeRuns] at begins
      split at begins
      · cases (ih solid nonempty begins).1
      · have none := noSpaces solid nonempty begins
        subst none
        obtain ⟨first, others, rfl⟩ := List.exists_cons_of_ne_nil nonempty
        obtain ⟨rfl, later⟩ := List.cons_prefix_cons.mp begins
        refine ⟨rfl, List.cons_prefix_cons.mpr ⟨rfl, ?_⟩⟩
        by_cases last : others = []
        · rw [last]
          exact List.nil_prefix
        · exact (ih (fun d member => solid d (List.mem_cons_of_mem _ member)) last later).2

theorem prefix_of_prefix_escapeFirst {front text : List Char} (solid : ∀ c ∈ front, Solid c)
    (nonempty : front ≠ []) (begins : front <+: escapeFirst text) : front <+: text := by
  unfold escapeFirst at begins
  split at begins
  · obtain ⟨first, others, rfl⟩ := List.exists_cons_of_ne_nil nonempty
    have dollar : first = '$' := (List.cons_prefix_cons.mp begins).1
    exact ((solid first List.mem_cons_self).2 dollar).elim
  · exact begins

theorem prefix_of_prefix_append {front text added : List Char} {c : Char} (absent : c ∉ front)
    (begins : front <+: text ++ c :: added) : front <+: text := by
  rcases List.prefix_or_prefix_of_prefix begins (List.prefix_append text _) with shorter | ⟨more, rfl⟩
  · exact shorter
  · rw [List.prefix_append_right_inj] at begins
    cases more with
    | nil => exact ⟨[], by rw [List.append_nil, List.append_nil]⟩
    | cons d others =>
        rw [(List.cons_prefix_cons.mp begins).1] at absent
        exact (absent (List.mem_append_right _ List.mem_cons_self)).elim

theorem prefix_of_prefix_escapeLast {front text : List Char} (solid : ∀ c ∈ front, Solid c)
    (begins : front <+: escapeLast text) : front <+: text := by
  unfold escapeLast at begins
  split at begins
  · have dollar : '$' ∉ front := fun member => (solid _ member).2 rfl
    exact (prefix_of_prefix_append dollar begins).trans (List.dropLast_prefix text)
  · exact begins

theorem prefix_of_prefix_escapeSpaces {front text : List Char} (solid : ∀ c ∈ front, Solid c)
    (nonempty : front ≠ []) (begins : front <+: escapeSpaces text) : front <+: text :=
  (prefix_of_prefix_escapeRuns solid nonempty
    (prefix_of_prefix_escapeFirst solid nonempty (prefix_of_prefix_escapeLast solid begins))).2

/-! The values of texts whose spaces are escaped. -/

theorem spaceRun_spells (count : Nat) {rest value : List Char} (spells : Spells true rest value) :
    Spells true (spaceRun count ++ rest) (List.replicate count ' ' ++ value) := by
  unfold spaceRun
  split
  · rename_i few
    rcases Nat.lt_succ_iff_lt_or_eq.mp few with none | rfl
    · rw [Nat.lt_one_iff.mp none]
      exact spells
    · exact .kept (by decide) (fun marked => by cases marked) spells
  · exact .named rfl (.spaces count) spells

theorem escapeRuns_spells {text value : List Char} (spells : Spells false text value)
    (count : Nat) : Spells true (escapeRuns count text) (List.replicate count ' ' ++ value) := by
  induction spells generalizing count with
  | nil =>
      rw [escapeRuns, ← List.append_nil (spaceRun count)]
      exact spaceRun_spells count .nil
  | kept unescaped unmarked later ih =>
      rename_i c rest value
      rw [escapeRuns]
      split
      · rename_i space
        have spells := ih (count + 1)
        rw [List.replicate_succ', List.append_assoc, List.singleton_append] at spells
        rw [beq_iff_eq.mp space]
        exact spells
      · refine spaceRun_spells count (.kept unescaped (fun marked brace => ?_) (ih 0))
        obtain ⟨more, isCons⟩ := List.head?_eq_some_iff.mp brace
        have begins : ['\x7B'] <+: escapeRuns 0 rest := ⟨more, isCons.symm⟩
        obtain ⟨others, rfl⟩ :=
          (prefix_of_prefix_escapeRuns (forall_mem_of_all (by decide)) (List.cons_ne_nil _ _)
            begins).2
        exact unmarked marked rfl
  | escaped printed notSpace later ih =>
      rename_i c rest value
      have other : ¬(c == ' ') = true := fun space => notSpace (beq_iff_eq.mp space)
      have spells := spaceRun_spells count (.escaped printed notSpace (ih 0))
      rw [escapeRuns, if_neg (by decide), escapeRuns, if_neg other]
      exact spells
  | named allowed => cases allowed

theorem escapeFirst_spells {text value : List Char} (spells : Spells true text value) :
    Spells true (escapeFirst text) value := by
  unfold escapeFirst
  split
  · obtain ⟨later, rfl, rest⟩ := spells.of_cons (by decide) (by decide)
    exact .named rfl .space rest
  · exact spells

/-- A space at the end of a text is one at the end of its value, and a variable can take its
place. -/
theorem Spells.replace_last {text value : List Char} (spells : Spells true text value)
    (last : text.getLast? = some ' ') :
    ∃ front, value = front ++ [' '] ∧ Spells true (text.dropLast ++ spaceVariable) value := by
  induction spells with
  | nil => cases last
  | kept unescaped unmarked later ih =>
      rename_i c rest value
      cases rest with
      | nil =>
          cases last
          have none : value = [] := Option.some.inj (later.read.symm.trans (by rw [Cell.read]))
          rw [none]
          exact ⟨[], rfl, .named rfl .space .nil⟩
      | cons d more =>
          rw [List.getLast?_cons_cons] at last
          obtain ⟨front, rfl, spells⟩ := ih last
          refine ⟨c :: front, rfl, .kept unescaped (fun marked => ?_) spells⟩
          have other := unmarked marked
          cases more with
          | nil =>
              change spaceVariable.head? ≠ some '\x7B'
              decide
          | cons e others => exact other
  | escaped printed notSpace later ih =>
      rename_i c rest value
      cases rest with
      | nil =>
          cases last
          exact (notSpace rfl).elim
      | cons d more =>
          rw [List.getLast?_cons_cons, List.getLast?_cons_cons] at last
          obtain ⟨front, rfl, spells⟩ := ih last
          exact ⟨unescaped c :: front, rfl, .escaped printed notSpace spells⟩
  | named allowed isVariable later ih =>
      rename_i name value rest after
      cases rest with
      | nil =>
          rw [List.append_nil, isVariable.getLast?] at last
          cases last
      | cons d more =>
          rw [List.getLast?_append_of_ne_nil _ (List.cons_ne_nil _ _)] at last
          obtain ⟨front, rfl, spells⟩ := ih last
          rw [List.dropLast_append_of_ne_nil (List.cons_ne_nil _ _), List.append_assoc]
          exact ⟨value ++ front, (List.append_assoc ..).symm, .named rfl isVariable spells⟩

theorem escapeLast_spells {text value : List Char} (spells : Spells true text value) :
    Spells true (escapeLast text) value := by
  unfold escapeLast
  split
  · rename_i last
    obtain ⟨front, _, replaced⟩ := spells.replace_last (beq_iff_eq.mp last)
    exact replaced
  · exact spells

theorem escapeSpaces_spells {text value : List Char} (spells : Spells false text value) :
    Spells true (escapeSpaces text) value :=
  escapeLast_spells (escapeFirst_spells (escapeRuns_spells spells 0))

/-! ## Cells for arguments -/

theorem escape_spells (text : List Char) : Spells true (escape text) text := by
  by_cases empty : text = []
  · subst empty
    exact .named rfl .empty .nil
  · rw [escape_of_ne_nil empty]
    exact escapeSpaces_spells (escapeSigns_spells text)

/-- The passes over signs leave neither a comment nor a named argument. -/
theorem head?_escapeComment (text : List Char) : (escapeComment text).head? ≠ some '#' := by
  unfold escapeComment
  split
  · rw [List.head?_cons]
    decide
  · rename_i other
    intro sign
    obtain ⟨rest, rfl⟩ := List.head?_eq_some_iff.mp sign
    exact other rest rfl

theorem head?_escapeNamed (text : List Char) : (escapeNamed text).head? = text.head? := by
  cases text with
  | nil => rfl
  | cons c rest =>
      rw [escapeNamed]
      split
      · split
        · rfl
        · rfl
      · rfl

theorem not_namesArgument_escapeNamed (text : List Char) : ¬ NamesArgument (escapeNamed text) := by
  by_cases named : NamesArgument text
  · obtain ⟨name, value, nameOf, rfl⟩ := named
    rw [escapeNamed_of_isName nameOf]
    rintro ⟨other, rest, otherOf, same⟩
    have behind := congrArg (List.dropWhile continuesName) same
    rw [List.dropWhile_append_of_pos (continuesName_of_isName nameOf),
      List.dropWhile_append_of_pos (continuesName_of_isName otherOf),
      List.dropWhile_cons_of_neg (by decide), List.dropWhile_cons_of_neg (by decide)] at behind
    cases behind
  · rw [escapeNamed_of_not_namesArgument named]
    exact named

theorem head?_escape (text : List Char) : (escape text).head? ≠ some '#' := by
  by_cases empty : text = []
  · subst empty
    decide
  · rw [escape_of_ne_nil empty]
    intro sign
    obtain ⟨rest, isCons⟩ := List.head?_eq_some_iff.mp sign
    have begins : ['#'] <+: escapeSpaces (escapeSigns text) := ⟨rest, isCons.symm⟩
    obtain ⟨more, signs⟩ :=
      prefix_of_prefix_escapeSpaces (forall_mem_of_all (by decide)) (List.cons_ne_nil _ _) begins
    have first := head?_escapeNamed (escapeComment (escapeMarks text))
    rw [← escapeSigns, ← signs] at first
    exact head?_escapeComment _ first.symm

theorem not_namesArgument_escape (text : List Char) : ¬ NamesArgument (escape text) := by
  by_cases empty : text = []
  · subst empty
    rintro ⟨name, value, nameOf, same⟩
    cases name with
    | nil => cases nameOf
    | cons c rest =>
        have dollar : '$' = c := (List.cons.inj same).1
        have starts := continuesName_of_isName nameOf c List.mem_cons_self
        rw [← dollar] at starts
        cases starts
  · rw [escape_of_ne_nil empty]
    rintro ⟨name, value, nameOf, same⟩
    have solid : ∀ c ∈ name ++ ['='], Solid c := by
      intro c member
      rcases List.mem_append.mp member with inName | sign
      · exact solid_of_continuesName (continuesName_of_isName nameOf c inName)
      · rw [List.mem_singleton.mp sign]
        decide
    have begins : name ++ ['='] <+: escapeSpaces (escapeSigns text) :=
      ⟨value, by rw [List.append_assoc, List.singleton_append, ← same, escapeSpaces]⟩
    obtain ⟨more, signs⟩ := prefix_of_prefix_escapeSpaces solid (by simp) begins
    rw [List.append_assoc, List.singleton_append] at signs
    exact not_namesArgument_escapeNamed _ ⟨name, more, nameOf, signs.symm⟩

/-- A cell that is read as a text, and as nothing but an argument. -/
structure Carries (cell text : List Char) : Prop where
  reads : read cell = some text
  plain : Plain cell
  withoutReturn : '\r' ∉ cell
  withoutTab : '\t' ∉ cell
  notComment : cell.head? ≠ some '#'
  unnamed : ¬ NamesArgument cell

/-- **A cell is read back as its argument.** It has no line breaks or tabs, no spaces where they
would end it, and nothing that makes it a comment or a named argument. -/
theorem ofArgument_readsBack (value : String) :
    Carries (ofArgument value).toList value.toList := by
  rw [ofArgument, String.toList_ofList]
  generalize value.toList = text
  have kept {c : Char} (member : c ∈ escape text) (foreign : ¬ Printable c) :
      c ≠ '\r' ∧ c ≠ '\t' :=
    ((mem_escape member).resolve_right foreign).2.2
  exact {
    reads := (escape_spells text).read
    plain := escape_plain text
    withoutReturn := fun member => (kept member (by decide)).1 rfl
    withoutTab := fun member => (kept member (by decide)).2 rfl
    notComment := head?_escape text
    unnamed := not_namesArgument_escape text }

end ScreenedSuite.Cell
