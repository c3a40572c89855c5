import Mathlib.Data.List.Chain
import ScreenedSuite.Cell

/-! # Plain cells

A cell is plain when nothing in it can be taken for the end of the cell or of its line
(`ScreenedSuite.Cell.Plain`). Whatever an argument is, its cell is plain
(`ScreenedSuite.Cell.escape_plain`). Each pass of the escaping adds only printable characters
(`ScreenedSuite.Cell.mem_escape`), so line breaks and tabs are gone after the first of them.
-/

namespace ScreenedSuite.Cell

/-- Two neighbours that are not both spaces. -/
def Apart (left right : Char) : Prop :=
  ¬ (left = ' ' ∧ right = ' ')

instance : DecidableRel Apart :=
  fun left right => inferInstanceAs (Decidable (¬ (left = ' ' ∧ right = ' ')))

/-- A text that is a cell by itself. -/
structure Plain (text : List Char) : Prop where
  nonempty : text ≠ []
  unbroken : '\n' ∉ text
  first : text.head? ≠ some ' '
  last : text.getLast? ≠ some ' '
  apart : text.IsChain Apart

instance (text : List Char) : Decidable (Plain text) :=
  decidable_of_iff (text ≠ [] ∧ '\n' ∉ text ∧ text.head? ≠ some ' ' ∧ text.getLast? ≠ some ' ' ∧
      text.IsChain Apart)
    ⟨fun ⟨nonempty, unbroken, first, last, apart⟩ => ⟨nonempty, unbroken, first, last, apart⟩,
      fun plain => ⟨plain.nonempty, plain.unbroken, plain.first, plain.last, plain.apart⟩⟩

/-- The characters that escapes are made of. -/
def Printable (c : Char) : Prop :=
  0x20 ≤ c.toNat ∧ c.toNat < 0x7F

instance : DecidablePred Printable :=
  fun c => inferInstanceAs (Decidable (0x20 ≤ c.toNat ∧ c.toNat < 0x7F))

/-- What holds of all characters of a text can be checked one by one. -/
theorem forall_mem_of_all {p : Char → Prop} [DecidablePred p] {text : List Char}
    (checked : text.all (p ·) = true) : ∀ c ∈ text, p c :=
  fun c member => of_decide_eq_true (List.all_eq_true.mp checked c member)

theorem printable_of_mem {text : List Char} (checked : text.all (Printable ·) = true) {c : Char}
    (member : c ∈ text) : Printable c :=
  forall_mem_of_all checked c member

/-! ## Characters of a cell

Each pass of the escaping adds printable characters only, and the first one takes line breaks and
tabs out. -/

/-- What a character becomes, given the character behind it. -/
def escapeMark (next : Option Char) (c : Char) : List Char :=
  if c = '\\' then ['\\', '\\']
  else if c = '\n' then ['\\', 'n']
  else if c = '\r' then ['\\', 'r']
  else if c = '\t' then ['\\', 't']
  else if marksVariable c && next == some '\x7B' then ['\\', c]
  else [c]

theorem escapeMarks_cons (c : Char) (rest : List Char) :
    escapeMarks (c :: rest) = escapeMark rest.head? c ++ escapeMarks rest := by
  unfold escapeMark
  by_cases backslash : c = '\\'
  · subst backslash
    rfl
  by_cases lineFeed : c = '\n'
  · subst lineFeed
    rfl
  by_cases carriageReturn : c = '\r'
  · subst carriageReturn
    rfl
  by_cases tab : c = '\t'
  · subst tab
    rfl
  simp only [escapeMarks, backslash, lineFeed, carriageReturn, tab, ↓reduceIte]
  split
  · rfl
  · rfl

/-- A character that is kept is neither a line break nor a tab. -/
theorem mem_escapeMark {next : Option Char} {c d : Char} (member : d ∈ escapeMark next c) :
    (d = c ∧ c ≠ '\n' ∧ c ≠ '\r' ∧ c ≠ '\t') ∨ Printable d := by
  unfold escapeMark at member
  split at member
  · exact .inr (printable_of_mem (by decide) member)
  split at member
  · exact .inr (printable_of_mem (by decide) member)
  split at member
  · exact .inr (printable_of_mem (by decide) member)
  split at member
  · exact .inr (printable_of_mem (by decide) member)
  rename_i lineFeed carriageReturn tab
  split at member
  · rcases List.mem_pair.mp member with rfl | rfl
    · exact .inr (by decide)
    · exact .inl ⟨rfl, lineFeed, carriageReturn, tab⟩
  · exact .inl ⟨List.mem_singleton.mp member, lineFeed, carriageReturn, tab⟩

/-- A text whose marks are escaped has neither line breaks nor tabs. -/
theorem mem_escapeMarks {text : List Char} {c : Char} (member : c ∈ escapeMarks text) :
    (c ∈ text ∧ c ≠ '\n' ∧ c ≠ '\r' ∧ c ≠ '\t') ∨ Printable c := by
  induction text with
  | nil => cases member
  | cons first rest ih =>
      rw [escapeMarks_cons, List.mem_append] at member
      rcases member with here | later
      · rcases mem_escapeMark here with ⟨rfl, kept⟩ | printed
        · exact .inl ⟨List.mem_cons_self, kept⟩
        · exact .inr printed
      · exact (ih later).imp_left fun kept => ⟨List.mem_cons_of_mem _ kept.1, kept.2⟩

theorem mem_escapeComment {text : List Char} {c : Char} (member : c ∈ escapeComment text) :
    c ∈ text ∨ Printable c := by
  unfold escapeComment at member
  split at member
  · rcases List.mem_cons.mp member with rfl | kept
    · exact .inr (by decide)
    · exact .inl kept
  · exact .inl member

theorem mem_escapeNamed {text : List Char} {c : Char} (member : c ∈ escapeNamed text) :
    c ∈ text ∨ Printable c := by
  cases text with
  | nil => cases member
  | cons first rest =>
      rw [escapeNamed] at member
      split at member
      · split at member
        · rename_i value found
          have whole : rest = rest.takeWhile continuesName ++ '=' :: value := by
            rw [← found, List.takeWhile_append_dropWhile]
          rw [List.cons_append, List.mem_cons, List.mem_append, List.mem_cons] at member
          rcases member with rfl | name | rfl | kept
          · exact .inl List.mem_cons_self
          · exact .inl (List.mem_cons_of_mem _ ((List.takeWhile_sublist _).subset name))
          · exact .inr (by decide)
          · rw [whole]
            exact .inl (List.mem_cons_of_mem _ (List.mem_append_right _ kept))
        · exact .inl member
      · exact .inl member

theorem isDigit_of_mem_toString {count : Nat} {c : Char} (member : c ∈ (toString count).toList) :
    c.isDigit = true := by
  rw [Nat.toString_eq_ofList_toDigits, String.toList_ofList] at member
  exact Nat.isDigit_of_mem_toDigits (by decide) (by decide) member

theorem ne_of_isDigit {c sign : Char} (digit : c.isDigit = true) (other : sign.isDigit = false) :
    c ≠ sign := by
  rintro rfl
  exact Bool.false_ne_true (other.symm.trans digit)

theorem printable_of_mem_toString {count : Nat} {c : Char} (member : c ∈ (toString count).toList) :
    Printable c := by
  have digit := Char.isDigit_iff_toNat.mp (isDigit_of_mem_toString member)
  have bounds : '0'.toNat = 48 ∧ '9'.toNat = 57 := by decide
  unfold Printable
  omega

theorem printable_of_mem_spacesVariable {count : Nat} {c : Char}
    (member : c ∈ spacesVariable count) : Printable c := by
  unfold spacesVariable at member
  rw [List.mem_append, List.mem_append] at member
  rcases member with (opening | digit) | closing
  · exact printable_of_mem (by decide) opening
  · exact printable_of_mem_toString digit
  · exact printable_of_mem (by decide) closing

theorem printable_of_mem_spaceRun {count : Nat} {c : Char} (member : c ∈ spaceRun count) :
    Printable c := by
  unfold spaceRun at member
  split at member
  · rw [List.eq_of_mem_replicate member]
    decide
  · exact printable_of_mem_spacesVariable member

theorem mem_escapeRuns {spaces : Nat} {text : List Char} {c : Char}
    (member : c ∈ escapeRuns spaces text) : c ∈ text ∨ Printable c := by
  induction text generalizing spaces with
  | nil => exact .inr (printable_of_mem_spaceRun member)
  | cons first rest ih =>
      rw [escapeRuns] at member
      split at member
      · exact (ih member).imp_left (List.mem_cons_of_mem _)
      · rw [List.mem_append, List.mem_cons] at member
        rcases member with run | rfl | later
        · exact .inr (printable_of_mem_spaceRun run)
        · exact .inl List.mem_cons_self
        · exact (ih later).imp_left (List.mem_cons_of_mem _)

theorem printable_of_mem_spaceVariable {c : Char} (member : c ∈ spaceVariable) : Printable c :=
  printable_of_mem (by decide) member

theorem mem_escapeFirst {text : List Char} {c : Char} (member : c ∈ escapeFirst text) :
    c ∈ text ∨ Printable c := by
  unfold escapeFirst at member
  split at member
  · rcases List.mem_append.mp member with added | kept
    · exact .inr (printable_of_mem_spaceVariable added)
    · exact .inl (List.mem_cons_of_mem _ kept)
  · exact .inl member

theorem mem_escapeLast {text : List Char} {c : Char} (member : c ∈ escapeLast text) :
    c ∈ text ∨ Printable c := by
  unfold escapeLast at member
  split at member
  · rcases List.mem_append.mp member with kept | added
    · exact .inl (List.dropLast_subset _ kept)
    · exact .inr (printable_of_mem_spaceVariable added)
  · exact .inl member

/-- What is escaped in a nonempty argument before its spaces. -/
def escapeSigns (text : List Char) : List Char :=
  escapeNamed (escapeComment (escapeMarks text))

theorem escape_of_ne_nil {text : List Char} (nonempty : text ≠ []) :
    escape text = escapeLast (escapeFirst (escapeRuns 0 (escapeSigns text))) := by
  cases text with
  | nil => exact (nonempty rfl).elim
  | cons first rest => rfl

/-- The cell for an argument has printable characters and characters of the argument, but neither
line breaks nor tabs. -/
theorem mem_escape {text : List Char} {c : Char} (member : c ∈ escape text) :
    (c ∈ text ∧ c ≠ '\n' ∧ c ≠ '\r' ∧ c ≠ '\t') ∨ Printable c := by
  by_cases empty : text = []
  · subst empty
    exact .inr (printable_of_mem (by decide) member)
  · rw [escape_of_ne_nil empty] at member
    by_cases printed : Printable c
    · exact .inr printed
    · have inFirst := (mem_escapeLast member).resolve_right printed
      have inRuns := (mem_escapeFirst inFirst).resolve_right printed
      have inNamed := (mem_escapeRuns inRuns).resolve_right printed
      have inComment := (mem_escapeNamed inNamed).resolve_right printed
      exact mem_escapeMarks ((mem_escapeComment inComment).resolve_right printed)

/-! ## Spaces of a cell

The pass over runs leaves no two spaces side by side, and the passes over the edges, which put a
variable there, keep it so. -/

/-- Two texts without adjacent spaces have none together if the second does not begin with one. -/
theorem isChain_append_of_head {first second : List Char} (firstApart : first.IsChain Apart)
    (secondApart : second.IsChain Apart) (head : second.head? ≠ some ' ') :
    (first ++ second).IsChain Apart := by
  refine firstApart.append secondApart ?_
  rintro left _ right found ⟨_, rfl⟩
  exact head found

theorem isChain_append_of_last {first second : List Char} (firstApart : first.IsChain Apart)
    (secondApart : second.IsChain Apart) (last : first.getLast? ≠ some ' ') :
    (first ++ second).IsChain Apart := by
  refine firstApart.append secondApart ?_
  rintro left found right _ ⟨rfl, _⟩
  exact last found

/-- A plain cell with an equals sign behind it is plain. -/
theorem Plain.append_equals {text : List Char} (plain : Plain text) : Plain (text ++ ['=']) where
  nonempty := List.append_ne_nil_of_left_ne_nil plain.nonempty _
  unbroken := by
    rw [List.mem_append, not_or]
    exact ⟨plain.unbroken, by decide⟩
  first := by
    rw [List.head?_append_of_ne_nil _ plain.nonempty]
    exact plain.first
  last := by
    rw [List.getLast?_append_of_ne_nil _ (List.cons_ne_nil _ _)]
    decide
  apart := isChain_append_of_head plain.apart (List.isChain_singleton _) (by decide)

theorem isChain_of_not_mem {text : List Char} (spaceless : ' ' ∉ text) : text.IsChain Apart := by
  induction text with
  | nil => exact .nil
  | cons first rest ih =>
      rw [List.mem_cons, not_or] at spaceless
      rw [List.isChain_cons]
      exact ⟨fun _ _ both => spaceless.1 both.1.symm, ih spaceless.2⟩

theorem spacesVariable_isChain (count : Nat) : (spacesVariable count).IsChain Apart := by
  have digits : ' ' ∉ (toString count).toList :=
    fun member => ne_of_isDigit (isDigit_of_mem_toString member) rfl rfl
  have tail : ' ' ∉ (toString count).toList ++ r"}".toList := by
    rw [List.mem_append, not_or]
    exact ⟨digits, by decide⟩
  have opening : (r"${SPACE * ".toList).IsChain Apart := by decide
  unfold spacesVariable
  rw [List.append_assoc]
  exact isChain_append_of_head opening (isChain_of_not_mem tail)
    fun head => tail (List.mem_of_head? head)

theorem spaceRun_isChain (count : Nat) : (spaceRun count).IsChain Apart := by
  unfold spaceRun
  split
  · rename_i few
    rcases Nat.lt_succ_iff_lt_or_eq.mp few with none | rfl
    · rw [Nat.lt_one_iff.mp none]
      exact .nil
    · exact .singleton _
  · exact spacesVariable_isChain count

/-- No two spaces are adjacent once runs are escaped. -/
theorem escapeRuns_isChain (spaces : Nat) (text : List Char) :
    (escapeRuns spaces text).IsChain Apart := by
  induction text generalizing spaces with
  | nil => exact spaceRun_isChain spaces
  | cons first rest ih =>
      rw [escapeRuns]
      split
      · exact ih (spaces + 1)
      · rename_i other
        have notSpace : first ≠ ' ' := fun space => other (beq_iff_eq.mpr space)
        refine isChain_append_of_head (spaceRun_isChain spaces) ?_ ?_
        · rw [List.isChain_cons]
          exact ⟨fun _ _ both => notSpace both.1, ih 0⟩
        · rw [List.head?_cons]
          exact fun space => notSpace (Option.some.inj space)

theorem escapeFirst_isChain {text : List Char} (apart : text.IsChain Apart) :
    (escapeFirst text).IsChain Apart := by
  unfold escapeFirst
  split
  · exact isChain_append_of_last (by decide) apart.tail (by decide)
  · exact apart

theorem escapeLast_isChain {text : List Char} (apart : text.IsChain Apart) :
    (escapeLast text).IsChain Apart := by
  unfold escapeLast
  split
  · exact isChain_append_of_head apart.dropLast (by decide) (by decide)
  · exact apart

theorem head?_escapeFirst (text : List Char) : (escapeFirst text).head? ≠ some ' ' := by
  unfold escapeFirst
  split
  · rw [List.head?_append_of_ne_nil _ (by decide)]
    decide
  · rename_i other
    intro space
    obtain ⟨rest, rfl⟩ := List.head?_eq_some_iff.mp space
    exact other rest rfl

theorem head?_escapeLast {text : List Char} (first : text.head? ≠ some ' ') :
    (escapeLast text).head? ≠ some ' ' := by
  unfold escapeLast
  split
  · match text with
    | [] => decide
    | [_] =>
        rw [List.dropLast_singleton, List.nil_append]
        decide
    | _ :: _ :: _ => exact first
  · exact first

theorem getLast?_escapeLast (text : List Char) : (escapeLast text).getLast? ≠ some ' ' := by
  unfold escapeLast
  split
  · rw [List.getLast?_append_of_ne_nil _ (by decide)]
    decide
  · rename_i other
    exact fun space => other (beq_iff_eq.mpr space)

/-! ## Cells of arguments

No pass makes a text vanish. -/

theorem spaceRun_ne_nil {count : Nat} (spaces : 0 < count) : spaceRun count ≠ [] := by
  unfold spaceRun
  split
  · rw [ne_eq, List.replicate_eq_nil_iff]
    omega
  · unfold spacesVariable
    exact List.append_ne_nil_of_right_ne_nil _ (by decide)

theorem escapeRuns_ne_nil {spaces : Nat} {text : List Char} (nonempty : 0 < spaces ∨ text ≠ []) :
    escapeRuns spaces text ≠ [] := by
  induction text generalizing spaces with
  | nil =>
      rcases nonempty with pending | absurdity
      · exact spaceRun_ne_nil pending
      · exact (absurdity rfl).elim
  | cons first rest ih =>
      rw [escapeRuns]
      split
      · exact ih (.inl (Nat.succ_pos _))
      · exact List.append_ne_nil_of_right_ne_nil _ (List.cons_ne_nil _ _)

theorem escapeSigns_ne_nil {text : List Char} (nonempty : text ≠ []) : escapeSigns text ≠ [] := by
  have marks : escapeMarks text ≠ [] := by
    cases text with
    | nil => exact nonempty
    | cons first rest =>
        rw [escapeMarks_cons]
        refine List.append_ne_nil_of_left_ne_nil ?_ _
        unfold escapeMark
        split_ifs <;> exact List.cons_ne_nil _ _
  have comment : escapeComment (escapeMarks text) ≠ [] := by
    unfold escapeComment
    split
    · exact List.cons_ne_nil _ _
    · exact marks
  unfold escapeSigns
  cases found : escapeComment (escapeMarks text) with
  | nil => exact (comment found).elim
  | cons first rest =>
      rw [escapeNamed]
      split
      · split <;> exact List.cons_ne_nil _ _
      · exact List.cons_ne_nil _ _

theorem escapeFirst_ne_nil {text : List Char} (nonempty : text ≠ []) : escapeFirst text ≠ [] := by
  unfold escapeFirst
  split
  · exact List.append_ne_nil_of_left_ne_nil (by decide) _
  · exact nonempty

theorem escapeLast_ne_nil {text : List Char} (nonempty : text ≠ []) : escapeLast text ≠ [] := by
  unfold escapeLast
  split
  · exact List.append_ne_nil_of_right_ne_nil _ (by decide)
  · exact nonempty

/-- The cell for an argument is plain. -/
theorem escape_plain (text : List Char) : Plain (escape text) := by
  by_cases empty : text = []
  · subst empty
    decide
  · have unbroken : '\n' ∉ escape text := by
      intro member
      rcases mem_escape member with ⟨_, notBreak, _⟩ | printed
      · exact notBreak rfl
      · exact absurd printed (by decide)
    have nonempty : escapeRuns 0 (escapeSigns text) ≠ [] :=
      escapeRuns_ne_nil (.inr (escapeSigns_ne_nil empty))
    rw [escape_of_ne_nil empty] at unbroken ⊢
    exact {
      nonempty := escapeLast_ne_nil (escapeFirst_ne_nil nonempty)
      unbroken := unbroken
      first := head?_escapeLast (head?_escapeFirst _)
      last := getLast?_escapeLast _
      apart := escapeLast_isChain (escapeFirst_isChain (escapeRuns_isChain 0 _)) }

end ScreenedSuite.Cell
