import ScreenedSuite.Proofs.Cell.Foreign
import ScreenedSuite.Proofs.Suite.ReadBack

/-! # Line ends and white space beyond ASCII

A reader may end lines at other characters than line feeds, and cells at any two blanks side by
side. Escaping knows of line feeds, carriage returns, tabs and spaces only: the other line ends of
an argument, and its other blanks, are in its cell as well. The cell is confined, on its line and
in its place of the row, when the argument has none of these
(`ScreenedSuite.Cell.escape_confines`).
-/

namespace ScreenedSuite.Cell

/-- Characters that end a line. -/
def lineEnds : Unicode.CodeSet :=
  ⟨[0x000A, 0x000E, 0x001C, 0x001F, 0x0085, 0x0086, 0x2028, 0x202A]⟩

/-- Whether a character ends a line. -/
def endsLine (c : Char) : Bool :=
  lineEnds.contains c

/-- A blank that is kept as it is. -/
def Foreign (c : Char) : Prop :=
  Raw c ∧ Unicode.isBlank c = true

instance : DecidablePred Foreign :=
  fun c => inferInstanceAs (Decidable (Raw c ∧ Unicode.isBlank c = true))

/-- Two blanks side by side. -/
def Separates (text : List Char) : Prop :=
  ∃ front first second back,
    text = front ++ first :: second :: back ∧
      Unicode.isBlank first = true ∧ Unicode.isBlank second = true

/-- A foreign blank beside another one, or beside a single space inside a text. -/
inductive Clashes : List Char → Prop
  | both {c d : Char} (front back : List Char) (first : Foreign c) (second : Foreign d) :
      Clashes (front ++ c :: d :: back)
  | behind {c d : Char} (front back : List Char) (foreign : Foreign c) (notSpace : d ≠ ' ') :
      Clashes (front ++ c :: ' ' :: d :: back)
  | before {c d : Char} (front back : List Char) (notSpace : c ≠ ' ') (foreign : Foreign d) :
      Clashes (front ++ c :: ' ' :: d :: back)

variable {c : Char} {withVariables : Bool}

theorem eq_space_of_isBlank_of_printable (blank : Unicode.isBlank c = true)
    (printed : Printable c) : c = ' ' := by
  obtain ⟨least, most⟩ := printed
  by_contra other
  have notSpace : c.toNat ≠ 0x20 := fun same => other (Char.toNat_inj.mp same)
  rw [Unicode.isBlank, Unicode.CodeSet.contains, Unicode.whiteSpace] at blank
  simp only [Unicode.CodeSet.member] at blank
  rw [if_neg (by omega), if_neg (by omega), if_neg (by omega), if_neg (by omega),
    if_pos (by omega)] at blank
  cases blank

/-! ## Spaces beside a foreign character -/

theorem Spells.not_nil {value : List Char} : ¬ Spells withVariables [] (c :: value) := by
  intro spells
  have none := spells.read
  rw [Cell.read] at none
  cases none

theorem Spells.exists_head {text value : List Char}
    (spells : Spells withVariables text (c :: value)) (notSpace : c ≠ ' ') :
    ∃ d rest, text = d :: rest ∧ d ≠ ' ' := by
  cases text with
  | nil => exact (Spells.not_nil spells).elim
  | cons d rest =>
      refine ⟨d, rest, rfl, fun space => ?_⟩
      subst space
      obtain ⟨later, same, _⟩ := spells.of_cons (by decide) (by decide)
      exact notSpace (List.cons.inj same).1

theorem Spells.exists_last {text front : List Char} (spells : Spells true text (front ++ [c]))
    (notSpace : c ≠ ' ') : ∃ rest d, text = rest ++ [d] ∧ d ≠ ' ' := by
  rcases List.eq_nil_or_concat text with rfl | ⟨rest, d, rfl⟩
  · have nonempty : front ++ [c] ≠ [] := List.append_ne_nil_of_right_ne_nil _ (List.cons_ne_nil _ _)
    obtain ⟨first, others, whole⟩ := List.exists_cons_of_ne_nil nonempty
    rw [whole] at spells
    exact (Spells.not_nil spells).elim
  · rw [List.concat_eq_append] at spells ⊢
    refine ⟨rest, d, rfl, fun space => ?_⟩
    subst space
    obtain ⟨others, same, _⟩ := spells.replace_last (List.getLast?_concat ..)
    exact notSpace (List.cons.inj (List.append_inj' same rfl).2).1

theorem escapeRuns_space_cons (notSpace : c ≠ ' ') (rest : List Char) :
    escapeRuns 0 (' ' :: c :: rest) = ' ' :: c :: escapeRuns 0 rest :=
  escapeRuns_append notSpace 0 [' '] rest

theorem exists_escapeLast_cons_cons (c d : Char) (rest : List Char) :
    ∃ more, escapeLast (c :: d :: rest) = c :: more := by
  unfold escapeLast
  split
  · exact ⟨_, rfl⟩
  · exact ⟨_, rfl⟩

/-- A single space at the start, with something behind it, stays behind a foreign character. -/
theorem exists_closing_space_cons (notSpace : c ≠ ' ') (rest : List Char) :
    ∃ more, closing (' ' :: c :: rest) = ' ' :: more := by
  have spells : Spells true (escapeMarks (c :: rest)) (c :: rest) := escapeMarks_spells _
  obtain ⟨d, marks, isCons, other⟩ := spells.exists_head notSpace
  have behind := escapeMarks_append (.inr rfl) [] (c :: rest)
  rw [List.nil_append, isCons] at behind
  unfold closing
  rw [behind, escapeMarks, List.nil_append, escapeRuns_space_cons other]
  exact exists_escapeLast_cons_cons ' ' d _

theorem exists_escapeRuns_of_several (spaces : Nat) (text : List Char) :
    ∃ more, escapeRuns (spaces + 2) text = '$' :: '\x7B' :: more := by
  induction text generalizing spaces with
  | nil => exact ⟨_, rfl⟩
  | cons c rest ih =>
      rw [escapeRuns]
      split
      · exact ih (spaces + 1)
      · exact ⟨_, rfl⟩

theorem eq_of_closing_eq_space_cons {back more : List Char} (isCons : closing back = ' ' :: more) :
    ∃ c rest, back = ' ' :: c :: rest ∧ c ≠ ' ' := by
  have spells := closing_spells back
  rw [isCons] at spells
  obtain ⟨later, rfl, _⟩ := spells.of_cons (by decide) (by decide)
  cases later with
  | nil =>
      have alone : closing [' '] = spaceVariable := by decide
      rw [alone] at isCons
      cases isCons
  | cons c rest =>
      refine ⟨c, rest, rfl, fun space => ?_⟩
      subst space
      have marks : escapeMarks (' ' :: ' ' :: rest) = ' ' :: ' ' :: escapeMarks rest := rfl
      obtain ⟨behind, several⟩ := exists_escapeRuns_of_several 0 (escapeMarks rest)
      obtain ⟨others, last⟩ := exists_escapeLast_cons_cons '$' '\x7B' behind
      have whole : closing (' ' :: ' ' :: rest) = '$' :: others := by
        rw [← last, ← several, closing, marks]
        rfl
      rw [whole] at isCons
      cases isCons

/-- A single space at the end, with something before it, stays before a foreign character. -/
theorem exists_opening_space (front : List Char) (notSpace : c ≠ ' ') :
    ∃ first, opening (front ++ [c, ' ']) = first ++ [' '] := by
  have spells : Spells true (escapeSigns (front ++ [c])) (front ++ [c]) := escapeSigns_spells _
  obtain ⟨rest, d, isAppend, other⟩ := spells.exists_last notSpace
  have signs := escapeSigns_append (.inr rfl) (front ++ [c]) []
  rw [isAppend, escapeMarks, List.append_assoc, List.append_assoc] at signs
  have runs : escapeRuns 0 [' '] = [' '] := rfl
  refine ⟨escapeFirst (escapeRuns 0 rest) ++ [d], ?_⟩
  unfold opening
  rw [List.append_assoc]
  change escapeFirst (escapeRuns 0 (escapeSigns (front ++ [c, ' ']))) = _ ++ [d, ' ']
  rw [show front ++ [c, ' '] = front ++ ([c] ++ ' ' :: []) from rfl, signs]
  change escapeFirst (escapeRuns 0 (rest ++ d :: [' '])) = _
  rw [escapeRuns_append other, escapeFirst_append other, runs]

theorem getLast?_of_escapeFirst {text : List Char}
    (last : (escapeFirst text).getLast? = some ' ') : text.getLast? = some ' ' := by
  unfold escapeFirst at last
  split at last
  · rename_i rest
    cases rest with
    | nil => cases last
    | cons c more =>
        rw [List.getLast?_append_of_ne_nil _ (List.cons_ne_nil _ _)] at last
        rw [List.getLast?_cons_cons]
        exact last
  · exact last

theorem getLast?_escapeRuns_of_several (spaces : Nat) (text : List Char) :
    (escapeRuns spaces (text ++ [' ', ' '])).getLast? = some '\x7D' := by
  induction text generalizing spaces with
  | nil =>
      have several : escapeRuns spaces [' ', ' '] = spacesVariable (spaces + 2) := rfl
      rw [List.nil_append, several]
      exact (Variable.spaces (spaces + 2)).getLast?
  | cons c rest ih =>
      have nonempty (count : Nat) : escapeRuns count (rest ++ [' ', ' ']) ≠ [] :=
        escapeRuns_ne_nil (.inr (List.append_ne_nil_of_right_ne_nil _ (List.cons_ne_nil _ _)))
      rw [List.cons_append, escapeRuns]
      split
      · exact ih (spaces + 1)
      · rw [List.getLast?_append_of_ne_nil _ (List.cons_ne_nil _ _), ← List.singleton_append,
          List.getLast?_append_of_ne_nil _ (nonempty 0)]
        exact ih 0

theorem eq_of_opening_eq_append_space {front first : List Char}
    (isAppend : opening front = first ++ [' ']) :
    ∃ rest c, front = rest ++ [c, ' '] ∧ c ≠ ' ' := by
  have last : (opening front).getLast? = some ' ' := by
    rw [isAppend]
    exact List.getLast?_concat ..
  obtain ⟨before, rfl, _⟩ := (opening_spells front).replace_last last
  rcases List.eq_nil_or_concat before with rfl | ⟨rest, c, rfl⟩
  · have alone : opening ([] ++ [' ']) = spaceVariable := by decide
    rw [alone] at last
    cases last
  · rw [List.concat_eq_append, List.append_assoc] at last ⊢
    refine ⟨rest, c, rfl, fun space => ?_⟩
    subst space
    have signs : escapeSigns (rest ++ ' ' :: [' ']) = escapeSigns rest ++ [' ', ' '] :=
      escapeSigns_append (.inr rfl) rest [' ']
    have runs := getLast?_of_escapeFirst last
    change (escapeRuns 0 (escapeSigns (rest ++ ' ' :: [' ']))).getLast? = _ at runs
    rw [signs, getLast?_escapeRuns_of_several] at runs
    cases runs

/-! ## Blanks side by side -/

theorem unsigned_of_mem_escape {text : List Char} (member : c ∈ escape text)
    (blank : Unicode.isBlank c = true) : Unsigned c := by
  by_cases printed : Printable c
  · exact .inr (eq_space_of_isBlank_of_printable blank printed)
  · have kept := (mem_escape member).resolve_right printed
    exact .inl ⟨printed, kept.2⟩

/-- Blanks that stand side by side in the cell for an argument come from a foreign one that
clashes. -/
theorem clashes_of_separates {text : List Char} (separates : Separates (escape text)) :
    Clashes text := by
  obtain ⟨first, c, d, second, isCell, firstBlank, secondBlank⟩ := separates
  have firstUnsigned : Unsigned c :=
    unsigned_of_mem_escape (by rw [isCell]; simp) firstBlank
  have secondUnsigned : Unsigned d :=
    unsigned_of_mem_escape (by rw [isCell]; simp) secondBlank
  rcases firstUnsigned with raw | rfl
  · obtain ⟨front, back, rfl, _, rest⟩ := exists_of_escape_eq_append raw isCell
    rcases secondUnsigned with secondRaw | rfl
    · have spells := closing_spells back
      rw [← rest] at spells
      obtain ⟨others, rfl, _⟩ :=
        spells.of_cons (secondRaw.ne (by decide)) (secondRaw.ne (by decide))
      exact .both front others ⟨raw, firstBlank⟩ ⟨secondRaw, secondBlank⟩
    · obtain ⟨e, others, rfl, notSpace⟩ := eq_of_closing_eq_space_cons rest.symm
      exact .behind front others ⟨raw, firstBlank⟩ notSpace
  · rcases secondUnsigned with secondRaw | rfl
    · rw [← List.singleton_append, ← List.append_assoc] at isCell
      obtain ⟨front, back, rfl, before, _⟩ := exists_of_escape_eq_append secondRaw isCell
      obtain ⟨others, e, rfl, notSpace⟩ := eq_of_opening_eq_append_space before.symm
      rw [List.append_assoc]
      exact .before others back notSpace ⟨secondRaw, secondBlank⟩
    · have apart := List.isChain_iff_forall_rel_of_append_cons_cons.mp (escape_plain text).apart
      exact (apart isCell ⟨rfl, rfl⟩).elim

/-- Beside a foreign blank that clashes there is another one in the cell. -/
theorem Clashes.separates {text : List Char} (clashes : Clashes text) :
    Separates (escape text) := by
  cases clashes with
  | both front back first second =>
      refine ⟨opening front, _, _, closing back, ?_, first.2, second.2⟩
      rw [escape_append first.1, closing_cons second.1]
  | behind front back foreign notSpace =>
      obtain ⟨more, rest⟩ := exists_closing_space_cons notSpace back
      refine ⟨opening front, _, ' ', more, ?_, foreign.2, by decide⟩
      rw [escape_append foreign.1, rest]
  | before front back notSpace foreign =>
      rename_i c d
      obtain ⟨first, isAppend⟩ := exists_opening_space front notSpace
      refine ⟨first, ' ', d, closing back, ?_, by decide, foreign.2⟩
      have whole : front ++ c :: ' ' :: d :: back = (front ++ [c, ' ']) ++ d :: back := by
        rw [List.append_assoc]
        rfl
      rw [whole, escape_append foreign.1, isAppend, List.append_assoc]
      rfl

/-- Two blanks are side by side in the cell for an argument just when a foreign one clashes. -/
theorem separates_escape_iff (text : List Char) : Separates (escape text) ↔ Clashes text :=
  ⟨clashes_of_separates, Clashes.separates⟩

theorem separates_iff_not_isChain (text : List Char) : Separates text ↔
    ¬ text.IsChain fun c d => ¬ (Unicode.isBlank c = true ∧ Unicode.isBlank d = true) := by
  rw [List.isChain_iff_forall_rel_of_append_cons_cons]
  push Not
  constructor
  · rintro ⟨front, c, d, back, whole, blanks⟩
    exact ⟨c, d, front, back, whole, blanks⟩
  · rintro ⟨c, d, front, back, whole, blanks⟩
    exact ⟨front, c, d, back, whole, blanks⟩

instance (text : List Char) : Decidable (Separates text) :=
  decidable_of_iff' _ (separates_iff_not_isChain text)

theorem not_printable_of_endsLine (ends : endsLine c = true) : ¬ Printable c ∧ c ≠ '\t' := by
  constructor
  · rintro ⟨least, most⟩
    rw [endsLine, Unicode.CodeSet.contains, lineEnds] at ends
    simp only [Unicode.CodeSet.member] at ends
    rw [if_neg (by omega), if_neg (by omega), if_neg (by omega), if_neg (by omega),
      if_pos (by omega)] at ends
    cases ends
  · rintro rfl
    cases ends

/-- The line ends of a cell are those of the argument that have no escape. -/
theorem mem_escape_iff_of_endsLine (ends : endsLine c = true) (text : List Char) :
    c ∈ escape text ↔ c ∈ text ∧ c ≠ '\n' ∧ c ≠ '\r' := by
  obtain ⟨foreign, notTab⟩ := not_printable_of_endsLine ends
  constructor
  · intro member
    obtain ⟨given, notLineFeed, notReturn, _⟩ := (mem_escape member).resolve_right foreign
    exact ⟨given, notLineFeed, notReturn⟩
  · rintro ⟨given, notLineFeed, notReturn⟩
    obtain ⟨front, back, rfl⟩ := List.append_of_mem given
    rw [escape_append ⟨foreign, notLineFeed, notReturn, notTab⟩]
    exact List.mem_append_right _ List.mem_cons_self

/-! ## Rows

A reader that cuts rows into cells at any two blanks, or at a tab, takes each blank for a space and
a tab for two. -/

/-- What a character of a row is taken for. -/
def seen (c : Char) : List Char :=
  if c = '\t' then [' ', ' '] else if Unicode.isBlank c then [' '] else [c]

/-- The cells of a row, with each blank taken for a space. -/
def splitBlanks (row : List Char) : List (List Char) :=
  split (row.flatMap seen)

/-- A text that is taken for one cell, wherever it stands in a row. -/
structure Confined (text : List Char) : Prop where
  nonempty : text ≠ []
  unbroken : ∀ c ∈ text, endsLine c = false
  untabbed : '\t' ∉ text
  first : ∀ c ∈ text.head?, Unicode.isBlank c = false
  last : ∀ c ∈ text.getLast?, Unicode.isBlank c = false
  together : ¬ Separates text

/-- An argument without the line ends and blanks that escaping misses. -/
structure Tame (value : List Char) : Prop where
  unbroken : ∀ c ∈ value, endsLine c = true → c = '\n' ∨ c = '\r'
  first : ∀ c ∈ value.head?, ¬ Foreign c
  last : ∀ c ∈ value.getLast?, ¬ Foreign c
  apart : ¬ Clashes value

theorem Tame.confined {value : List Char} (tame : Tame value) : Confined (escape value) where
  nonempty := (escape_plain value).nonempty
  unbroken := by
    intro c member
    rw [← Bool.not_eq_true]
    intro ends
    obtain ⟨given, notLineFeed, notReturn⟩ := (mem_escape_iff_of_endsLine ends value).mp member
    exact (tame.unbroken c given ends).elim notLineFeed notReturn
  untabbed := by
    intro member
    rcases mem_escape member with kept | printed
    · exact kept.2.2.2 rfl
    · exact absurd printed (by decide)
  first := by
    intro c head
    rw [← Bool.not_eq_true]
    intro blank
    obtain ⟨rest, isCons⟩ := List.head?_eq_some_iff.mp head
    rcases unsigned_of_mem_escape (List.mem_of_head? head) blank with raw | rfl
    · have spells := escape_spells value
      rw [isCons] at spells
      obtain ⟨later, rfl, _⟩ := spells.of_cons (raw.ne (by decide)) (raw.ne (by decide))
      exact tame.first c rfl ⟨raw, blank⟩
    · exact (escape_plain value).first head
  last := by
    intro c last
    rw [← Bool.not_eq_true]
    intro blank
    obtain ⟨rest, isAppend⟩ := List.getLast?_eq_some_iff.mp last
    rcases unsigned_of_mem_escape (List.mem_of_getLast? last) blank with raw | rfl
    · obtain ⟨front, back, rfl, _, none⟩ := exists_of_escape_eq_append raw isAppend
      cases back with
      | nil => exact tame.last c (List.getLast?_concat ..) ⟨raw, blank⟩
      | cons d more =>
          have spells := closing_spells (d :: more)
          rw [← none] at spells
          exact Spells.not_nil spells
    · exact (escape_plain value).last last
  together := (separates_escape_iff value).not.mpr tame.apart

theorem flatMap_seen {text : List Char} (untabbed : '\t' ∉ text) :
    text.flatMap seen = text.map fun c => if Unicode.isBlank c then ' ' else c := by
  induction text with
  | nil => rfl
  | cons c rest ih =>
      rw [List.mem_cons, not_or] at untabbed
      rw [List.flatMap_cons, ih untabbed.2, List.map_cons, seen, if_neg (Ne.symm untabbed.1)]
      split
      · rfl
      · rfl

theorem Confined.plain {text : List Char} (confined : Confined text) :
    Plain (text.flatMap seen) := by
  have blankSpace : Unicode.isBlank ' ' = true := rfl
  have isBlank {c : Char} (space : (if Unicode.isBlank c then ' ' else c) = ' ') :
      Unicode.isBlank c = true := by
    split at space
    · assumption
    · rw [space, blankSpace]
  have chain := (separates_iff_not_isChain text).not_left.mp confined.together
  rw [flatMap_seen confined.untabbed]
  refine ⟨?_, ?_, ?_, ?_, ?_⟩
  · rw [ne_eq, List.map_eq_nil_iff]
    exact confined.nonempty
  · intro member
    obtain ⟨c, given, same⟩ := List.mem_map.mp member
    split at same
    · cases same
    · subst same
      exact absurd (confined.unbroken _ given) (by decide)
  · intro head
    rw [List.head?_map, Option.map_eq_some_iff] at head
    obtain ⟨c, given, same⟩ := head
    exact Bool.false_ne_true ((confined.first c given).symm.trans (isBlank same))
  · intro last
    rw [List.getLast?_map, Option.map_eq_some_iff] at last
    obtain ⟨c, given, same⟩ := last
    exact Bool.false_ne_true ((confined.last c given).symm.trans (isBlank same))
  · rw [List.isChain_map]
    exact chain.imp fun c d notBoth both => notBoth ⟨isBlank both.1, isBlank both.2⟩

theorem flatMap_intercalate (separator : List Char) (cells : List (List Char)) :
    (separator.intercalate cells).flatMap seen =
      (separator.flatMap seen).intercalate (cells.map (·.flatMap seen)) := by
  induction cells with
  | nil => rfl
  | cons cell others ih =>
      cases others with
      | nil => simp only [List.intercalate_singleton, List.map_cons, List.map_nil]
      | cons next more =>
          rw [List.intercalate_cons_cons, List.flatMap_append, List.flatMap_append, ih]
          exact List.intercalate_cons_cons.symm

theorem flatMap_seen_replicate (count : Nat) :
    (List.replicate count ' ').flatMap seen = List.replicate count ' ' := by
  have untabbed : '\t' ∉ List.replicate count ' ' := fun member =>
    absurd (List.eq_of_mem_replicate member) (by decide)
  rw [flatMap_seen untabbed, List.map_replicate]
  rfl

/-- Confined cells are read back from their row, whatever blanks they hold. -/
theorem splitBlanks_intercalate {width : Nat} (wide : 2 ≤ width) {cells : List (List Char)}
    (nonempty : cells ≠ []) (confined : ∀ cell ∈ cells, Confined cell) :
    splitBlanks ((List.replicate width ' ').intercalate cells) = cells.map (·.flatMap seen) := by
  rw [splitBlanks, flatMap_intercalate, flatMap_seen_replicate]
  apply split_intercalate wide
  · rw [ne_eq, List.map_eq_nil_iff]
    exact nonempty
  · intro text member
    obtain ⟨cell, given, rfl⟩ := List.mem_map.mp member
    exact (confined cell given).plain

/-- **What escaping confines.** The cell for an argument has the line ends of the argument but for
line feeds and carriage returns, and two blanks side by side just when a foreign blank of the
argument clashes. Without these, the argument adds neither lines nor cells to a row: the row is a
single line and is read as just its cells. -/
theorem escape_confines (value : String) :
    (∀ c, endsLine c = true →
      (c ∈ (ofArgument value).toList ↔ c ∈ value.toList ∧ c ≠ '\n' ∧ c ≠ '\r')) ∧
    (Separates (ofArgument value).toList ↔ Clashes value.toList) ∧
    (Tame value.toList → ∀ (width : Nat) (before after : List String),
      (∀ cell ∈ before ++ after, Confined cell.toList) →
        ∃ row, (Suite.rowLine (Suite.separator width) (before ++ ofArgument value :: after)).toList =
            Suite.spaces width ++ row ∧
          (∀ c ∈ row, endsLine c = false) ∧
          splitBlanks row =
            (before ++ ofArgument value :: after).map (·.toList.flatMap seen)) := by
  have isCell : (ofArgument value).toList = escape value.toList := String.toList_ofList
  refine ⟨fun c ends => ?_, ?_, fun tame width before after others => ?_⟩
  · rw [isCell]
    exact mem_escape_iff_of_endsLine ends value.toList
  · rw [isCell]
    exact separates_escape_iff value.toList
  · have confined : ∀ cell ∈ (before ++ ofArgument value :: after).map String.toList,
        Confined cell := by
      intro cell member
      obtain ⟨text, given, rfl⟩ := List.mem_map.mp member
      rcases List.mem_append.mp given with earlier | here
      · exact others text (List.mem_append_left _ earlier)
      · rcases List.mem_cons.mp here with rfl | later
        · rw [isCell]
          exact tame.confined
        · exact others text (List.mem_append_right _ later)
    have some : (before ++ ofArgument value :: after).map String.toList ≠ [] := by
      simp
    refine ⟨_, Suite.toList_rowLine width _, fun c member => ?_, ?_⟩
    · rcases mem_of_mem_intercalate member with between | ⟨cell, given, inside⟩
      · rw [List.eq_of_mem_replicate between]
        rfl
      · exact (confined cell given).unbroken c inside
    · have reads := splitBlanks_intercalate (Nat.le_max_right width 2) some confined
      rwa [List.map_map] at reads

theorem escape_confines_north_wind :
    Tame "north\u00A0wind  blows\n".toList ∧ Confined "Log".toList ∧
      ∃ row, (Suite.rowLine (Suite.separator 4)
            ["Log", ofArgument "north\u00A0wind  blows\n"]).toList = Suite.spaces 4 ++ row ∧
        (∀ c ∈ row, endsLine c = false) ∧
        splitBlanks row = ["Log".toList, r"north wind${SPACE * 2}blows\n".toList] := by
  have literal : Confined "Log".toList := {
    nonempty := by decide
    unbroken := forall_mem_of_all (by decide)
    untabbed := by decide
    first := by
      rintro c ⟨⟩
      rfl
    last := by
      rintro c ⟨⟩
      rfl
    together := by decide }
  have tame : Tame "north\u00A0wind  blows\n".toList := {
    unbroken := forall_mem_of_all (by decide)
    first := by
      rintro c ⟨⟩
      decide
    last := by
      rintro c ⟨⟩
      decide
    apart := (separates_escape_iff _).not.mp (by decide +kernel) }
  have cell : (ofArgument "north\u00A0wind  blows\n").toList.flatMap seen =
      r"north wind${SPACE * 2}blows\n".toList := by
    decide +kernel
  obtain ⟨row, line, unbroken, reads⟩ := (escape_confines "north\u00A0wind  blows\n").2.2 tame 4
    ["Log"] [] (List.forall_mem_singleton.mpr literal)
  exact ⟨tame, literal, row, line, unbroken, reads.trans (congrArg (["Log".toList, ·]) cell)⟩

/-- A line separator and wide spaces make a row of their own, with a call, of the end of an
argument. -/
theorem escape_wide_spaces :
    let cell := escape "x\u2028\u2003\u2003Run Process\u2003\u2003halt".toList
    Separates cell ∧
      ∃ row, cell = "x\u2028".toList ++ row ∧ endsLine '\u2028' = true ∧
        splitBlanks row = ["".toList, "Run Process".toList, "halt".toList] := by
  refine ⟨by decide +kernel, "\u2003\u2003Run Process\u2003\u2003halt".toList, ?_, ?_, ?_⟩
  · decide +kernel
  · decide
  · decide +kernel

end ScreenedSuite.Cell
