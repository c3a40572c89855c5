import ScreenedSuite.Proofs.Cell.Plain

/-! # Reading rows

A row is read by cutting it at its runs of two or more spaces (`ScreenedSuite.Cell.split`). Plain
cells are read back from their row, however wide its separator is
(`ScreenedSuite.Cell.split_intercalate`).
-/

namespace ScreenedSuite.Cell

/-- The cells of the rest of a row. Of the cell at hand `cell` has been read, and after it a number
of spaces. -/
def splitFrom (cell : List Char) (spaces : Nat) : List Char → List (List Char)
  | [] => if spaces < 2 then [cell ++ List.replicate spaces ' '] else [cell, []]
  | c :: rest =>
    if c = ' ' then splitFrom cell (spaces + 1) rest
    else if spaces < 2 then splitFrom (cell ++ List.replicate spaces ' ' ++ [c]) 0 rest
    else cell :: splitFrom [c] 0 rest

/-- The cells of a row, which are separated by two or more spaces. -/
def split (row : List Char) : List (List Char) :=
  splitFrom [] 0 row

theorem splitFrom_replicate (cell : List Char) (spaces count : Nat) (rest : List Char) :
    splitFrom cell spaces (List.replicate count ' ' ++ rest) =
      splitFrom cell (spaces + count) rest := by
  induction count generalizing spaces with
  | zero => rfl
  | succ count ih =>
      rw [List.replicate_succ, List.cons_append, splitFrom, if_pos rfl, ih, Nat.add_assoc,
        Nat.add_comm 1]

/-- Two or more spaces end a cell. -/
theorem splitFrom_of_separated {cell text : List Char} {spaces : Nat} (separated : 2 ≤ spaces)
    (nonempty : text ≠ []) (first : text.head? ≠ some ' ') :
    splitFrom cell spaces text = cell :: split text := by
  cases text with
  | nil => exact (nonempty rfl).elim
  | cons c rest =>
      have notSpace : c ≠ ' ' := fun space => first (congrArg some space)
      rw [split, splitFrom, splitFrom, if_neg notSpace, if_neg notSpace, if_neg (by omega),
        if_pos (by omega)]
      rfl

/-- A text without adjacent spaces is read as part of the cell at hand. The induction carries the
single space that may be pending between the two. -/
theorem splitFrom_append {cell text : List Char} {spaces : Nat} (few : spaces < 2)
    (nonempty : text ≠ []) (pending : spaces = 0 ∨ text.head? ≠ some ' ')
    (last : text.getLast? ≠ some ' ') (apart : text.IsChain Apart) (rest : List Char) :
    splitFrom cell spaces (text ++ rest) =
      splitFrom (cell ++ List.replicate spaces ' ' ++ text) 0 rest := by
  induction text generalizing cell spaces with
  | nil => exact (nonempty rfl).elim
  | cons c more ih =>
      cases more with
      | nil =>
          have notSpace : c ≠ ' ' := fun space => last (congrArg some space)
          rw [List.cons_append, splitFrom, if_neg notSpace, if_pos few]
          rfl
      | cons d tail =>
          have lastOfMore : (d :: tail).getLast? ≠ some ' ' := by
            rwa [List.getLast?_cons_cons] at last
          obtain ⟨neighbours, apartMore⟩ := List.isChain_cons_cons.mp apart
          rw [List.cons_append, splitFrom]
          by_cases space : c = ' '
          · have none : spaces = 0 := pending.resolve_right fun first => first (congrArg some space)
            have next : (d :: tail).head? ≠ some ' ' := fun other =>
              neighbours ⟨space, Option.some.inj other⟩
            rw [if_pos space, none, space,
              ih (by omega) (List.cons_ne_nil _ _) (.inr next) lastOfMore apartMore]
            simp only [List.replicate_zero, List.append_nil, List.append_assoc]
            rfl
          · rw [if_neg space, if_pos few,
              ih (by omega) (List.cons_ne_nil _ _) (.inl rfl) lastOfMore apartMore]
            simp only [List.replicate_zero, List.append_nil, List.append_assoc, List.cons_append,
              List.nil_append]

theorem splitFrom_plain {text : List Char} (plain : Plain text) (rest : List Char) :
    splitFrom [] 0 (text ++ rest) = splitFrom text 0 rest :=
  splitFrom_append (by omega) plain.nonempty (.inl rfl) plain.last plain.apart rest

/-- A row begins with its first cell. -/
theorem exists_intercalate_eq_append (separator cell : List Char) (others : List (List Char)) :
    ∃ tail, separator.intercalate (cell :: others) = cell ++ tail := by
  cases others with
  | nil => exact ⟨[], by rw [List.intercalate_singleton, List.append_nil]⟩
  | cons next more => exact ⟨_, List.intercalate_cons_cons.trans (List.append_assoc ..)⟩

/-- A character of a row stands in a cell or between two of them. -/
theorem mem_of_mem_intercalate {separator : List Char} {cells : List (List Char)} {c : Char}
    (member : c ∈ separator.intercalate cells) : c ∈ separator ∨ ∃ cell ∈ cells, c ∈ cell := by
  induction cells with
  | nil => cases member
  | cons cell others ih =>
      cases others with
      | nil =>
          rw [List.intercalate_singleton] at member
          exact .inr ⟨cell, List.mem_cons_self, member⟩
      | cons next more =>
          rw [List.intercalate_cons_cons, List.mem_append, List.mem_append] at member
          rcases member with (here | between) | later
          · exact .inr ⟨cell, List.mem_cons_self, here⟩
          · exact .inl between
          · obtain between | ⟨other, given, inside⟩ := ih later
            · exact .inl between
            · exact .inr ⟨other, List.mem_cons_of_mem _ given, inside⟩

/-- Plain cells are read back from the row that they are laid out in. -/
theorem split_intercalate {width : Nat} (wide : 2 ≤ width) {cells : List (List Char)}
    (nonempty : cells ≠ []) (plain : ∀ cell ∈ cells, Plain cell) :
    split ((List.replicate width ' ').intercalate cells) = cells := by
  induction cells with
  | nil => exact (nonempty rfl).elim
  | cons cell others ih =>
      have cellPlain : Plain cell := plain cell List.mem_cons_self
      cases others with
      | nil =>
          have whole := splitFrom_plain cellPlain []
          rw [List.append_nil] at whole
          rw [List.intercalate_singleton, split, whole, splitFrom, if_pos (by omega)]
          simp only [List.replicate_zero, List.append_nil]
      | cons next more =>
          have nextPlain : Plain next := plain next (List.mem_cons_of_mem _ List.mem_cons_self)
          have remaining := ih (List.cons_ne_nil _ _) fun other member =>
            plain other (List.mem_cons_of_mem _ member)
          obtain ⟨tail, begins⟩ := exists_intercalate_eq_append (List.replicate width ' ') next more
          have nonemptyRest : (List.replicate width ' ').intercalate (next :: more) ≠ [] := by
            rw [begins]
            exact List.append_ne_nil_of_left_ne_nil nextPlain.nonempty _
          have first :
              ((List.replicate width ' ').intercalate (next :: more)).head? ≠ some ' ' := by
            rw [begins, List.head?_append_of_ne_nil _ nextPlain.nonempty]
            exact nextPlain.first
          rw [List.intercalate_cons_cons, List.append_assoc, split, splitFrom_plain cellPlain,
            splitFrom_replicate, splitFrom_of_separated (by omega) nonemptyRest first, remaining]

end ScreenedSuite.Cell
