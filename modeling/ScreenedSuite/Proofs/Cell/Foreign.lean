import ScreenedSuite.Proofs.Cell.Reading

/-! # Foreign characters of cells

No escape is made of characters that are not printable ASCII, and but for line feeds, carriage
returns and tabs none of them has an escape. The cell for an argument keeps them, and they cut it:
what stands before one of them and what stands behind it are escaped by themselves
(`ScreenedSuite.Cell.escape_append`, `ScreenedSuite.Cell.exists_of_escape_eq_append`).
-/

namespace ScreenedSuite.Cell

/-- A character that no escape is made of and that has no escape. -/
def Raw (c : Char) : Prop :=
  ¬ Printable c ∧ c ≠ '\n' ∧ c ≠ '\r' ∧ c ≠ '\t'

instance : DecidablePred Raw :=
  fun c => inferInstanceAs (Decidable (¬ Printable c ∧ c ≠ '\n' ∧ c ≠ '\r' ∧ c ≠ '\t'))

variable {c f : Char} {withVariables : Bool}

theorem Raw.ne (raw : Raw f) (printed : Printable c) : f ≠ c :=
  fun same => raw.1 (same ▸ printed)

/-! ## Cutting at a foreign character

No pass of the escaping looks across a foreign character: what stands before it and what stands
behind it are escaped by themselves. The passes over signs do not look across spaces either. -/

/-- Characters that the passes over signs do not look at. -/
def Unsigned (c : Char) : Prop :=
  Raw c ∨ c = ' '

theorem Unsigned.ne (unsigned : Unsigned f) (printed : Printable c) (notSpace : c ≠ ' ') :
    f ≠ c := by
  rcases unsigned with raw | rfl
  · exact raw.ne printed
  · exact notSpace.symm

theorem escapeMark_congr {next other : Option Char}
    (alike : next = some '\x7B' ↔ other = some '\x7B') (c : Char) :
    escapeMark next c = escapeMark other c := by
  have same : (next == some '\x7B') = (other == some '\x7B') := by
    rw [Bool.eq_iff_iff, beq_iff_eq, beq_iff_eq, alike]
  unfold escapeMark
  rw [same]

theorem escapeMark_unsigned (unsigned : Unsigned f) (next : Option Char) :
    escapeMark next f = [f] := by
  have kept : f ≠ '\n' ∧ f ≠ '\r' ∧ f ≠ '\t' := by
    rcases unsigned with raw | rfl
    · exact raw.2
    · decide
  have unmarked : marksVariable f = false := by
    simp only [marksVariable, Bool.or_eq_false_iff, beq_eq_false_iff_ne]
    have other {d : Char} := unsigned.ne (c := d)
    exact ⟨⟨⟨other (by decide) (by decide), other (by decide) (by decide)⟩,
      other (by decide) (by decide)⟩, other (by decide) (by decide)⟩
  exact escapeMark_of_kept (unsigned.ne (by decide) (by decide)) kept.1 kept.2.1 kept.2.2 unmarked
    next

theorem escapeMarks_append (unsigned : Unsigned f) (front back : List Char) :
    escapeMarks (front ++ f :: back) = escapeMarks front ++ f :: escapeMarks back := by
  induction front with
  | nil =>
      rw [List.nil_append, escapeMarks_cons, escapeMark_unsigned unsigned]
      rfl
  | cons c rest ih =>
      have alike : (rest ++ f :: back).head? = some '\x7B' ↔ rest.head? = some '\x7B' := by
        cases rest with
        | nil =>
            have other := unsigned.ne (c := '\x7B') (by decide) (by decide)
            simp [other]
        | cons d more => rfl
      rw [List.cons_append, escapeMarks_cons, ih, escapeMark_congr alike, escapeMarks_cons,
        List.append_assoc]

theorem escapeComment_append (unsigned : Unsigned f) (front back : List Char) :
    escapeComment (front ++ f :: back) = escapeComment front ++ f :: back := by
  cases front with
  | nil =>
      have other := unsigned.ne (c := '#') (by decide) (by decide)
      rw [List.nil_append]
      unfold escapeComment
      split
      · rename_i same
        exact (other (List.cons.inj same).1).elim
      · rfl
  | cons c rest =>
      by_cases sign : c = '#'
      · subst sign
        rfl
      · have kept (text : List Char) : escapeComment (c :: text) = c :: text := by
          unfold escapeComment
          split
          · rename_i same
            exact (sign (List.cons.inj same).1).elim
          · rfl
        rw [List.cons_append, kept, kept, List.cons_append]

theorem printable_of_continuesName (continues : continuesName c = true) : Printable c := by
  rw [continuesName, Char.isAlphanum, Bool.or_eq_true, Bool.or_eq_true, beq_iff_eq] at continues
  unfold Printable
  rcases continues with (letter | digit) | rfl
  · rcases Bool.or_eq_true_iff.mp letter with upper | lower
    · have bounds : 'A'.toNat ≤ c.toNat ∧ c.toNat ≤ 'Z'.toNat := of_decide_eq_true upper
      have ends : 'A'.toNat = 65 ∧ 'Z'.toNat = 90 := by decide
      omega
    · have bounds : 'a'.toNat ≤ c.toNat ∧ c.toNat ≤ 'z'.toNat :=
        (Bool.and_eq_true_iff.mp lower).imp of_decide_eq_true of_decide_eq_true
      have ends : 'a'.toNat = 97 ∧ 'z'.toNat = 122 := by decide
      omega
  · have bounds := Char.isDigit_iff_toNat.mp digit
    have ends : '0'.toNat = 48 ∧ '9'.toNat = 57 := by decide
    omega
  · decide

theorem escapeNamed_append (unsigned : Unsigned f) (front back : List Char) :
    escapeNamed (front ++ f :: back) = escapeNamed front ++ f :: back := by
  by_cases named : NamesArgument front
  · obtain ⟨name, value, nameOf, rfl⟩ := named
    rw [List.append_assoc, List.cons_append, escapeNamed_of_isName nameOf,
      escapeNamed_of_isName nameOf, List.append_assoc, List.cons_append, List.cons_append]
  · have unnamed : ¬ NamesArgument (front ++ f :: back) := by
      rintro ⟨name, value, nameOf, same⟩
      have absent : f ∉ name ++ ['='] := by
        intro member
        rcases List.mem_append.mp member with inName | sign
        · have continues := continuesName_of_isName nameOf f inName
          have notSpace := (solid_of_continuesName continues).1
          exact unsigned.ne (printable_of_continuesName continues) notSpace rfl
        · exact unsigned.ne (by decide) (by decide) (List.mem_singleton.mp sign)
      have begins : name ++ ['='] <+: front ++ f :: back :=
        ⟨value, by rw [List.append_assoc, List.singleton_append, same]⟩
      obtain ⟨more, rfl⟩ := prefix_of_prefix_append absent begins
      exact named ⟨name, more, nameOf, by rw [List.append_assoc, List.singleton_append]⟩
    rw [escapeNamed_of_not_namesArgument named, escapeNamed_of_not_namesArgument unnamed]

theorem escapeSigns_append (unsigned : Unsigned f) (front back : List Char) :
    escapeSigns (front ++ f :: back) = escapeSigns front ++ f :: escapeMarks back := by
  unfold escapeSigns
  rw [escapeMarks_append unsigned, escapeComment_append unsigned, escapeNamed_append unsigned]

theorem escapeRuns_append (notSpace : f ≠ ' ') (spaces : Nat) (front back : List Char) :
    escapeRuns spaces (front ++ f :: back) = escapeRuns spaces front ++ f :: escapeRuns 0 back := by
  induction front generalizing spaces with
  | nil =>
      have other : ¬(f == ' ') = true := fun space => notSpace (beq_iff_eq.mp space)
      rw [List.nil_append, escapeRuns.eq_2, if_neg other, escapeRuns]
  | cons c rest ih =>
      rw [List.cons_append, escapeRuns, escapeRuns, ih, ih]
      split
      · rfl
      · rw [List.append_assoc, List.cons_append]

theorem escapeFirst_append (notSpace : f ≠ ' ') (front back : List Char) :
    escapeFirst (front ++ f :: back) = escapeFirst front ++ f :: back := by
  cases front with
  | nil =>
      unfold escapeFirst
      split
      · rename_i same
        exact (notSpace (List.cons.inj same).1).elim
      · rfl
  | cons c rest =>
      by_cases space : c = ' '
      · subst space
        rw [List.cons_append, escapeFirst, escapeFirst, List.append_assoc]
      · have kept (text : List Char) : escapeFirst (c :: text) = c :: text := by
          unfold escapeFirst
          split
          · rename_i same
            exact (space (List.cons.inj same).1).elim
          · rfl
        rw [List.cons_append, kept, kept, List.cons_append]

theorem escapeLast_append (notSpace : f ≠ ' ') (front back : List Char) :
    escapeLast (front ++ f :: back) = front ++ f :: escapeLast back := by
  cases back with
  | nil =>
      unfold escapeLast
      simp [notSpace]
  | cons c rest =>
      unfold escapeLast
      rw [List.getLast?_append_of_ne_nil _ (List.cons_ne_nil _ _), List.getLast?_cons_cons]
      split
      · rw [List.dropLast_append_of_ne_nil (List.cons_ne_nil _ _), List.append_assoc]
        rfl
      · rfl

/-- The part of a cell before a foreign character. -/
def opening (front : List Char) : List Char :=
  escapeFirst (escapeRuns 0 (escapeSigns front))

/-- The part of a cell behind a foreign character. -/
def closing (back : List Char) : List Char :=
  escapeLast (escapeRuns 0 (escapeMarks back))

theorem closing_cons (raw : Raw f) (back : List Char) : closing (f :: back) = f :: closing back := by
  have notSpace := raw.ne (c := ' ') (by decide)
  have marks := escapeMarks_append (.inl raw) [] back
  have runs := escapeRuns_append notSpace 0 [] (escapeMarks back)
  have last := escapeLast_append notSpace [] (escapeRuns 0 (escapeMarks back))
  unfold closing
  rw [List.nil_append] at marks runs last
  rw [marks, escapeMarks, List.nil_append, runs]
  exact last

theorem escape_append (raw : Raw f) (front back : List Char) :
    escape (front ++ f :: back) = opening front ++ f :: closing back := by
  have notSpace := raw.ne (c := ' ') (by decide)
  rw [escape_of_ne_nil (List.append_ne_nil_of_right_ne_nil _ (List.cons_ne_nil _ _)),
    escapeSigns_append (.inl raw), escapeRuns_append notSpace, escapeFirst_append notSpace,
    escapeLast_append notSpace]
  rfl

/-! ## Finding the foreign character of an argument

Since its value is read off a cell from left to right, a foreign character of the cell stands for
one of the argument, between the values of the two parts that it cuts the cell into. -/

theorem Spells.split {first second value : List Char} (raw : Raw f)
    (spells : Spells withVariables (first ++ f :: second) value) :
    ∃ front back, value = front ++ f :: back ∧
      Spells withVariables first front ∧ Spells withVariables second back := by
  generalize whole : first ++ f :: second = text at spells
  induction spells generalizing first with
  | nil => simp at whole
  | kept unescaped unmarked later ih =>
      rename_i c rest value
      cases first with
      | nil =>
          obtain ⟨rfl, rfl⟩ := List.cons.inj whole
          exact ⟨[], value, rfl, .nil, later⟩
      | cons d more =>
          obtain ⟨rfl, rfl⟩ := List.cons.inj whole
          obtain ⟨front, back, rfl, before, behind⟩ := ih rfl
          refine ⟨d :: front, back, rfl, .kept unescaped (fun marked brace => ?_) before, behind⟩
          obtain ⟨others, rfl⟩ := List.head?_eq_some_iff.mp brace
          exact unmarked marked rfl
  | escaped printed notSpace later ih =>
      rename_i c rest value
      cases first with
      | nil => exact (raw.ne (by decide) (List.cons.inj whole).1).elim
      | cons d more =>
          obtain ⟨rfl, same⟩ := List.cons.inj whole
          cases more with
          | nil => exact (raw.ne printed (List.cons.inj same).1).elim
          | cons e others =>
              obtain ⟨rfl, rfl⟩ := List.cons.inj same
              obtain ⟨front, back, rfl, before, behind⟩ := ih rfl
              exact ⟨unescaped e :: front, back, rfl, .escaped printed notSpace before, behind⟩
  | named allowed isVariable later ih =>
      rename_i name value rest after
      -- no variable has a foreign character in it
      have behindName : ∃ more, first = name ++ more ∧ rest = more ++ f :: second := by
        rcases List.append_eq_append_iff.mp whole with ⟨more, rfl, same⟩ | found
        · cases more with
          | nil => exact ⟨[], by rw [List.append_nil, List.append_nil], same.symm⟩
          | cons c others =>
              rw [(List.cons.inj same).1] at raw
              have member : c ∈ first ++ c :: others :=
                List.mem_append_right _ List.mem_cons_self
              exact (raw.1 (isVariable.printable c member)).elim
        · exact found
      obtain ⟨more, rfl, same⟩ := behindName
      obtain ⟨front, back, rfl, before, behind⟩ := ih same.symm
      exact ⟨value ++ front, back, (List.append_assoc ..).symm, .named allowed isVariable before,
        behind⟩

theorem Spells.not_longer {text more value : List Char} (raw : Raw f)
    (spells : Spells withVariables text value) :
    ¬ Spells withVariables (text ++ f :: more) value := by
  intro longer
  obtain ⟨front, back, rfl, before, _⟩ := longer.split raw
  have same : front = front ++ f :: back :=
    Option.some.inj (before.read.symm.trans spells.read)
  simp at same

theorem opening_spells (front : List Char) : Spells true (opening front) front :=
  escapeFirst_spells (escapeRuns_spells (escapeSigns_spells front) 0)

theorem closing_spells (back : List Char) : Spells true (closing back) back :=
  escapeLast_spells (escapeRuns_spells (escapeMarks_spells back) 0)

theorem exists_of_escape_eq_append {text first second : List Char} (raw : Raw f)
    (isCell : escape text = first ++ f :: second) :
    ∃ front back, text = front ++ f :: back ∧ first = opening front ∧ second = closing back := by
  have spells := escape_spells text
  rw [isCell] at spells
  obtain ⟨front, back, rfl, before, _⟩ := spells.split raw
  refine ⟨front, back, rfl, ?_⟩
  rw [escape_append raw] at isCell
  rcases List.append_eq_append_iff.mp isCell with ⟨more, whole, rest⟩ | ⟨more, whole, rest⟩
  · cases more with
    | nil =>
        rw [List.append_nil] at whole
        exact ⟨whole, (List.cons.inj rest).2.symm⟩
    | cons d others =>
        obtain ⟨rfl, _⟩ := List.cons.inj rest
        rw [whole] at before
        exact ((opening_spells front).not_longer raw before).elim
  · cases more with
    | nil =>
        rw [List.append_nil] at whole
        exact ⟨whole.symm, (List.cons.inj rest).2⟩
    | cons d others =>
        obtain ⟨rfl, _⟩ := List.cons.inj rest
        have longer := opening_spells front
        rw [whole] at longer
        exact (before.not_longer raw longer).elim

end ScreenedSuite.Cell
