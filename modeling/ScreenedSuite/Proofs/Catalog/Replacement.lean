import Mathlib.Algebra.Order.BigOperators.Group.List
import Mathlib.Algebra.Order.Group.Nat
import ScreenedSuite.Catalog.Override
import ScreenedSuite.Pattern.Property
import ScreenedSuite.Proofs.Catalog.Tiers
import ScreenedSuite.Proofs.Pattern.Properties
import ScreenedSuite.Proofs.Pattern.Search

/-! # Replaced lists and first matches

A replacement takes the place of the one list that it names
(`ScreenedSuite.Overrides.entries`), and a value is judged by the first entry of the list whose
text, read by itself, is a pattern that occurs in it (`ScreenedSuite.Catalog.Decides`). All that
this takes is that the patterns of a list are the ones that its entries write
(`ScreenedSuite.PatternList.Faithful`). Which properties of characters are known, and which
characters have them, is up to a table (`ScreenedSuite.PropertyTable`).

A catalog is refused for the first text that is no pattern
(`ScreenedSuite.Overrides.FirstUnreadable`). Every reader of replacements vets the texts that it
reads (`ScreenedSuite.Overrides.Vets`), and readers in sequence vet their texts in sequence.
-/

namespace ScreenedSuite

/-- The entries for a kind of value at a level: those of the replacement, numbered in their order,
where there is one, and those of the built-in rules otherwise. -/
def Overrides.entries (overrides : Overrides) (level : Level) (kind : ListKind) : List Entry :=
  match overrides.list? level kind with
  | some patterns => patterns.mapIdx fun index text =>
      ⟨s!"{level.name}-{kind.listName}-{index}", text, "User-supplied pattern"⟩
  | none => (Rule.active kind level).map fun rule => ⟨rule.id, rule.pattern, rule.reason⟩

/-- The flags of screening patterns: case is ignored, and the dot matches a line break too. -/
def PatternText.Mode.screening : PatternText.Mode where
  ignoreCase := true
  dotAll := true
  multiLine := false
  crlf := false
  unicode := true
  extended := false

/-- A text, read under flags and by itself, writes a pattern that is neither nested too deeply nor
too heavy. All properties that it names are known. -/
def PatternText.Writes (properties : PropertyTable) (mode : PatternText.Mode) (text : String)
    (compiled : Pattern) : Prop :=
  ∃ body names,
    readBody (text.toList.length + 1) mode [] [] [] text.toList = .ok (body, names, []) ∧
      body.depth ≤ depthLimit ∧ body.pattern.lookUp properties = some compiled ∧
        compiled.weight ≤ Pattern.weightLimit

variable {properties : PropertyTable}

namespace PatternList

end PatternList

/-! ## The first text that is no pattern -/

/-- A text in a replacement for the list of a kind at a level. -/
structure ReplacementText where
  level : Level
  kind : ListKind
  text : String

/-- Whether a text is a pattern. -/
def ReplacementText.Readable (properties : PropertyTable) (item : ReplacementText) : Prop :=
  ∃ compiled, Pattern.ofText? properties item.text = .ok compiled

/-- The error for a text that is no pattern. It names the list, the level and the text. -/
def ReplacementText.refusal (item : ReplacementText) (cause : PatternError) : SettingsError :=
  .invalidPattern item.kind item.level item.text cause

theorem ReplacementText.not_readable {item : ReplacementText} {cause : PatternError}
    (unreadable : Pattern.ofText? properties item.text = .error cause) :
    ¬ item.Readable properties := by
  rintro ⟨compiled, read⟩
  rw [unreadable] at read
  cases read

namespace Overrides

/-- The texts of the replacement for a list. -/
def listTexts (level : Level) (kind : ListKind) (choice : Option (List String)) :
    List ReplacementText :=
  (choice.getD []).map fun text => ⟨level, kind, text⟩

/-- The texts of the replacements at a level, those for commands first. -/
def levelTexts (overrides : Overrides) (level : Level) : List ReplacementText :=
  listTexts level .command (overrides.list? level .command) ++
    listTexts level .path (overrides.list? level .path)

/-- The texts of all replacements, those at the least restrictive level first. -/
def texts (overrides : Overrides) : List ReplacementText :=
  Level.all.flatMap overrides.levelTexts

/-- The first of several texts that is no pattern, and why it is none. -/
inductive FirstUnreadable (properties : PropertyTable) :
    List ReplacementText → ReplacementText → PatternError → Prop
  | here {item : ReplacementText} {rest : List ReplacementText} {cause : PatternError}
      (unreadable : Pattern.ofText? properties item.text = .error cause) :
      FirstUnreadable properties (item :: rest) item cause
  | there {item found : ReplacementText} {rest : List ReplacementText} {cause : PatternError}
      (readable : item.Readable properties) (later : FirstUnreadable properties rest found cause) :
      FirstUnreadable properties (item :: rest) found cause

/-- An outcome vets texts: where it is a value they are all patterns, and where it is an error it is
the one for the first text that is none. -/
inductive Vets {α : Type} (properties : PropertyTable) (texts : List ReplacementText) :
    Except SettingsError α → Prop
  | ok {value : α} (readable : ∀ item ∈ texts, item.Readable properties) :
      Vets properties texts (.ok value)
  | error {item : ReplacementText} {cause : PatternError}
      (first : FirstUnreadable properties texts item cause) :
      Vets properties texts (.error (item.refusal cause))

variable {texts left right : List ReplacementText} {item : ReplacementText} {cause : PatternError}

namespace FirstUnreadable

theorem mem (first : FirstUnreadable properties texts item cause) : item ∈ texts := by
  induction first with
  | here _ => exact List.mem_cons_self
  | there _ _ ih => exact List.mem_cons_of_mem _ ih

theorem unreadable (first : FirstUnreadable properties texts item cause) :
    Pattern.ofText? properties item.text = .error cause := by
  induction first with
  | here unreadable => exact unreadable
  | there _ _ ih => exact ih

theorem unique (first : FirstUnreadable properties texts item cause) {other : ReplacementText}
    {otherCause : PatternError} (also : FirstUnreadable properties texts other otherCause) :
    other = item ∧ otherCause = cause := by
  have same : other = item := by
    induction first with
    | here unreadable =>
        cases also with
        | here _ => rfl
        | there readable _ => exact absurd readable (ReplacementText.not_readable unreadable)
    | there readable _ ih =>
        cases also with
        | here unreadable => exact absurd readable (ReplacementText.not_readable unreadable)
        | there _ later => exact ih later
  subst same
  have causes := also.unreadable
  rw [first.unreadable] at causes
  cases causes
  exact ⟨rfl, rfl⟩

theorem append_left (first : FirstUnreadable properties left item cause) :
    FirstUnreadable properties (left ++ right) item cause := by
  induction first with
  | here unreadable => exact .here unreadable
  | there readable _ ih => exact .there readable ih

theorem append_right (first : FirstUnreadable properties right item cause)
    (readable : ∀ earlier ∈ left, earlier.Readable properties) :
    FirstUnreadable properties (left ++ right) item cause := by
  induction left with
  | nil => exact first
  | cons earlier rest ih =>
      have others : ∀ other ∈ rest, other.Readable properties :=
        fun other member => readable other (List.mem_cons_of_mem _ member)
      exact .there (readable earlier List.mem_cons_self) (ih others)

end FirstUnreadable

namespace Vets

variable {α β : Type} {outcome : Except SettingsError α} {next : α → Except SettingsError β}

theorem cons (readable : item.Readable properties) (vets : Vets properties texts outcome) :
    Vets properties (item :: texts) outcome := by
  cases vets with
  | ok others => exact .ok (List.forall_mem_cons.mpr ⟨readable, others⟩)
  | error first => exact .error (.there readable first)

/-- Outcomes in sequence vet their texts in sequence. -/
theorem bind (vets : Vets properties left outcome)
    (nextVets : ∀ value, Vets properties right (next value)) :
    Vets properties (left ++ right) (outcome >>= next) := by
  cases vets with
  | error first => exact .error first.append_left
  | @ok value readable =>
      have vetted := nextVets value
      change Vets properties (left ++ right) (next value)
      generalize next value = second at vetted ⊢
      cases vetted with
      | error first => exact .error (first.append_right readable)
      | ok others => exact .ok (List.forall_mem_append.mpr ⟨readable, others⟩)

theorem eq_error_iff (vets : Vets properties texts outcome) {error : SettingsError} :
    outcome = .error error ↔
      ∃ item cause, FirstUnreadable properties texts item cause ∧ error = item.refusal cause := by
  cases vets with
  | ok readable =>
      constructor
      · intro absurdity
        cases absurdity
      · rintro ⟨item, cause, first, _⟩
        exact absurd (readable item first.mem) (ReplacementText.not_readable first.unreadable)
  | @error item cause first =>
      constructor
      · intro same
        cases same
        exact ⟨item, cause, first, rfl⟩
      · rintro ⟨other, otherCause, also, rfl⟩
        obtain ⟨rfl, rfl⟩ := first.unique also
        rfl

end Vets

variable {overrides : Overrides}

end Overrides

namespace Catalog

end Catalog

end ScreenedSuite
