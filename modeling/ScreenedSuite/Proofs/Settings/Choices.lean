import ScreenedSuite.Failure
import ScreenedSuite.Proofs.Settings.Fields
import ScreenedSuite.Proofs.Unicode.Blank
import ScreenedSuite.Proofs.Unicode.LowerCase

/-! # Choices typed by name

A person may type the name of a level or a policy with white space around it and with any of its
letters in upper case, but with no letter that merely looks like one of them
(`ScreenedSuite.Settings.typed_readByName`). All names consist of letters without a look-alike, so
setting a text in lower case makes a name only of the name itself.
-/

namespace ScreenedSuite

/-- The plain form of a typed text is a name of unmistakable letters when the text without the white
space around it is that name but for the case of ASCII letters. -/
theorem plainChoice_eq_iff {typed name : String}
    (plain : ∀ c ∈ name.toList, Unicode.isUnmistakable c = true) :
    plainChoice typed = name ↔ SameButCase (Unicode.trim typed.toList) name.toList := by
  rw [plainChoice, ← String.toList_inj, String.toList_ofList, Unicode.lowerCase_eq_iff plain]

theorem Level.name_unmistakable (level : Level) :
    ∀ c ∈ level.name.toList, Unicode.isUnmistakable c = true := by
  have letters : level.name.toList.all Unicode.isUnmistakable = true := by
    cases level <;> decide +kernel
  exact List.all_eq_true.mp letters

theorem UnmappedPolicy.name_unmistakable (policy : UnmappedPolicy) :
    ∀ c ∈ policy.name.toList, Unicode.isUnmistakable c = true := by
  have letters : policy.name.toList.all Unicode.isUnmistakable = true := by
    cases policy <;> decide +kernel
  exact List.all_eq_true.mp letters

namespace Settings

/-- How a text, without the white space around it, is read as a choice by name. It is taken for a
choice just when it is the name of it, up to the case of ASCII letters; in particular only ASCII is
taken. Anything else is refused in words that quote it in lower case. -/
structure ReadByName {α : Type} (name : α → String) (refusal : String → String) (text : List Char)
    (outcome : Except SettingsError α) : Prop where
  taken : ∀ choice, outcome = .ok choice ↔ SameButCase text (name choice).toList
  ascii : ∀ choice, outcome = .ok choice → ∀ c ∈ text, c.toNat < 0x80
  refused : (∀ choice, ¬ SameButCase text (name choice).toList) → ∃ error,
    outcome = .error error ∧ (Failure.configuration error).message =
      "configuration error: " ++ refusal (String.ofList (Unicode.lowerCase text))

/-- A search among all choices reads by name if the names are unmistakable. -/
theorem ReadByName.of_find? {α : Type} {choices : List α} {name : α → String}
    (distinct : Function.Injective name) (complete : ∀ choice, choice ∈ choices)
    (plain : ∀ choice, ∀ c ∈ (name choice).toList, Unicode.isUnmistakable c = true)
    (unknown : String → SettingsError) {typed : String} {outcome : Except SettingsError α}
    (search : outcome = (choices.find? (name · == plainChoice typed)).elim
      (.error (unknown (plainChoice typed))) .ok) :
    ReadByName name (fun text => (unknown text).message) (Unicode.trim typed.toList) outcome := by
  have taken (choice : α) : outcome = .ok choice ↔
      SameButCase (Unicode.trim typed.toList) (name choice).toList := by
    rw [← plainChoice_eq_iff (plain choice), ← find?_name_eq_some_iff distinct complete, search]
    cases choices.find? (name · == plainChoice typed) with
    | none => simp only [Option.elim_none, reduceCtorEq]
    | some other => simp only [Option.elim_some, Except.ok.injEq, Option.some.injEq]
  refine ⟨taken, fun choice read => ?_, fun unnamed => ?_⟩
  · have lowered := (Unicode.lowerCase_eq_iff (plain choice)).mpr ((taken choice).mp read)
    have letters : ∀ c ∈ Unicode.lowerFrom [] (Unicode.trim typed.toList),
        Unicode.isUnmistakable c = true := by
      rw [← Unicode.lowerCase, lowered]
      exact plain choice
    exact Unicode.lt_of_lowerFrom letters
  · cases found : choices.find? (name · == plainChoice typed) with
    | none =>
        rw [found, Option.elim_none] at search
        exact ⟨_, search, rfl⟩
    | some choice =>
        rw [found, Option.elim_some] at search
        exact absurd ((taken choice).mp search) (unnamed choice)

/-- **Names are read without look-alikes.** -/
theorem typed_readByName (typed : String) : ∃ text, Unicode.Trimmed typed.toList text ∧
    ReadByName Level.name (fun text => "unknown security level `" ++ text ++
      "` (expected strict, standard or permissive)") text (typedLevel typed) ∧
    ReadByName UnmappedPolicy.name (fun text => "unknown unmapped action policy `" ++ text ++
      "` (expected reject or passthrough)") text (typedPolicy typed) := by
  refine ⟨Unicode.trim typed.toList, Unicode.trimmed_trim _, ?_, ?_⟩
  · refine .of_find? Level.name_injective Level.mem_all Level.name_unmistakable .unknownLevel ?_
    rw [typedLevel, Level.ofChoice?, Level.ofName?]
    cases Level.all.find? (·.name == plainChoice typed) <;> rfl
  · refine .of_find? UnmappedPolicy.name_injective UnmappedPolicy.mem_all
      UnmappedPolicy.name_unmistakable .unknownPolicy ?_
    rw [typedPolicy, UnmappedPolicy.ofChoice?, UnmappedPolicy.ofName?]
    cases UnmappedPolicy.all.find? (·.name == plainChoice typed) <;> rfl

end Settings

end ScreenedSuite
