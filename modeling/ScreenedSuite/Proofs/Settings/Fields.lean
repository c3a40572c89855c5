import ScreenedSuite.Proofs.Lookup
import ScreenedSuite.Proofs.Outcome
import ScreenedSuite.Settings.Reader

/-! # Fields of settings

The fields of a table are taken in one after another. Where no key is there twice, what a field is
about depends on the one value that stands for it, whatever the order
(`ScreenedSuite.Settings.follows_of_foldlM`). For every kind of value it is said once which
documents it can be read from.
-/

namespace ScreenedSuite

theorem Level.name_injective : Function.Injective Level.name := by
  intro first second
  cases first <;> cases second <;> decide

theorem Level.mem_all (level : Level) : level ∈ Level.all := by
  cases level <;> decide

theorem Level.ofName?_eq_some_iff {name : String} {level : Level} :
    Level.ofName? name = some level ↔ name = level.name :=
  find?_name_eq_some_iff Level.name_injective Level.mem_all

theorem UnmappedPolicy.name_injective : Function.Injective UnmappedPolicy.name := by
  intro first second
  cases first <;> cases second <;> decide

theorem UnmappedPolicy.mem_all (policy : UnmappedPolicy) : policy ∈ UnmappedPolicy.all := by
  cases policy <;> decide

theorem ListKind.listName_injective : Function.Injective ListKind.listName := by
  intro first second
  cases first <;> cases second <;> decide

namespace Settings

/-! ## Values -/

theorem decodeBoolean_eq_ok_iff {found : Toml} {value : Bool} :
    decodeBoolean found = .ok value ↔ found = .boolean value := by
  cases found <;> simp [decodeBoolean, wrongType]

theorem decodeString_eq_ok_iff {found : Toml} {text : String} :
    decodeString found = .ok text ↔ found = .string text := by
  cases found <;> simp [decodeString, wrongType]

theorem decodeSize_eq_ok_iff {found : Toml} {size : Nat} :
    decodeSize found = .ok size ↔ found = .integer size := by
  cases found with
  | integer value =>
    cases value with
    | ofNat value =>
      simp only [decodeSize, Except.ok.injEq, Toml.integer.injEq, Int.ofNat_eq_natCast]
      exact Int.ofNat_inj.symm
    | negSucc value => simp [decodeSize]
  | _ => simp [decodeSize, wrongType]

theorem mapM_decodeString_eq_ok_iff {items : List Toml} {texts : List String} :
    items.mapM decodeString = .ok texts ↔ items = texts.map .string := by
  induction items generalizing texts with
  | nil => cases texts <;> simp [pure, Except.pure]
  | cons item rest ih =>
    rw [List.mapM_cons, Outcome.bind_eq_ok_iff]
    constructor
    · rintro ⟨text, isText, later⟩
      obtain ⟨others, areTexts, rfl⟩ := Outcome.map_eq_ok_iff.mp later
      rw [List.map_cons, decodeString_eq_ok_iff.mp isText, ih.mp areTexts]
    · intro same
      cases texts with
      | nil => cases same
      | cons text others =>
        obtain ⟨isText, areTexts⟩ := List.cons.inj same
        exact ⟨text, decodeString_eq_ok_iff.mpr isText,
          Outcome.bind_eq_ok_iff.mpr ⟨others, ih.mpr areTexts, rfl⟩⟩

theorem decodeStrings_eq_ok_iff {found : Toml} {texts : List String} :
    decodeStrings found = .ok texts ↔ found = .array (texts.map .string) := by
  cases found with
  | array items => rw [decodeStrings, mapM_decodeString_eq_ok_iff, Toml.array.injEq]
  | _ => simp [decodeStrings, wrongType]

/-- A choice that is written as a text is written by its name. -/
theorem decodeChoice_string_eq_ok_iff {α : Type} {choices : List α} {name : α → String}
    (distinct : Function.Injective name) (complete : ∀ choice, choice ∈ choices) {typed : String}
    {choice : α} :
    decodeChoice choices name (.string typed) = .ok choice ↔ typed = name choice := by
  rw [← find?_name_eq_some_iff distinct complete]
  unfold decodeChoice
  dsimp only
  cases choices.find? (name · == typed) <;> simp

/-! ## Tables -/

/-- The fields of a table. -/
abbrev Fields :=
  List (String × Toml)

/-- What stands for a key. -/
def lookup? (key : String) (fields : Fields) : Option Toml :=
  (fields.find? (·.1 == key)).map (·.2)

variable {fields : Fields} {key : String} {value : Toml}

theorem lookup?_eq_some_iff (keys : (fields.map (·.1)).Nodup) :
    lookup? key fields = some value ↔ (key, value) ∈ fields :=
  find?_fst_eq_some_iff keys

/-- Whether what was there before becomes what is there after, given what stands for a key. -/
def Follows {β : Type} (becomes : Toml → β → β → Prop) (before after : β) : Option Toml → Prop
  | none => after = before
  | some value => becomes value before after

section Folding

variable {σ β : Type} {step : σ → String → Toml → Decoded σ} {start last : σ}

/-- Fields that can each be taken in can be taken in together. -/
theorem exists_foldlM_eq_ok
    (each : ∀ field ∈ fields, ∀ now, ∃ after, step now field.1 field.2 = .ok after) :
    ∃ last, fields.foldlM (fun now field => step now field.1 field.2) start = .ok last := by
  induction fields generalizing start with
  | nil => exact ⟨start, rfl⟩
  | cons field rest ih =>
    obtain ⟨first, others⟩ := List.forall_mem_cons.mp each
    obtain ⟨middle, taken⟩ := first start
    obtain ⟨last, run⟩ := ih others
    exact ⟨last, Outcome.bind_eq_ok_iff.mpr ⟨middle, taken, run⟩⟩

/-- Fields that are taken in together are each taken in. -/
theorem exists_step_of_foldlM
    (run : fields.foldlM (fun now field => step now field.1 field.2) start = .ok last) :
    ∀ field ∈ fields, ∃ now after, step now field.1 field.2 = .ok after := by
  induction fields generalizing start with
  | nil => exact List.forall_mem_nil _
  | cons field rest ih =>
    obtain ⟨middle, taken, later⟩ := Outcome.bind_eq_ok_iff.mp run
    exact List.forall_mem_cons.mpr ⟨⟨start, middle, taken⟩, ih later⟩

/-- What no field changes stays as it was. -/
theorem observe_foldlM (observe : σ → β)
    (kept : ∀ field ∈ fields, ∀ {now after}, step now field.1 field.2 = .ok after →
      observe after = observe now)
    (run : fields.foldlM (fun now field => step now field.1 field.2) start = .ok last) :
    observe last = observe start := by
  induction fields generalizing start with
  | nil =>
    obtain rfl := Except.ok.inj run
    rfl
  | cons field rest ih =>
    obtain ⟨middle, taken, later⟩ := Outcome.bind_eq_ok_iff.mp run
    calc
      observe last = observe middle := ih (fun other member => kept other (.tail _ member)) later
      _ = observe start := kept field List.mem_cons_self taken

/-- What only the fields of one key are about depends on what stands for that key. -/
theorem follows_of_foldlM (observe : σ → β) (becomes : Toml → β → β → Prop)
    (keys : (fields.map (·.1)).Nodup)
    (others : ∀ {now after other value}, other ≠ key → step now other value = .ok after →
      observe after = observe now)
    (own : ∀ {now after value}, (key, value) ∈ fields → step now key value = .ok after →
      becomes value (observe now) (observe after))
    (run : fields.foldlM (fun now field => step now field.1 field.2) start = .ok last) :
    Follows becomes (observe start) (observe last) (lookup? key fields) := by
  induction fields generalizing start with
  | nil =>
    obtain rfl := Except.ok.inj run
    rfl
  | cons field rest ih =>
    obtain ⟨middle, taken, later⟩ := Outcome.bind_eq_ok_iff.mp run
    obtain ⟨new, restKeys⟩ := List.nodup_cons.mp keys
    have remaining := ih restKeys (fun member => own (List.mem_cons_of_mem _ member)) later
    by_cases isKey : field.1 = key
    · -- No later field has the key, so what this one leaves stays.
      have absent : lookup? key rest = none := by
        cases found : lookup? key rest with
        | none => rfl
        | some value =>
          have member := (lookup?_eq_some_iff restKeys).mp found
          exact absurd (List.mem_map.mpr ⟨_, member, isKey.symm⟩) new
      rw [absent] at remaining
      have stays : observe last = observe middle := remaining
      have first : lookup? key (field :: rest) = some field.2 := by simp [lookup?, isKey]
      rw [first]
      change becomes field.2 (observe start) (observe last)
      rw [stays]
      exact own (isKey ▸ List.mem_cons_self) (isKey ▸ taken)
    · have skipped : lookup? key (field :: rest) = lookup? key rest := by simp [lookup?, isKey]
      rw [skipped, ← others isKey taken]
      exact remaining

end Folding

end Settings

end ScreenedSuite
