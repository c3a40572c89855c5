import ScreenedSuite.Proofs.Settings.Fields
import ScreenedSuite.Proofs.Toml.Keys

/-! # What a document says of the settings

A document whose sections are tables is read as a whole or refused as a whole: it is read exactly
when every known key has a value of its type, no replacement is misspelt and the separator is wide
enough (`ScreenedSuite.Settings.exists_ofText?_eq_ok_iff`). What is read holds every value that is
written and the default for everything else (`ScreenedSuite.Settings.describes_of_decode`).
-/

namespace ScreenedSuite.Settings

variable {document fields : Fields} {settings now after : Settings} {field : String} {value : Toml}

/-! ## Steps -/

/-- What a field of the general table does. -/
theorem setGeneral_eq_ok (taken : setGeneral now field value = .ok after) :
    (field = "security_level" ∧ ∃ level,
        decodeChoice Level.all Level.name value = .ok level ∧ after = { now with level }) ∨
      (field = "unmapped_action_policy" ∧ ∃ unmapped,
        decodeChoice UnmappedPolicy.all UnmappedPolicy.name value = .ok unmapped ∧
          after = { now with unmapped }) ∨
      (field = "audit_log" ∧ ∃ auditLog,
        value = .boolean auditLog ∧ after = { now with auditLog }) ∨
      (field = "audit_path" ∧ ∃ path,
        value = .string path ∧ after = { now with auditPath := some path }) ∨
      (field ∉ generalFields ∧ after = now) := by
  unfold setGeneral at taken
  split at taken
  case h_1 =>
    obtain ⟨level, decoded, same⟩ := Outcome.map_eq_ok_iff.mp taken
    exact .inl ⟨rfl, level, decoded, same.symm⟩
  case h_2 =>
    obtain ⟨unmapped, decoded, same⟩ := Outcome.map_eq_ok_iff.mp taken
    exact .inr (.inl ⟨rfl, unmapped, decoded, same.symm⟩)
  case h_3 =>
    obtain ⟨auditLog, decoded, same⟩ := Outcome.map_eq_ok_iff.mp taken
    exact .inr (.inr (.inl
      ⟨rfl, auditLog, decodeBoolean_eq_ok_iff.mp decoded, same.symm⟩))
  case h_4 =>
    obtain ⟨path, decoded, same⟩ := Outcome.map_eq_ok_iff.mp taken
    exact .inr (.inr (.inr (.inl
      ⟨rfl, path, decodeString_eq_ok_iff.mp decoded, same.symm⟩)))
  case h_5 notLevel notUnmapped notLog notPath =>
    refine .inr (.inr (.inr (.inr ⟨?_, (Except.ok.inj taken).symm⟩)))
    simpa [generalFields] using ⟨notLevel, notUnmapped, notLog, notPath⟩

/-- What a field of the suite's table does. -/
theorem setLayout_eq_ok (taken : setLayout now field value = .ok after) :
    (field = "separator_width" ∧ ∃ width : Nat,
        value = .integer width ∧ after = { now with separatorWidth := width }) ∨
      (field ≠ "separator_width" ∧ after = now) := by
  unfold setLayout at taken
  split at taken
  case h_1 =>
    obtain ⟨width, decoded, same⟩ := Outcome.map_eq_ok_iff.mp taken
    exact .inl ⟨rfl, width, decodeSize_eq_ok_iff.mp decoded, same.symm⟩
  case h_2 other => exact .inr ⟨other, (Except.ok.inj taken).symm⟩

/-- What a list does to the replacements of a level. -/
theorem setList_eq_ok {now after : ListOverride} (taken : setList now field value = .ok after) :
    ∃ kind texts, field = ListKind.listName kind ∧ value = .array (texts.map .string) ∧
      after.list? kind = some texts ∧
      ∀ other, other ≠ kind → after.list? other = now.list? other := by
  unfold setList at taken
  split at taken
  case h_1 =>
    obtain ⟨texts, decoded, rfl⟩ := Outcome.map_eq_ok_iff.mp taken
    refine ⟨.command, texts, rfl, decodeStrings_eq_ok_iff.mp decoded, rfl, fun other apart => ?_⟩
    cases other with
    | command => exact absurd rfl apart
    | path => rfl
  case h_2 =>
    obtain ⟨texts, decoded, rfl⟩ := Outcome.map_eq_ok_iff.mp taken
    refine ⟨.path, texts, rfl, decodeStrings_eq_ok_iff.mp decoded, rfl, fun other apart => ?_⟩
    cases other with
    | command => rfl
    | path => exact absurd rfl apart
  case h_3 => cases taken

/-- The replacements of a level, as its fields give them. -/
def decodeOverride (fields : Fields) : Decoded ListOverride :=
  fields.foldlM (fun override field => setList override field.1 field.2) {}

/-- The replacements of all levels, as the fields of their table give them. -/
def decodeOverrides (fields : Fields) : Decoded Overrides :=
  fields.foldlM (fun overrides field => setOverride overrides field.1 field.2) {}

theorem Overrides.at?_set (overrides : Overrides) (level other : Level) (override : ListOverride) :
    (overrides.set level override).at? other =
      if other = level then some override else overrides.at? other := by
  cases level <;> cases other <;> rfl

/-- What the entry of a level does to the replacements. -/
theorem setOverride_eq_ok_iff {now after : Overrides} :
    setOverride now field value = .ok after ↔
      ∃ level fields override, field = Level.name level ∧
        decodeFields "PatternOverride" overrideFields value = .ok fields ∧
        decodeOverride fields = .ok override ∧ after = now.set level override := by
  unfold setOverride
  split
  case h_1 level found =>
    have named := Level.ofName?_eq_some_iff.mp found
    constructor
    · intro taken
      obtain ⟨fields, isTable, taken⟩ := Outcome.bind_eq_ok_iff.mp taken
      obtain ⟨override, decoded, same⟩ := Outcome.map_eq_ok_iff.mp taken
      exact ⟨level, fields, override, named, isTable, decoded, same.symm⟩
    · rintro ⟨other, fields, override, isOther, isTable, decoded, rfl⟩
      obtain rfl := Level.name_injective (named.symm.trans isOther)
      exact Outcome.bind_eq_ok_iff.mpr
        ⟨fields, isTable, Outcome.bind_eq_ok_iff.mpr ⟨override, decoded, rfl⟩⟩
  case h_2 missing =>
    constructor
    · intro taken
      cases taken
    · rintro ⟨level, fields, override, isLevel, -⟩
      rw [Level.ofName?_eq_some_iff.mpr isLevel] at missing
      cases missing

/-- What a table of the document does. -/
theorem setTable_eq_ok {table : String} (taken : setTable now table value = .ok after) :
    (table = "general" ∧ ∃ fields, decodeFields "GeneralConfig" generalFields value = .ok fields ∧
        fields.foldlM (fun now field => setGeneral now field.1 field.2) now = .ok after) ∨
      (table = "patterns" ∧ ∃ fields overrides,
        decodeFields "PatternOverrides" (Level.all.map Level.name) value = .ok fields ∧
          decodeOverrides fields = .ok overrides ∧ after = { now with overrides }) ∨
      (table = "robot" ∧ ∃ fields,
        decodeFields "RobotConfig" ["separator_width"] value = .ok fields ∧
          fields.foldlM (fun now field => setLayout now field.1 field.2) now = .ok after) ∨
      (table ∉ ["general", "patterns", "robot"] ∧ after = now) := by
  unfold setTable at taken
  split at taken
  case h_1 =>
    obtain ⟨fields, decoded, run⟩ := Outcome.bind_eq_ok_iff.mp taken
    exact .inl ⟨rfl, fields, decoded, run⟩
  case h_2 =>
    obtain ⟨fields, decoded, run⟩ := Outcome.bind_eq_ok_iff.mp taken
    obtain ⟨overrides, run, same⟩ := Outcome.map_eq_ok_iff.mp run
    exact .inr (.inl ⟨rfl, fields, overrides, decoded, run, same.symm⟩)
  case h_3 =>
    obtain ⟨fields, decoded, run⟩ := Outcome.bind_eq_ok_iff.mp taken
    exact .inr (.inr (.inl ⟨rfl, fields, decoded, run⟩))
  case h_4 notGeneral notPatterns notRobot =>
    refine .inr (.inr (.inr ⟨?_, (Except.ok.inj taken).symm⟩))
    simpa using ⟨notGeneral, notPatterns, notRobot⟩

/-! ## Documents -/

/-- The fields of a section. A section that is absent has none. -/
def sectionFields (document : Fields) (name : String) : Fields :=
  match lookup? name document with
  | some (.table fields) => fields
  | _ => []

/-- Whether the sections of a document and the replacements in it are tables, and the choices in
it are texts. -/
structure Shaped (document : Fields) : Prop where
  sections : ∀ name ∈ ["general", "patterns", "robot"], ∀ value, (name, value) ∈ document →
    ∃ fields, value = .table fields
  overrides : ∀ entry ∈ sectionFields document "patterns", ∃ fields, entry.2 = .table fields
  choices : ∀ name ∈ ["security_level", "unmapped_action_policy"], ∀ value,
    (name, value) ∈ sectionFields document "general" → ∃ text, value = .string text

/-- Whether every known key of a document has a value of its type and no replacement is for an
unknown level or list. -/
structure WellTyped (document : Fields) : Prop where
  level : ∀ value, ("security_level", value) ∈ sectionFields document "general" →
    ∃ level : Level, value = .string level.name
  unmapped : ∀ value, ("unmapped_action_policy", value) ∈ sectionFields document "general" →
    ∃ policy : UnmappedPolicy, value = .string policy.name
  auditLog : ∀ value, ("audit_log", value) ∈ sectionFields document "general" →
    ∃ enabled, value = .boolean enabled
  auditPath : ∀ value, ("audit_path", value) ∈ sectionFields document "general" →
    ∃ path, value = .string path
  separatorWidth : ∀ value, ("separator_width", value) ∈ sectionFields document "robot" →
    ∃ width : Nat, value = .integer width
  levels : ∀ entry ∈ sectionFields document "patterns", ∃ level : Level, entry.1 = level.name
  lists : ∀ entry ∈ sectionFields document "patterns", ∀ fields, entry.2 = .table fields →
    ∀ field ∈ fields, (∃ kind : ListKind, field.1 = kind.listName) ∧
      ∃ texts : List String, field.2 = .array (texts.map .string)

/-- The width of the separator in a document. -/
def writtenWidth (document : Fields) : Nat :=
  match lookup? "separator_width" (sectionFields document "robot") with
  | some (.integer width) => width.toNat
  | _ => 4

/-- Whether a setting is what is written, or the default where nothing is. -/
def Reads {β : Type} (reads : Toml → β → Prop) (default setting : β) : Option Toml → Prop
  | none => setting = default
  | some value => reads value setting

/-- Whether the fields of a table give the replacements of a level. -/
structure DescribesLists (fields : Fields) (override : ListOverride) : Prop where
  kinds : ∀ field ∈ fields, ∃ kind : ListKind, field.1 = kind.listName
  lists : ∀ kind, Reads
    (fun value list => ∃ texts, value = .array (texts.map .string) ∧ list = some texts)
    none (override.list? kind) (lookup? kind.listName fields)

/-- Whether settings hold every value of a document as it is written, and the default for every
key that is absent. -/
structure Describes (document : Fields) (settings : Settings) : Prop where
  level : Reads (fun value level => value = .string level.name) .standard settings.level
    (lookup? "security_level" (sectionFields document "general"))
  unmapped : Reads (fun value policy => value = .string policy.name) .reject settings.unmapped
    (lookup? "unmapped_action_policy" (sectionFields document "general"))
  auditLog : Reads (fun value enabled => value = .boolean enabled) false settings.auditLog
    (lookup? "audit_log" (sectionFields document "general"))
  auditPath : Reads (fun value path => ∃ text, value = .string text ∧ path = some text)
    (some "~/.config/json2robot/audit.jsonl") settings.auditPath
    (lookup? "audit_path" (sectionFields document "general"))
  separatorWidth : Reads (fun value width => value = .integer (width : Nat)) 4
    settings.separatorWidth (lookup? "separator_width" (sectionFields document "robot"))
  levels : ∀ entry ∈ sectionFields document "patterns", ∃ level : Level, entry.1 = level.name
  overrides : ∀ level : Level, Reads
    (fun value override => ∃ fields lists, value = .table fields ∧ override = some lists ∧
      DescribesLists fields lists)
    none (settings.overrides.at? level)
    (lookup? level.name (sectionFields document "patterns"))

/-! ## Reading is sound -/

theorem Follows.reads {β : Type} {reads : Toml → β → Prop} {default setting : β}
    {found : Option Toml}
    (follows : Follows (fun value _ after => reads value after) default setting found) :
    Reads reads default setting found := by
  cases found with
  | none => exact follows
  | some value => exact follows

theorem describesLists_of_decodeOverride (keys : (fields.map (·.1)).Nodup)
    {override : ListOverride} (decoded : decodeOverride fields = .ok override) :
    DescribesLists fields override where
  kinds field member := by
    obtain ⟨now, after, taken⟩ := exists_step_of_foldlM decoded field member
    obtain ⟨kind, texts, isKind, -⟩ := setList_eq_ok taken
    exact ⟨kind, isKind⟩
  lists kind := by
    have default : (({} : ListOverride).list? kind) = none := by cases kind <;> rfl
    rw [← default]
    refine Follows.reads (follows_of_foldlM (·.list? kind) _ keys (fun apart taken => ?_)
      (fun member taken => ?_) decoded)
    · obtain ⟨other, texts, isOther, -, -, kept⟩ := setList_eq_ok taken
      exact kept kind fun same => apart (same ▸ isOther)
    · obtain ⟨other, texts, isOther, isArray, isList, -⟩ := setList_eq_ok taken
      obtain rfl := ListKind.listName_injective isOther
      exact ⟨texts, isArray, isList⟩

/-- Replacements that are decoded are those of the tables they are decoded from. -/
theorem describes_of_decodeOverrides {overrides : Overrides} (keys : (fields.map (·.1)).Nodup)
    (tables : ∀ entry ∈ fields, ∃ inner, entry.2 = .table inner)
    (distinct : ∀ entry ∈ fields, entry.2.Distinct)
    (decoded : decodeOverrides fields = .ok overrides) :
    (∀ entry ∈ fields, ∃ level : Level, entry.1 = level.name) ∧
      ∀ level : Level, Reads
        (fun value override => ∃ inner lists, value = .table inner ∧ override = some lists ∧
          DescribesLists inner lists)
        none (overrides.at? level) (lookup? level.name fields) := by
  constructor
  · intro entry member
    obtain ⟨now, after, taken⟩ := exists_step_of_foldlM decoded entry member
    obtain ⟨level, inner, override, isLevel, -⟩ := setOverride_eq_ok_iff.mp taken
    exact ⟨level, isLevel⟩
  · intro level
    have default : (({} : Overrides).at? level) = none := by cases level <;> rfl
    rw [← default]
    refine Follows.reads (follows_of_foldlM (·.at? level) _ keys (fun apart taken => ?_)
      (fun member taken => ?_) decoded)
    · obtain ⟨other, inner, override, isOther, -, -, rfl⟩ := setOverride_eq_ok_iff.mp taken
      have different : level ≠ other := fun same => apart (same ▸ isOther)
      rw [Overrides.at?_set, if_neg different]
    · obtain ⟨inner, isTable⟩ := tables _ member
      obtain ⟨other, entries, override, isOther, opened, decoded, rfl⟩ :=
        setOverride_eq_ok_iff.mp taken
      obtain rfl := Level.name_injective isOther
      dsimp only at isTable
      subst isTable
      obtain rfl := Except.ok.inj opened
      have lists := describesLists_of_decodeOverride (distinct _ member).keys decoded
      refine ⟨inner, override, rfl, ?_, lists⟩
      rw [Overrides.at?_set, if_pos rfl]

theorem sectionFields_of_mem {name : String} (keys : (document.map (·.1)).Nodup)
    (member : (name, .table fields) ∈ document) : sectionFields document name = fields := by
  rw [sectionFields, (lookup?_eq_some_iff keys).mpr member]

/-- What only one section is about comes from the fields of that section, and from none where the
section is absent. -/
theorem section_of_decode {β : Type} (observe : Settings → β) (made : Fields → β → β → Prop)
    {name : String} (distinct : (Toml.table document).Distinct)
    (tables : ∀ value, (name, value) ∈ document → ∃ fields, value = .table fields)
    (apart : ∀ {now after other value}, other ≠ name → setTable now other value = .ok after →
      observe after = observe now)
    (own : ∀ {now after fields}, (name, .table fields) ∈ document →
      setTable now name (.table fields) = .ok after → made fields (observe now) (observe after))
    (absent : made [] (observe {}) (observe {})) (decoded : decode document = .ok settings) :
    made (sectionFields document name) (observe {}) (observe settings) := by
  have run : document.foldlM (fun now entry => setTable now entry.1 entry.2) {} = .ok settings :=
    decoded
  have followed : Follows
      (fun value before after => ∀ fields, value = .table fields → made fields before after)
      (observe {}) (observe settings) (lookup? name document) := by
    refine follows_of_foldlM observe _ distinct.keys @apart (fun member taken fields isTable => ?_)
      run
    subst isTable
    exact own member taken
  cases found : lookup? name document with
  | none =>
    rw [found] at followed
    have unchanged : observe settings = observe {} := followed
    rw [sectionFields, found, unchanged]
    exact absent
  | some value =>
    rw [found] at followed
    obtain ⟨fields, rfl⟩ := tables value ((lookup?_eq_some_iff distinct.keys).mp found)
    rw [sectionFields, found]
    exact followed fields rfl

/-- A setting that only one key of one section is about is what is written for that key. -/
theorem reads_of_decode {β : Type} (observe : Settings → β) {name key : String}
    {step : Settings → String → Toml → Decoded Settings} {reads : Toml → β → Prop}
    (distinct : (Toml.table document).Distinct)
    (tables : ∀ value, (name, value) ∈ document → ∃ fields, value = .table fields)
    (opened : ∀ now fields, setTable now name (.table fields) =
      fields.foldlM (fun now field => step now field.1 field.2) now)
    (apart : ∀ {now after other value}, other ≠ name → setTable now other value = .ok after →
      observe after = observe now)
    (others : ∀ {now after other value}, other ≠ key → step now other value = .ok after →
      observe after = observe now)
    (own : ∀ {now after value}, (key, value) ∈ sectionFields document name →
      step now key value = .ok after → reads value (observe after))
    (decoded : decode document = .ok settings) :
    Reads reads (observe {}) (observe settings)
      (lookup? key (sectionFields document name)) := by
  refine (section_of_decode observe (fun fields before after =>
    Follows (fun value _ after => reads value after) before after (lookup? key fields))
    distinct tables @apart (fun {now after fields} member taken => ?_) rfl decoded).reads
  rw [sectionFields_of_mem distinct.keys member] at own
  rw [opened] at taken
  exact follows_of_foldlM observe _ (distinct.values _ member).keys @others @own taken

/-- The sections beside the general one leave its settings as they are. -/
theorem observe_setTable_of_ne_general {β : Type} {observe : Settings → β}
    (overridesApart : ∀ now overrides, observe { now with overrides } = observe now)
    (widthApart : ∀ now separatorWidth, observe { now with separatorWidth } = observe now)
    {table : String} (apart : table ≠ "general") (taken : setTable now table value = .ok after) :
    observe after = observe now := by
  rcases setTable_eq_ok taken with ⟨isGeneral, -⟩ | ⟨-, fields, overrides, -, -, rfl⟩ |
    ⟨-, fields, -, run⟩ | ⟨-, rfl⟩
  · exact absurd isGeneral apart
  · exact overridesApart now overrides
  · refine observe_foldlM observe (fun field _ _ _ taken => ?_) run
    rcases setLayout_eq_ok taken with ⟨-, width, -, rfl⟩ | ⟨-, rfl⟩
    · exact widthApart _ width
    · rfl
  · rfl

/-- A setting that only one key of the general section is about is what is written for it. -/
theorem reads_general {β : Type} (observe : Settings → β) {key : String} {reads : Toml → β → Prop}
    (distinct : (Toml.table document).Distinct) (shaped : Shaped document)
    (overridesApart : ∀ now overrides, observe { now with overrides } = observe now)
    (widthApart : ∀ now separatorWidth, observe { now with separatorWidth } = observe now)
    (others : ∀ {now after other value}, other ≠ key → setGeneral now other value = .ok after →
      observe after = observe now)
    (own : ∀ {now after value}, (key, value) ∈ sectionFields document "general" →
      setGeneral now key value = .ok after → reads value (observe after))
    (decoded : decode document = .ok settings) :
    Reads reads (observe {}) (observe settings)
      (lookup? key (sectionFields document "general")) := by
  exact reads_of_decode observe distinct (shaped.sections "general" (by decide))
    (fun _ _ => rfl)
    (fun apart taken => observe_setTable_of_ne_general overridesApart widthApart apart taken)
    @others @own decoded

/-- The sections beside the one for the suite leave its width as it is. -/
theorem separatorWidth_setTable {table : String} (apart : table ≠ "robot")
    (taken : setTable now table value = .ok after) : after.separatorWidth = now.separatorWidth := by
  rcases setTable_eq_ok taken with ⟨-, fields, -, run⟩ | ⟨-, fields, overrides, -, -, rfl⟩ |
    ⟨isRobot, -⟩ | ⟨-, rfl⟩
  · refine observe_foldlM (·.separatorWidth) (fun field _ _ _ taken => ?_) run
    rcases setGeneral_eq_ok taken with ⟨-, _, -, rfl⟩ | ⟨-, _, -, rfl⟩ | ⟨-, _, -, rfl⟩ |
      ⟨-, _, -, rfl⟩ | ⟨-, rfl⟩ <;> rfl
  · rfl
  · exact absurd isRobot apart
  · rfl

/-- The sections beside the one for the patterns leave the replacements as they are. -/
theorem overrides_setTable {table : String} (apart : table ≠ "patterns")
    (taken : setTable now table value = .ok after) : after.overrides = now.overrides := by
  rcases setTable_eq_ok taken with ⟨-, fields, -, run⟩ | ⟨isPatterns, -⟩ | ⟨-, fields, -, run⟩ |
    ⟨-, rfl⟩
  · refine observe_foldlM (·.overrides) (fun field _ _ _ taken => ?_) run
    rcases setGeneral_eq_ok taken with ⟨-, _, -, rfl⟩ | ⟨-, _, -, rfl⟩ | ⟨-, _, -, rfl⟩ |
      ⟨-, _, -, rfl⟩ | ⟨-, rfl⟩ <;> rfl
  · exact absurd isPatterns apart
  · refine observe_foldlM (·.overrides) (fun field _ _ _ taken => ?_) run
    rcases setLayout_eq_ok taken with ⟨-, width, -, rfl⟩ | ⟨-, rfl⟩ <;> rfl
  · rfl

/-- The replacements are those that the section for the patterns gives. -/
theorem decodeOverrides_of_decode (distinct : (Toml.table document).Distinct)
    (shaped : Shaped document) (decoded : decode document = .ok settings) :
    decodeOverrides (sectionFields document "patterns") = .ok settings.overrides := by
  refine section_of_decode (·.overrides)
    (fun fields _ overrides => decodeOverrides fields = .ok overrides) distinct
    (shaped.sections "patterns" (by decide)) (fun apart => overrides_setTable apart)
    (fun {now after fields} _ taken => ?_) rfl decoded
  obtain ⟨entries, opened, taken⟩ := Outcome.bind_eq_ok_iff.mp taken
  obtain rfl := Except.ok.inj opened
  obtain ⟨overrides, decoded, rfl⟩ := Outcome.map_eq_ok_iff.mp taken
  exact decoded

theorem distinct_sectionFields (distinct : (Toml.table document).Distinct) (name : String) :
    (Toml.table (sectionFields document name)).Distinct := by
  rw [sectionFields]
  split
  case h_1 fields found => exact distinct.values _ ((lookup?_eq_some_iff distinct.keys).mp found)
  case h_2 => exact .table List.nodup_nil (List.forall_mem_nil _)

/-- **What is read is what is written.** Settings that are decoded hold every value of the document
and the default for every key that is absent. -/
theorem describes_of_decode (distinct : (Toml.table document).Distinct) (shaped : Shaped document)
    (decoded : decode document = .ok settings) : Describes document settings := by
  have patterns := distinct_sectionFields distinct "patterns"
  obtain ⟨levels, overrides⟩ := describes_of_decodeOverrides patterns.keys shaped.overrides
    patterns.values (decodeOverrides_of_decode distinct shaped decoded)
  exact {
    level := by
      refine reads_general (·.level) distinct shaped (fun _ _ => rfl) (fun _ _ => rfl)
        (fun apart taken => ?_) (fun member taken => ?_) decoded
      · rcases setGeneral_eq_ok taken with ⟨isLevel, -⟩ | ⟨-, _, -, rfl⟩ | ⟨-, _, -, rfl⟩ |
          ⟨-, _, -, rfl⟩ | ⟨-, rfl⟩
        exacts [absurd isLevel apart, rfl, rfl, rfl, rfl]
      · obtain ⟨text, rfl⟩ := shaped.choices _ (by decide) _ member
        obtain ⟨level, decoded, rfl⟩ := Outcome.map_eq_ok_iff.mp taken
        exact congrArg Toml.string
          ((decodeChoice_string_eq_ok_iff Level.name_injective Level.mem_all).mp decoded)
    unmapped := by
      refine reads_general (·.unmapped) distinct shaped (fun _ _ => rfl) (fun _ _ => rfl)
        (fun apart taken => ?_) (fun member taken => ?_) decoded
      · rcases setGeneral_eq_ok taken with ⟨-, _, -, rfl⟩ | ⟨isUnmapped, -⟩ | ⟨-, _, -, rfl⟩ |
          ⟨-, _, -, rfl⟩ | ⟨-, rfl⟩
        exacts [rfl, absurd isUnmapped apart, rfl, rfl, rfl]
      · obtain ⟨text, rfl⟩ := shaped.choices _ (by decide) _ member
        obtain ⟨policy, decoded, rfl⟩ := Outcome.map_eq_ok_iff.mp taken
        exact congrArg Toml.string ((decodeChoice_string_eq_ok_iff
          UnmappedPolicy.name_injective UnmappedPolicy.mem_all).mp decoded)
    auditLog := by
      refine reads_general (·.auditLog) distinct shaped (fun _ _ => rfl) (fun _ _ => rfl)
        (fun apart taken => ?_) (fun _ taken => ?_) decoded
      · rcases setGeneral_eq_ok taken with ⟨-, _, -, rfl⟩ | ⟨-, _, -, rfl⟩ | ⟨isLog, -⟩ |
          ⟨-, _, -, rfl⟩ | ⟨-, rfl⟩
        exacts [rfl, rfl, absurd isLog apart, rfl, rfl]
      · obtain ⟨enabled, decoded, rfl⟩ := Outcome.map_eq_ok_iff.mp taken
        exact decodeBoolean_eq_ok_iff.mp decoded
    auditPath := by
      refine reads_general (·.auditPath) distinct shaped (fun _ _ => rfl) (fun _ _ => rfl)
        (fun apart taken => ?_) (fun _ taken => ?_) decoded
      · rcases setGeneral_eq_ok taken with ⟨-, _, -, rfl⟩ | ⟨-, _, -, rfl⟩ | ⟨-, _, -, rfl⟩ |
          ⟨isPath, -⟩ | ⟨-, rfl⟩
        exacts [rfl, rfl, rfl, absurd isPath apart, rfl]
      · obtain ⟨path, decoded, rfl⟩ := Outcome.map_eq_ok_iff.mp taken
        exact ⟨path, decodeString_eq_ok_iff.mp decoded, rfl⟩
    separatorWidth := by
      refine reads_of_decode (·.separatorWidth) distinct (shaped.sections "robot" (by decide))
        (fun _ _ => rfl) (fun apart => separatorWidth_setTable apart) (fun apart taken => ?_)
        (fun _ taken => ?_) decoded
      · rcases setLayout_eq_ok taken with ⟨isWidth, -⟩ | ⟨-, rfl⟩
        · exact absurd isWidth apart
        · rfl
      · obtain ⟨width, decoded, rfl⟩ := Outcome.map_eq_ok_iff.mp taken
        exact decodeSize_eq_ok_iff.mp decoded
    levels
    overrides }

/-! ## Reading is complete -/

theorem exists_setGeneral (typed : WellTyped document)
    (member : (field, value) ∈ sectionFields document "general") (now : Settings) :
    ∃ after, setGeneral now field value = .ok after := by
  unfold setGeneral
  split
  case h_1 =>
    obtain ⟨level, rfl⟩ := typed.level value member
    have decoded := (decodeChoice_string_eq_ok_iff Level.name_injective Level.mem_all).mpr
      (Eq.refl level.name)
    exact ⟨_, Outcome.bind_eq_ok_iff.mpr ⟨level, decoded, rfl⟩⟩
  case h_2 =>
    obtain ⟨policy, rfl⟩ := typed.unmapped value member
    have decoded := (decodeChoice_string_eq_ok_iff UnmappedPolicy.name_injective
      UnmappedPolicy.mem_all).mpr (Eq.refl policy.name)
    exact ⟨_, Outcome.bind_eq_ok_iff.mpr ⟨policy, decoded, rfl⟩⟩
  case h_3 =>
    obtain ⟨enabled, rfl⟩ := typed.auditLog value member
    exact ⟨_, rfl⟩
  case h_4 =>
    obtain ⟨path, rfl⟩ := typed.auditPath value member
    exact ⟨_, rfl⟩
  case h_5 => exact ⟨now, rfl⟩

theorem exists_setLayout (typed : WellTyped document)
    (member : (field, value) ∈ sectionFields document "robot") (now : Settings) :
    ∃ after, setLayout now field value = .ok after := by
  unfold setLayout
  split
  case h_1 =>
    obtain ⟨width, rfl⟩ := typed.separatorWidth value member
    exact ⟨_, Outcome.bind_eq_ok_iff.mpr ⟨width, decodeSize_eq_ok_iff.mpr rfl, rfl⟩⟩
  case h_2 => exact ⟨now, rfl⟩

theorem exists_setList {kind : ListKind} {texts : List String} (isKind : field = kind.listName)
    (areTexts : value = .array (texts.map .string)) (now : ListOverride) :
    ∃ after, setList now field value = .ok after := by
  subst isKind
  have decoded := decodeStrings_eq_ok_iff.mpr areTexts
  cases kind with
  | command => exact ⟨_, Outcome.bind_eq_ok_iff.mpr ⟨texts, decoded, rfl⟩⟩
  | path => exact ⟨_, Outcome.bind_eq_ok_iff.mpr ⟨texts, decoded, rfl⟩⟩

theorem exists_setOverride (shaped : Shaped document) (typed : WellTyped document)
    (member : (field, value) ∈ sectionFields document "patterns") (now : Overrides) :
    ∃ after, setOverride now field value = .ok after := by
  obtain ⟨fields, isTable⟩ := shaped.overrides _ member
  obtain ⟨level, isLevel⟩ := typed.levels _ member
  have decoded : ∃ override, decodeOverride fields = .ok override := by
    refine exists_foldlM_eq_ok fun inner innerMember now => ?_
    obtain ⟨⟨kind, isKind⟩, texts, areTexts⟩ :=
      typed.lists _ member fields isTable inner innerMember
    exact exists_setList isKind areTexts now
  obtain ⟨override, decoded⟩ := decoded
  dsimp only at isTable isLevel
  subst isTable
  exact ⟨_, setOverride_eq_ok_iff.mpr ⟨level, fields, override, isLevel, rfl, decoded, rfl⟩⟩

/-- Nothing but a value of a wrong type or an unknown replacement keeps a document from being
decoded. -/
theorem exists_decode_eq_ok (distinct : (Toml.table document).Distinct) (shaped : Shaped document)
    (typed : WellTyped document) : ∃ settings, decode document = .ok settings := by
  refine exists_foldlM_eq_ok fun entry member now => ?_
  obtain ⟨name, value⟩ := entry
  have opened : ∀ name ∈ ["general", "patterns", "robot"], (name, value) ∈ document →
      value = .table (sectionFields document name) := by
    intro name known member
    obtain ⟨fields, rfl⟩ := shaped.sections name known value member
    rw [sectionFields_of_mem distinct.keys member]
  dsimp only
  unfold setTable
  split
  case h_1 =>
    rw [opened "general" (by decide) member]
    exact exists_foldlM_eq_ok fun field member now => exists_setGeneral typed member now
  case h_2 =>
    rw [opened "patterns" (by decide) member]
    obtain ⟨overrides, decoded⟩ : ∃ overrides,
        decodeOverrides (sectionFields document "patterns") = .ok overrides :=
      exists_foldlM_eq_ok fun field member now => exists_setOverride shaped typed member now
    exact ⟨_, Outcome.bind_eq_ok_iff.mpr
      ⟨_, rfl, Outcome.bind_eq_ok_iff.mpr ⟨overrides, decoded, rfl⟩⟩⟩
  case h_3 =>
    rw [opened "robot" (by decide) member]
    exact exists_foldlM_eq_ok fun field member now => exists_setLayout typed member now
  case h_4 => exact ⟨now, rfl⟩

/-! ## Documents and their settings -/

namespace Reads

variable {β : Type} {reads : Toml → β → Prop} {default first second : β} {found : Option Toml}

theorem of_mem {key : String} (keys : (fields.map (·.1)).Nodup) (member : (key, value) ∈ fields)
    (resolved : Reads reads default first (lookup? key fields)) : reads value first := by
  rw [(lookup?_eq_some_iff keys).mpr member] at resolved
  exact resolved

theorem unique (functional : ∀ value first second, reads value first → reads value second →
      first = second)
    (resolved : Reads reads default first found) (also : Reads reads default second found) :
    first = second := by
  cases found with
  | none => exact Eq.trans resolved (Eq.symm also)
  | some value => exact functional value first second resolved also

end Reads

theorem DescribesLists.unique {first second : ListOverride}
    (describes : DescribesLists fields first)
    (also : DescribesLists fields second) : first = second := by
  have same (kind : ListKind) : first.list? kind = second.list? kind := by
    refine Reads.unique ?_ (describes.lists kind) (also.lists kind)
    rintro value _ _ ⟨texts, rfl, rfl⟩ ⟨others, areOthers, rfl⟩
    have texts_eq :=
      List.map_injective_iff.mpr (fun _ _ => Toml.string.inj) (Toml.array.inj areOthers)
    rw [texts_eq]
  have commands := same .command
  have paths := same .path
  cases first
  cases second
  simp_all [ListOverride.list?]

namespace Describes

theorem wellTyped (distinct : (Toml.table document).Distinct)
    (describes : Describes document settings) : WellTyped document := by
  have general : ((sectionFields document "general").map (·.1)).Nodup :=
    (distinct_sectionFields distinct "general").keys
  have patterns := distinct_sectionFields distinct "patterns"
  have robot := (distinct_sectionFields distinct "robot").keys
  exact {
    level := fun value member =>
      have written := describes.level.of_mem general member
      ⟨_, written⟩
    unmapped := fun value member =>
      have written := describes.unmapped.of_mem general member
      ⟨_, written⟩
    auditLog := fun value member =>
      have written := describes.auditLog.of_mem general member
      ⟨_, written⟩
    auditPath := fun value member =>
      have ⟨text, written, _⟩ := describes.auditPath.of_mem general member
      ⟨text, written⟩
    separatorWidth := fun value member =>
      have written := describes.separatorWidth.of_mem robot member
      ⟨_, written⟩
    levels := describes.levels
    lists := by
      rintro ⟨name, value⟩ member fields rfl ⟨key, list⟩ fieldMember
      obtain ⟨level, rfl⟩ := describes.levels _ member
      obtain ⟨inner, lists, isInner, -, inside⟩ :=
        (describes.overrides level).of_mem patterns.keys member
      obtain rfl := Toml.table.inj isInner
      obtain ⟨kind, rfl⟩ := inside.kinds _ fieldMember
      have innerKeys := (patterns.values _ member).keys
      obtain ⟨texts, areTexts, -⟩ := (inside.lists kind).of_mem innerKeys fieldMember
      exact ⟨⟨kind, rfl⟩, texts, areTexts⟩ }

theorem separatorWidth_eq (describes : Describes document settings) :
    settings.separatorWidth = writtenWidth document := by
  have reads := describes.separatorWidth
  rw [writtenWidth]
  cases found : lookup? "separator_width" (sectionFields document "robot") with
  | none =>
    rw [found] at reads
    exact reads
  | some value =>
    rw [found] at reads
    have isWidth : value = .integer settings.separatorWidth := reads
    rw [isWidth]
    rfl

/-- A document describes at most one settings. -/
theorem unique {other : Settings} (describes : Describes document settings)
    (also : Describes document other) : settings = other := by
  have level := describes.level.unique (fun _ _ _ written again =>
    Level.name_injective (Toml.string.inj (written.symm.trans again))) also.level
  have unmapped := describes.unmapped.unique (fun _ _ _ written again =>
    UnmappedPolicy.name_injective (Toml.string.inj (written.symm.trans again))) also.unmapped
  have auditLog := describes.auditLog.unique (fun _ _ _ written again =>
    Toml.boolean.inj (written.symm.trans again)) also.auditLog
  have auditPath : settings.auditPath = other.auditPath := by
    refine describes.auditPath.unique ?_ also.auditPath
    rintro _ _ _ ⟨text, rfl, rfl⟩ ⟨same, isSame, rfl⟩
    rw [Toml.string.inj isSame]
  have separatorWidth := describes.separatorWidth_eq.trans also.separatorWidth_eq.symm
  have overrides (level : Level) : settings.overrides.at? level = other.overrides.at? level := by
    refine (describes.overrides level).unique ?_ (also.overrides level)
    rintro _ _ _ ⟨fields, lists, rfl, rfl, inside⟩ ⟨again, same, isAgain, rfl, alsoInside⟩
    obtain rfl := Toml.table.inj isAgain
    rw [inside.unique alsoInside]
  have permissive := overrides .permissive
  have standard := overrides .standard
  have strict := overrides .strict
  rcases settings with ⟨_, _, _, _, ⟨_, _, _⟩, _⟩
  rcases other with ⟨_, _, _, _, ⟨_, _, _⟩, _⟩
  simp_all [Overrides.at?]

end Describes

variable {text : String}

theorem ofText?_of_parsed (parsed : Toml.ofText? text = .ok document) :
    ofText? text = match decode document with
      | .error cause => .error (.value cause)
      | .ok settings => settings.validate := by
  cases decoded : decode document <;> simp only [ofText?, parsed, decoded]

/-- **A document is read as it is written.** A document with sections of the right shape is read as
the settings that it describes, if their separator is wide enough. -/
theorem ofText?_eq_ok_iff (parsed : Toml.ofText? text = .ok document) (shaped : Shaped document) :
    ofText? text = .ok settings ↔
      Describes document settings ∧ leastSeparatorWidth ≤ settings.separatorWidth := by
  have distinct := Toml.distinct_of_ofText? parsed
  rw [ofText?_of_parsed parsed]
  constructor
  · intro read
    split at read
    case h_1 => cases read
    case h_2 found decoded =>
      rw [validate] at read
      split at read
      case isTrue => cases read
      case isFalse wide =>
        obtain rfl := Except.ok.inj read
        exact ⟨describes_of_decode distinct shaped decoded, Nat.not_lt.mp wide⟩
  · rintro ⟨describes, wide⟩
    obtain ⟨found, decoded⟩ := exists_decode_eq_ok distinct shaped (describes.wellTyped distinct)
    obtain rfl := (describes_of_decode distinct shaped decoded).unique describes
    rw [decoded]
    exact if_neg (Nat.not_lt.mpr wide)

/-- A document is read exactly when its values have their types and its separator is wide
enough. -/
theorem exists_ofText?_eq_ok_iff (parsed : Toml.ofText? text = .ok document)
    (shaped : Shaped document) :
    (∃ settings, ofText? text = .ok settings) ↔
      WellTyped document ∧ leastSeparatorWidth ≤ writtenWidth document := by
  have distinct := Toml.distinct_of_ofText? parsed
  constructor
  · rintro ⟨settings, read⟩
    obtain ⟨describes, wide⟩ := (ofText?_eq_ok_iff parsed shaped).mp read
    exact ⟨describes.wellTyped distinct, describes.separatorWidth_eq ▸ wide⟩
  · rintro ⟨typed, wide⟩
    obtain ⟨settings, decoded⟩ := exists_decode_eq_ok distinct shaped typed
    have describes := describes_of_decode distinct shaped decoded
    exact ⟨settings, (ofText?_eq_ok_iff parsed shaped).mpr
      ⟨describes, describes.separatorWidth_eq ▸ wide⟩⟩

/-- A document with a value of a wrong type is refused for a value. -/
theorem ofText?_of_not_wellTyped (parsed : Toml.ofText? text = .ok document)
    (shaped : Shaped document) (untyped : ¬ WellTyped document) :
    ∃ cause, ofText? text = .error (.value cause) := by
  have distinct := Toml.distinct_of_ofText? parsed
  rw [ofText?_of_parsed parsed]
  cases decoded : decode document with
  | error cause => exact ⟨cause, rfl⟩
  | ok settings =>
    exact absurd ((describes_of_decode distinct shaped decoded).wellTyped distinct) untyped

/-- A document whose only fault is the width of its separator is refused for that width. -/
theorem ofText?_of_narrow (parsed : Toml.ofText? text = .ok document) (shaped : Shaped document)
    (typed : WellTyped document) (narrow : writtenWidth document < leastSeparatorWidth) :
    ofText? text = .error (.narrowSeparator (writtenWidth document)) := by
  have distinct := Toml.distinct_of_ofText? parsed
  obtain ⟨settings, decoded⟩ := exists_decode_eq_ok distinct shaped typed
  have width := (describes_of_decode distinct shaped decoded).separatorWidth_eq
  rw [ofText?_of_parsed parsed, decoded]
  rw [← width] at narrow ⊢
  exact if_pos narrow

end ScreenedSuite.Settings
