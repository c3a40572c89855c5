import ScreenedSuite.ActionTable.Builtin
import ScreenedSuite.Proofs.Lookup
import ScreenedSuite.Proofs.Screening.Arguments
import ScreenedSuite.Proofs.Suite.Libraries

/-! # Registering actions

A registration changes what is found under one name and nothing else
(`ScreenedSuite.ActionTable.get?_register`), and it keeps the names in ascending order, each of them
once. After any number of registrations the last one of a name decides about it
(`ScreenedSuite.ActionTable.get?_registerAll_eq_some_iff`).

A conversion asks a table for nothing but the actions of its steps, so tables that agree on these
convert alike (`ScreenedSuite.Screening.convert_withActions_congr`). Together this makes a table a
map in which the last registration wins (`ScreenedSuite.ActionTable.registerAll_lastWins`).
-/

namespace ScreenedSuite

namespace ActionTable

/-- The table after registrations, one after another. -/
def registerAll (table : ActionTable) (calls : List (String × Template)) : ActionTable :=
  calls.foldl (fun table call => table.register call.1 call.2) table

/-- The actions that are known without registering any. -/
def builtinActions : List (String × Template) :=
  processActions ++ fileActions ++ generalActions

/-- The last of some registrations of a name is the one with the template. -/
def LastRegistered (calls : List (String × Template)) (name : String) (template : Template) :
    Prop :=
  ∃ before after, calls = before ++ (name, template) :: after ∧ ∀ call ∈ after, call.1 ≠ name

variable {table : ActionTable} {calls : List (String × Template)} {name : String}
  {template : Template}

/-! ## What is found -/

theorem get?_eq_none_iff : table.get? name = none ↔ name ∉ table.names := by
  rw [get?, Option.map_eq_none_iff, List.find?_eq_none, names, List.mem_map]
  constructor
  · rintro unequal ⟨entry, listed, rfl⟩
    exact unequal entry listed (beq_self_eq_true _)
  · intro absent entry listed same
    exact absent ⟨entry, listed, beq_iff_eq.mp same⟩

/-- Setting the entry of one name changes what is found under it alone. -/
theorem find?_setEntry (name other : String) (template : Template)
    (entries : List (String × Template)) :
    ((setEntry name template entries).find? (·.1 == other)).map (·.2) =
      if name = other then some template else (entries.find? (·.1 == other)).map (·.2) := by
  induction entries with
  | nil => rw [setEntry, find?_fst_cons]
  | cons entry rest ih =>
      obtain ⟨first, kept⟩ := entry
      rw [setEntry]
      split
      · rw [find?_fst_cons]
      · split
        · rename_i replaced
          subst replaced
          rw [find?_fst_cons, find?_fst_cons]
          split
          · rfl
          · rfl
        · rename_i different
          rw [find?_fst_cons, ih, find?_fst_cons]
          by_cases found : first = other
          · subst found
            rw [if_pos rfl, if_pos rfl, if_neg different]
          · rw [if_neg found, if_neg found]

/-- A registration changes what is found under its name and nothing else. -/
theorem get?_register (table : ActionTable) (name other : String) (template : Template) :
    (table.register name template).get? other =
      if name = other then some template else table.get? other :=
  find?_setEntry name other template table.entries

theorem get?_register_of_ne {other : String} (different : name ≠ other) :
    (table.register name template).get? other = table.get? other := by
  rw [get?_register, if_neg different]

theorem registerAll_cons (table : ActionTable) (call : String × Template)
    (calls : List (String × Template)) :
    table.registerAll (call :: calls) = (table.register call.1 call.2).registerAll calls :=
  rfl

/-- The first of some registrations is the last of its name when no other is of that name. -/
theorem lastRegistered_cons_iff {call : String × Template} :
    LastRegistered (call :: calls) name template ↔
      LastRegistered calls name template ∨
        (∀ later ∈ calls, later.1 ≠ name) ∧ call = (name, template) := by
  constructor
  · rintro ⟨before, after, same, unnamed⟩
    cases before with
    | nil =>
        obtain ⟨rfl, rfl⟩ := List.cons.inj same
        exact .inr ⟨unnamed, rfl⟩
    | cons earlier before =>
        obtain ⟨rfl, rfl⟩ := List.cons.inj same
        exact .inl ⟨before, after, rfl, unnamed⟩
  · rintro (⟨before, after, rfl, unnamed⟩ | ⟨unnamed, rfl⟩)
    · exact ⟨call :: before, after, rfl, unnamed⟩
    · exact ⟨[], calls, rfl, unnamed⟩

/-- After registrations the last one of a name decides about it. A name of which there is none is
as it was. -/
theorem get?_registerAll_eq_some_iff :
    (table.registerAll calls).get? name = some template ↔
      LastRegistered calls name template ∨
        (∀ call ∈ calls, call.1 ≠ name) ∧ table.get? name = some template := by
  induction calls generalizing table with
  | nil =>
      have none_registered : ¬ LastRegistered [] name template := by
        rintro ⟨before, after, same, _⟩
        exact List.append_ne_nil_of_right_ne_nil before (List.cons_ne_nil _ _) same.symm
      simp only [none_registered, false_or, List.not_mem_nil, IsEmpty.forall_iff, implies_true,
        true_and]
      rfl
  | cons call rest ih =>
      rw [registerAll_cons, ih, lastRegistered_cons_iff, or_assoc, List.forall_mem_cons,
        get?_register]
      -- The first registration matters only to its own name, and only if that is not met again.
      refine or_congr_right ?_
      by_cases same : call.1 = name
      · subst same
        rw [if_pos rfl]
        simp only [Option.some.injEq, ne_eq, not_true_eq_false, false_and, or_false]
        exact and_congr_right fun _ => ⟨fun held => held ▸ rfl, fun held => congrArg Prod.snd held⟩
      · have other : call ≠ (name, template) := fun held => same (held ▸ rfl)
        rw [if_neg same]
        simp only [other, and_false, false_or, ne_eq, same, not_false_eq_true, true_and]

/-- Where no name is registered twice, every registration is the last of its name. -/
theorem lastRegistered_iff_mem (distinct : (calls.map (·.1)).Nodup) :
    LastRegistered calls name template ↔ (name, template) ∈ calls := by
  constructor
  · rintro ⟨before, after, rfl, _⟩
    exact List.mem_append_right _ List.mem_cons_self
  · intro listed
    obtain ⟨before, after, rfl⟩ := List.append_of_mem listed
    refine ⟨before, after, rfl, fun call later same => ?_⟩
    rw [List.map_append, List.map_cons] at distinct
    have unnamed := (List.nodup_cons.mp (List.nodup_append.mp distinct).2.1).1
    exact unnamed (List.mem_map.mpr ⟨call, later, same⟩)

theorem get?_empty (name : String) : empty.get? name = none :=
  rfl

/-- The built-in table holds the built-in actions. -/
theorem get?_builtin_eq_some_iff :
    builtin.get? name = some template ↔ (name, template) ∈ builtinActions := by
  have distinct : (builtinActions.map (·.1)).Nodup := by decide +kernel
  have registered : builtin = empty.registerAll builtinActions := rfl
  rw [registered, get?_registerAll_eq_some_iff, lastRegistered_iff_mem distinct, get?_empty]
  simp only [reduceCtorEq, and_false, or_false]

/-! ## What is listed -/

/-- A registration adds its name to the others, unless it is among them. -/
theorem names_register (table : ActionTable) (name : String) (template : Template) :
    (table.register name template).names = Suite.insertOnce name table.names := by
  have keyed (entries : List (String × Template)) : (setEntry name template entries).map (·.1) =
      Suite.insertOnce name (entries.map (·.1)) := by
    induction entries with
    | nil => rfl
    | cons entry rest ih =>
        rw [setEntry, List.map_cons, Suite.insertOnce]
        split
        · rfl
        · split
          · rename_i same
            rw [List.map_cons, same]
          · rw [List.map_cons, ih]
  exact keyed table.entries

theorem mem_names_registerAll :
    name ∈ (table.registerAll calls).names ↔
      name ∈ table.names ∨ ∃ call ∈ calls, call.1 = name := by
  induction calls generalizing table with
  | nil => simp only [registerAll, List.foldl_nil, List.not_mem_nil, false_and, exists_false,
      or_false]
  | cons call rest ih =>
      rw [registerAll_cons, ih, names_register, Suite.mem_insertOnce, List.exists_mem_cons_iff,
        or_comm (a := name = call.1), or_assoc, eq_comm]

/-- Registrations keep names in ascending order, each of them once. -/
theorem names_registerAll_pairwise (ascending : table.names.Pairwise (· < ·)) :
    (table.registerAll calls).names.Pairwise (· < ·) := by
  induction calls generalizing table with
  | nil => exact ascending
  | cons call rest ih =>
      rw [registerAll_cons]
      refine ih ?_
      rw [names_register]
      exact Suite.insertOnce_pairwise call.1 ascending

end ActionTable

/-! ## What a conversion asks of a table -/

namespace Screening

/-- The screening with another table of actions. -/
def withActions (screening : Screening) (table : ActionTable) : Screening :=
  { screening with actions := table }

variable {screening : Screening} {first second : ActionTable}

/-- What a table has for its action decides about a step. -/
theorem convertStep_withActions (screening : Screening) (table : ActionTable) (index : Nat)
    (step : Step) :
    (screening.withActions table).convertStep index step =
      match table.get? step.action with
      | some template => screening.convertMapped template index step
      | none => convertUnmapped screening.unmapped index step := by
  have asked : (screening.withActions table).actions = table := rfl
  have screened := @screenFrom_congr (screening.withActions table) screening rfl rfl
  rw [convertStep, asked]
  cases table.get? step.action with
  | none => rfl
  | some template => simp only [convertMapped, screened]

theorem convertStep_withActions_congr {step : Step}
    (same : first.get? step.action = second.get? step.action) (index : Nat) :
    (screening.withActions first).convertStep index step =
      (screening.withActions second).convertStep index step := by
  rw [convertStep_withActions, convertStep_withActions, same]

theorem convertFrom_withActions_congr {steps : List Step}
    (same : ∀ step ∈ steps, first.get? step.action = second.get? step.action) (index : Nat) :
    (screening.withActions first).convertFrom index steps =
      (screening.withActions second).convertFrom index steps := by
  induction steps generalizing index with
  | nil => rfl
  | cons step rest ih =>
      obtain ⟨here, later⟩ := List.forall_mem_cons.mp same
      simp only [convertFrom, convertStep_withActions_congr here, ih later]

/-- Tables that agree on the actions of a test case convert it alike. -/
theorem convert_withActions_congr {case : TestCase}
    (same : ∀ step ∈ case.steps, first.get? step.action = second.get? step.action) :
    (screening.withActions first).convert case = (screening.withActions second).convert case := by
  rw [convert, convert, convertFrom_withActions_congr same]

end Screening

namespace ActionTable

/-- What is to be seen of a table that began with some actions and then met some registrations:
a map in which the last registration of a name wins, by which conversions find the template of a
step. -/
structure LastWins (original calls : List (String × Template)) (table : ActionTable) : Prop where
  found : ∀ name template, table.get? name = some template ↔
    LastRegistered calls name template ∨
      (∀ call ∈ calls, call.1 ≠ name) ∧ (name, template) ∈ original
  absent : ∀ name, table.get? name = none ↔ ∀ entry ∈ original ++ calls, entry.1 ≠ name
  ascending : table.names.Pairwise fun first second => utf8Bytes first < utf8Bytes second
  listed : ∀ name, name ∈ table.names ↔ ∃ template, table.get? name = some template
  size : table.size = table.names.length
  isEmpty : table.isEmpty = true ↔ table.names = []
  mapped : ∀ (screening : Screening) index step template,
    table.get? step.action = some template →
      (screening.withActions table).convertStep index step =
        screening.convertMapped template index step
  unmapped : ∀ (screening : Screening) index step, table.get? step.action = none →
    (screening.withActions table).convertStep index step =
      Screening.convertUnmapped screening.unmapped index step
  stepKept : ∀ (screening : Screening) name template index step, step.action ≠ name →
    (screening.withActions (table.register name template)).convertStep index step =
      (screening.withActions table).convertStep index step
  caseKept : ∀ (screening : Screening) name template case,
    (∀ step ∈ case.steps, step.action ≠ name) →
      (screening.withActions (table.register name template)).convert case =
        (screening.withActions table).convert case

/-- Registrations keep what a table shows a map in which the last of them wins. -/
theorem LastWins.of_registrations {original : List (String × Template)} {table : ActionTable}
    (holds : ∀ name template, table.get? name = some template ↔ (name, template) ∈ original)
    (ascending : table.names.Pairwise (· < ·)) (calls : List (String × Template)) :
    LastWins original calls (table.registerAll calls) where
  found name template := by rw [get?_registerAll_eq_some_iff, holds]
  absent name := by
    have known : name ∈ table.names ↔ ∃ entry ∈ original, entry.1 = name := by
      rw [← not_iff_not, ← get?_eq_none_iff, Option.eq_none_iff_forall_ne_some]
      constructor
      · rintro missing ⟨entry, among, rfl⟩
        exact missing entry.2 ((holds entry.1 entry.2).mpr among)
      · intro missing template found
        exact missing ⟨(name, template), (holds name template).mp found, rfl⟩
    rw [get?_eq_none_iff, mem_names_registerAll, known, List.forall_mem_append, not_or]
    simp only [not_exists, not_and, ne_eq]
  ascending := (names_registerAll_pairwise ascending).imp utf8Bytes_lt_of_lt
  listed name := by
    rw [← not_iff_not, ← get?_eq_none_iff, Option.eq_none_iff_forall_ne_some, not_exists]
  size := (List.length_map _).symm
  isEmpty := by rw [ActionTable.isEmpty, List.isEmpty_iff, names, List.map_eq_nil_iff]
  mapped screening index step template found := by
    rw [Screening.convertStep_withActions, found]
  unmapped screening index step missing := by
    rw [Screening.convertStep_withActions, missing]
  stepKept screening name template index step other :=
    Screening.convertStep_withActions_congr (get?_register_of_ne (Ne.symm other)) index
  caseKept screening name template case others :=
    Screening.convert_withActions_congr fun step member =>
      get?_register_of_ne (Ne.symm (others step member))

/-- **The last registration of an action wins.** Whatever is registered, at first or on top of the
built-in actions, every name has the template of its last registration, or else the built-in one;
the names are listed in the order of their bytes; and only the steps with a registered action are
converted otherwise than before. -/
theorem registerAll_lastWins (calls : List (String × Template)) :
    LastWins [] calls (empty.registerAll calls) ∧
      LastWins builtinActions calls (builtin.registerAll calls) := by
  have nothing (name : String) (template : Template) :
      empty.get? name = some template ↔ (name, template) ∈ [] := by
    rw [get?_empty]
    simp only [reduceCtorEq, List.not_mem_nil]
  have builtin_ascending : builtin.names.Pairwise (· < ·) :=
    @names_registerAll_pairwise empty builtinActions .nil
  exact ⟨.of_registrations nothing .nil calls,
    .of_registrations (fun name template => get?_builtin_eq_some_iff) builtin_ascending calls⟩

end ActionTable

end ScreenedSuite
