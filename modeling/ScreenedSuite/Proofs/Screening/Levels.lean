import Mathlib.Data.List.Flatten
import Mathlib.Data.List.Forall2
import ScreenedSuite.ActionTable.Builtin
import ScreenedSuite.Proofs.Catalog.Tiers
import ScreenedSuite.Proofs.Screening.Steps

/-! # Lower levels loosen a screening

With the built-in catalog a lower level flags less and refuses less than a higher one, and it does
nothing else differently (`ScreenedSuite.Screening.convert_builtin_mono`). The argument holds for
any two screenings of which one loosens the other (`ScreenedSuite.Screening.Loosens`).
-/

namespace ScreenedSuite

/-- One statement beside the same statement of a stricter conversion: where the stricter one
withholds an argument, it may show the argument itself. -/
structure Statement.Loosens (args : List String) (lower upper : Statement) : Prop where
  assign : lower.assign = upper.assign
  keyword : lower.keyword = upper.keyword
  library : lower.library = upper.library
  count : lower.args.length = upper.args.length
  tokens : ∀ (position : Nat) (low high : Token), lower.args[position]? = some low →
    upper.args[position]? = some high → low = high ∨
      high = .redacted ∧ ∃ value, args[position]? = some value ∧ low = .screened value

/-- One conversion beside a stricter one of the same steps. -/
structure Conversion.Loosens (steps : List Step) (lower upper : Conversion) : Prop where
  name : lower.name = upper.name
  documentation : lower.documentation = upper.documentation
  tags : lower.tags = upper.tags
  statements : ∃ blocks : List (List Statement × List Statement),
    lower.statements = (blocks.map Prod.fst).flatten ∧
      upper.statements = (blocks.map Prod.snd).flatten ∧
        List.Forall₂ (fun step block =>
          List.Forall₂ (Statement.Loosens step.args) block.1 block.2) steps blocks
  findings : lower.findings.Sublist upper.findings

namespace Screening

/-- One screening beside a stricter one with the same actions: what it flags, the stricter one
flags by the same entry. -/
structure Loosens (lower upper : Screening) : Prop where
  actions : lower.actions = upper.actions
  unmapped : lower.unmapped = upper.unmapped
  ordered : lower.level.rank ≤ upper.level.rank
  flags : ∀ {kind value entry}, lower.catalog.flag? lower.level kind value = some entry →
    upper.catalog.flag? upper.level kind value = some entry

variable {lower upper : Screening}

/-- What is flagged at all is judged alike by the stricter screening. -/
theorem Loosens.judge_eq (loosens : lower.Loosens upper) {role : Role} {value : String}
    (flagged : lower.judge role value ≠ .safe) :
    upper.judge role value = lower.judge role value := by
  unfold judge Catalog.classify at flagged ⊢
  cases screened : role.screenedBy with
  | none => rfl
  | some kind =>
      simp only [screened] at flagged ⊢
      cases found : lower.catalog.flag? lower.level kind value with
      | none => simp only [found, ne_eq, not_true_eq_false] at flagged
      | some entry => simp only [loosens.flags found]

/-- The stricter screening refuses all that the looser one refuses. -/
theorem Loosens.refuses (loosens : lower.Loosens upper) {role : Role} {value : String}
    (refused : lower.Refuses role value) : upper.Refuses role value := by
  obtain ⟨strict, entry, judged⟩ := refused
  have upperStrict : upper.level = .strict := by
    have ordered := loosens.ordered
    rw [strict] at ordered
    cases level : upper.level with
    | strict => rfl
    | _ =>
        simp only [level, Level.rank] at ordered
        omega
  have flagged : lower.judge role value ≠ .safe := judged ▸ Classification.noConfusion
  exact ⟨upperStrict, entry, (loosens.judge_eq flagged).trans judged⟩

/-- The looser screening accepts all that the stricter one accepts. -/
theorem Loosens.accepts (loosens : lower.Loosens upper) {step : Step}
    (accepted : upper.Accepts step) : lower.Accepts step := by
  unfold Accepts at accepted ⊢
  rw [loosens.actions, loosens.unmapped]
  cases found : upper.actions.get? step.action with
  | none => simpa only [found] using accepted
  | some template =>
      simp only [found] at accepted ⊢
      exact ⟨accepted.1, fun argument member refused =>
        accepted.2 argument member (loosens.refuses refused)⟩

/-- An argument has the same token, or it is withheld by the stricter screening alone. -/
theorem Loosens.tokenFor (loosens : lower.Loosens upper) (role : Role) (value : String) :
    lower.tokenFor role value = upper.tokenFor role value ∨
      upper.tokenFor role value = .redacted ∧ lower.tokenFor role value = .screened value := by
  by_cases safe : lower.judge role value = .safe
  · have shown : lower.tokenFor role value = plainToken role value := by
      simp only [Screening.tokenFor, safe]
    rw [shown]
    cases upperJudged : upper.judge role value with
    | safe => exact .inl (by simp only [Screening.tokenFor, upperJudged])
    | _ =>
      refine .inr ⟨by simp only [Screening.tokenFor, upperJudged], ?_⟩
      cases role with
      | text => simp only [judge, Role.screenedBy, reduceCtorEq] at upperJudged
      | command => rfl
      | path => rfl
  · exact .inl (by simp only [Screening.tokenFor, loosens.judge_eq safe])

/-- The statements of a step differ only in arguments that the stricter screening withholds. -/
theorem Loosens.statementsFor (loosens : lower.Loosens upper) (step : Step) :
    List.Forall₂ (Statement.Loosens step.args) (lower.statementsFor step)
      (upper.statementsFor step) := by
  have same (statement : Statement) : statement.Loosens step.args statement :=
    ⟨rfl, rfl, rfl, rfl, fun _ _ _ low high => .inl (Option.some.inj (low.symm.trans high))⟩
  unfold Screening.statementsFor
  rw [loosens.actions]
  cases upper.actions.get? step.action with
  | none => exact .cons (same _) .nil
  | some template =>
      have length (screening : Screening) :
          (screening.tokensFor template step.args).length = step.args.length := by
        rw [tokensFor, List.length_map, List.length_zipIdx]
      refine .cons ⟨rfl, rfl, rfl, ?_, ?_⟩ (List.forall₂_same.mpr fun statement _ => same statement)
      · simp only [Template.mainStatement, List.length_append, length]
      · intro position low high lowFound highFound
        simp only [Template.mainStatement] at lowFound highFound
        by_cases inside : position < step.args.length
        · rw [List.getElem?_append_left (length lower ▸ inside), tokensFor, List.getElem?_map,
            List.getElem?_zipIdx, List.getElem?_eq_getElem inside] at lowFound
          rw [List.getElem?_append_left (length upper ▸ inside), tokensFor, List.getElem?_map,
            List.getElem?_zipIdx, List.getElem?_eq_getElem inside] at highFound
          cases lowFound
          cases highFound
          rcases loosens.tokenFor _ _ with equal | ⟨withheld, shown⟩
          · exact .inl equal
          · exact .inr ⟨withheld, _, List.getElem?_eq_getElem inside, shown⟩
        · rw [List.getElem?_append_right (by rw [length]; omega), length] at lowFound highFound
          exact .inl (Option.some.inj (lowFound.symm.trans highFound))

/-- The looser screening records no other findings about a step. -/
theorem Loosens.findingsFor (loosens : lower.Loosens upper) (index : Nat) (step : Step) :
    (lower.findingsFor index step).Sublist (upper.findingsFor index step) := by
  unfold Screening.findingsFor
  rw [loosens.actions]
  cases upper.actions.get? step.action with
  | none => exact .refl _
  | some template =>
      refine List.Sublist.flatMap_right _ fun argument _ => ?_
      unfold findingFor?
      by_cases safe : lower.judge (template.roleFor argument.2) argument.1 = .safe
      · simp only [safe, Option.toList_none, List.nil_sublist]
      · rw [loosens.judge_eq safe]

/-- What the stricter screening converts, the looser one converts too, and shows no less. -/
theorem Loosens.convert_ok (loosens : lower.Loosens upper) {case : TestCase}
    {conversion : Conversion} (done : upper.convert case = .ok conversion) :
    ∃ looser, lower.convert case = .ok looser ∧ looser.Loosens case.steps conversion := by
  obtain ⟨accepted, rfl⟩ := convert_eq_ok_iff.mp done
  refine ⟨lower.converted case, convert_eq_ok_iff.mpr ⟨fun step member =>
    loosens.accepts (accepted step member), rfl⟩, rfl, rfl, rfl, ?_, ?_⟩
  · refine ⟨case.steps.map fun step => (lower.statementsFor step, upper.statementsFor step),
      ?_, ?_, ?_⟩
    · rw [List.map_map]
      exact List.flatMap_def
    · rw [List.map_map]
      exact List.flatMap_def
    · rw [List.forall₂_map_right_iff, List.forall₂_same]
      intro step _
      exact loosens.statementsFor step
  · exact List.Sublist.flatMap_right _ fun step _ => loosens.findingsFor step.2 step.1

/-- Where the looser screening stops, the stricter one stops too, if it has not stopped before. -/
theorem Loosens.stopsAt (loosens : lower.Loosens upper) {case : TestCase} {position : Nat}
    {failure : Failure} (stops : lower.StopsAt case position failure) :
    ∃ earlier other, earlier ≤ position ∧ upper.StopsAt case earlier other := by
  obtain ⟨step, here, failed⟩ := stops.failing
  have refused : ¬ upper.Accepts step := fun accepted =>
    not_accepts_of_convertStep_eq_error failed (loosens.accepts accepted)
  cases outcome : upper.convert case with
  | ok conversion =>
      exact (refused ((convert_eq_ok_iff.mp outcome).1 step (List.mem_of_getElem? here))).elim
  | error other =>
      obtain ⟨earlier, upperStops⟩ := convert_eq_error_iff.mp outcome
      refine ⟨earlier, other, Nat.le_of_not_lt fun later => ?_, upperStops⟩
      have before : (case.steps.take earlier)[position]? = some step := by
        rw [List.getElem?_take_of_lt later, here]
      exact refused (upperStops.before step (List.mem_of_getElem? before))

/-- With the built-in catalog a screening at a lower level loosens one at a higher level. -/
theorem Loosens.ofLevels (actions : ActionTable) (unmapped : UnmappedPolicy) {low high : Level}
    (ordered : low.rank ≤ high.rank) :
    Loosens ⟨.builtin, actions, unmapped, low⟩ ⟨.builtin, actions, unmapped, high⟩ where
  actions := rfl
  unmapped := rfl
  ordered := ordered
  flags := Catalog.builtin_flag?_mono ordered

/-- **Lower levels loosen.** With the built-in catalog, what a lower level flags, a higher level
flags by the same entry. What converts at the higher level converts at the lower one, where fewer
arguments are withheld and fewer findings recorded. What fails at the lower level fails at the
higher one, at the same step or before. -/
theorem convert_builtin_mono (actions : ActionTable) (unmapped : UnmappedPolicy) {low high : Level}
    (ordered : low.rank ≤ high.rank) :
    let lower : Screening := ⟨.builtin, actions, unmapped, low⟩
    let upper : Screening := ⟨.builtin, actions, unmapped, high⟩
    (∀ kind value entry,
      Classification.entry? (Catalog.builtin.classify low kind value) = some entry →
        Catalog.builtin.classify high kind value = Catalog.builtin.classify low kind value ∧
          Classification.entry? (Catalog.builtin.classify high kind value) = some entry) ∧
    (∀ case conversion, upper.convert case = .ok conversion →
      ∃ looser, lower.convert case = .ok looser ∧ looser.Loosens case.steps conversion) ∧
    (∀ case failure, lower.convert case = .error failure →
      ∃ position, lower.StopsAt case position failure ∧ failure.step? = some position ∧
        ∃ earlier other, earlier ≤ position ∧ upper.convert case = .error other ∧
          upper.StopsAt case earlier other ∧ other.step? = some earlier) := by
  intro lower upper
  have loosens : lower.Loosens upper := .ofLevels actions unmapped ordered
  refine ⟨fun kind value entry decided => ?_, fun case conversion => loosens.convert_ok,
    fun case failure failed => ?_⟩
  · have same : Catalog.builtin.classify high kind value =
        Catalog.builtin.classify low kind value := by
      unfold Catalog.classify at decided ⊢
      cases found : Catalog.builtin.flag? low kind value with
      | none => simp only [found, Classification.entry?, reduceCtorEq] at decided
      | some flagging => simp only [Catalog.builtin_flag?_mono ordered found]
    exact ⟨same, same ▸ decided⟩
  · obtain ⟨position, stops⟩ := convert_eq_error_iff.mp failed
    obtain ⟨earlier, other, before, upperStops⟩ := loosens.stopsAt stops
    exact ⟨position, stops, stops.step?_eq, earlier, other, before,
      convert_eq_error_iff.mpr ⟨earlier, upperStops⟩, upperStops, upperStops.step?_eq⟩

/-- At the strict level the name of an environment file is withheld and a deletion stops the
conversion; at the permissive level the former is shown and the latter withheld. -/
theorem convert_builtin_mono_secrets_and_deletion :
    let lower : Screening := ⟨.builtin, .builtin, .reject, .permissive⟩
    let upper : Screening := ⟨.builtin, .builtin, .reject, .strict⟩
    let reading : TestCase := { name := "secrets", steps := [⟨"remove_file", [".env"]⟩] }
    let suite (token : Token) (findings : List Finding) : Conversion := {
      name := "secrets"
      documentation := none
      tags := []
      statements := [⟨none, "Remove File", [token], some "OperatingSystem"⟩]
      findings := findings }
    let withheld := suite .redacted
      [⟨.sensitive, some "env-file", some r"(^|/)\.env$", ".env", .redacted, ⟨0, some 0⟩⟩]
    let shown := suite (.screened ".env") []
    let deleting : TestCase := {
      name := "wipe", steps := [⟨"run_command", ["rm -rf /"]⟩, ⟨"click", ["#ok"]⟩] }
    lower.level.rank ≤ upper.level.rank ∧
      (upper.convert reading = .ok withheld ∧ lower.convert reading = .ok shown ∧
        shown.Loosens reading.steps withheld) ∧
      lower.convert deleting = .error (.unsupportedAction "click" 1) ∧
        ∃ earlier other, earlier ≤ 1 ∧ upper.convert deleting = .error other ∧
          other.step? = some earlier := by
  intro lower upper reading suite withheld shown deleting
  have ordered : lower.level.rank ≤ upper.level.rank := by decide
  obtain ⟨_, converts, fails⟩ := convert_builtin_mono .builtin .reject ordered
  refine ⟨ordered, ?_, ?_⟩
  · have withheldDone : upper.convert reading = .ok withheld := by decide +kernel
    have shownDone : lower.convert reading = .ok shown := by decide +kernel
    obtain ⟨looser, looserDone, loosens⟩ := converts reading withheld withheldDone
    cases shownDone.symm.trans looserDone
    exact ⟨withheldDone, shownDone, loosens⟩
  · have failed : lower.convert deleting = .error (.unsupportedAction "click" 1) := by
      decide +kernel
    obtain ⟨position, _, named, earlier, other, before, upperFailed, _, step⟩ :=
      fails deleting _ failed
    cases named
    exact ⟨failed, earlier, other, before, upperFailed, step⟩

end Screening

end ScreenedSuite
