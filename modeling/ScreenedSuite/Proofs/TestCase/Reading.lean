import ScreenedSuite.Proofs.TestCase.Grammar
import ScreenedSuite.Proofs.Unicode.Blank

/-! # Reading test cases

Every part of a test case is read by a reader that settles it
(`ScreenedSuite.TestCase.Settles`): it yields the one value that the document gives there, or it
tells the first fault. Readers in sequence settle their parts together, provided that the faults of
one are met before the faults of the next (`ScreenedSuite.TestCase.Settles.bind`). Put together,
a document is read exactly when it describes a test case, and is blamed for its first fault
otherwise (`ScreenedSuite.TestCase.ofJson?_settles`).
-/

namespace ScreenedSuite

theorem Place.Before.asymm {first second : Place} (ordered : first.Before second) :
    ¬ second.Before first :=
  List.lt_asymm ordered

/-- What lies in an earlier member is met before what lies in a later one. -/
theorem Place.before_of_member_lt {place other : Place} {member otherMember : Nat}
    {inside otherInside : List Nat} (order : place.order = member :: inside)
    (otherOrder : other.order = otherMember :: otherInside) (ordered : member < otherMember) :
    place.Before other := by
  rw [Before, order, otherOrder, List.cons_lt_cons_iff]
  exact .inl ordered

theorem Place.tags_order (position : Option Nat) :
    (position.elim Place.tags Place.tag).order = 2 :: position.toList := by
  cases position <;> rfl

theorem Place.args_order (index : Nat) (position : Option Nat) :
    (position.elim (Place.args index) (Place.arg index)).order = 3 :: index :: 1 :: position.toList := by
  cases position <;> rfl

namespace TestCase

variable {α β : Type}

/-- A reading yields the one value that is given, where nothing is wrong, and tells the first fault
otherwise. -/
inductive Settles (given : α → Prop) (fault : Place → Defect → Prop) : Checked α → Prop
  | ok {value : α} (here : given value) (only : ∀ other, given other → other = value)
      (sound : ∀ place defect, ¬ fault place defect) : Settles given fault (.ok value)
  | error {place : Place} {defect : Defect} (first : IsFirst fault place defect)
      (nothing : ∀ value, ¬ given value) :
      Settles given fault (.error (.malformedInput place defect))

namespace Settles

variable {given : α → Prop} {fault : Place → Defect → Prop} {outcome : Checked α}

theorem eq_ok_iff (settles : Settles given fault outcome) {value : α} :
    outcome = .ok value ↔ given value := by
  cases settles with
  | ok here only _ =>
      constructor
      · intro same
        cases same
        exact here
      · intro also
        rw [only value also]
  | error _ nothing =>
      constructor
      · intro absurdity
        cases absurdity
      · intro also
        exact (nothing value also).elim

theorem eq_error_iff (settles : Settles given fault outcome) {failure : Failure} :
    outcome = .error failure ↔
      ∃ place defect, failure = .malformedInput place defect ∧ IsFirst fault place defect := by
  cases settles with
  | ok _ _ sound =>
      constructor
      · intro absurdity
        cases absurdity
      · rintro ⟨place, defect, _, first⟩
        exact (sound place defect first.1).elim
  | @error place defect first _ =>
      constructor
      · intro same
        cases same
        exact ⟨place, defect, rfl, first⟩
      · rintro ⟨other, otherDefect, rfl, otherFirst⟩
        rcases first.2 other otherDefect otherFirst.1 with ⟨rfl, rfl⟩ | later
        · rfl
        · rcases otherFirst.2 place defect first.1 with ⟨rfl, rfl⟩ | earlier
          · rfl
          · exact (later.asymm earlier).elim

theorem congr {otherGiven : α → Prop} {otherFault : Place → Defect → Prop}
    (settles : Settles given fault outcome)
    (sameGiven : ∀ value, given value ↔ otherGiven value)
    (sameFault : ∀ place defect, fault place defect ↔ otherFault place defect) :
    Settles otherGiven otherFault outcome := by
  obtain rfl : given = otherGiven := funext fun value => propext (sameGiven value)
  obtain rfl : fault = otherFault :=
    funext fun place => funext fun defect => propext (sameFault place defect)
  exact settles

/-- Two readings in sequence settle both parts, if the faults of the first part are met before the
faults of the second. -/
theorem bind {nextGiven : α → β → Prop} {nextFault : Place → Defect → Prop}
    {next : α → Checked β} (settles : Settles given fault outcome)
    (nextSettles : ∀ value, given value → Settles (nextGiven value) nextFault (next value))
    (ordered : ∀ place defect other otherDefect, fault place defect →
      nextFault other otherDefect → place.Before other) :
    Settles (fun result => ∃ value, given value ∧ nextGiven value result)
      (fun place defect => fault place defect ∨ nextFault place defect) (outcome >>= next) := by
  cases settles with
  | @error place defect first nothing =>
      refine .error ⟨.inl first.1, ?_⟩ ?_
      · rintro other otherDefect (wrong | wrong)
        · exact first.2 other otherDefect wrong
        · exact .inr (ordered place defect other otherDefect first.1 wrong)
      · rintro result ⟨value, here, _⟩
        exact nothing value here
  | @ok value here only sound =>
      change Settles _ _ (next value)
      have nextSettled := nextSettles value here
      generalize next value = second at nextSettled ⊢
      cases nextSettled with
      | @ok result resultHere resultOnly resultSound =>
          refine .ok ⟨value, here, resultHere⟩ ?_ ?_
          · rintro other ⟨otherValue, otherHere, also⟩
            cases only otherValue otherHere
            exact resultOnly other also
          · rintro place defect (wrong | wrong)
            · exact sound place defect wrong
            · exact resultSound place defect wrong
      | @error place defect first nothing =>
          refine .error ⟨.inr first.1, ?_⟩ ?_
          · rintro other otherDefect (wrong | wrong)
            · exact (sound other otherDefect wrong).elim
            · exact first.2 other otherDefect wrong
          · rintro result ⟨otherValue, otherHere, also⟩
            cases only otherValue otherHere
            exact nothing result also

/-- A reading whose value is only put into another form settles what it settled. -/
theorem map (settles : Settles given fault outcome) (form : α → β) :
    Settles (fun result => ∃ value, given value ∧ result = form value) fault
      (do let value ← outcome; return form value) := by
  have formed (value : α) (_ : given value) :
      Settles (fun result => result = form value) (fun _ _ => False)
        (pure (form value) : Checked β) :=
    .ok rfl (fun _ same => same) (fun _ _ absurdity => absurdity)
  refine (settles.bind formed (fun _ _ _ _ _ absurdity => absurdity.elim)).congr
    (fun _ => Iff.rfl) (fun _ _ => iff_of_eq (or_false _))

/-- A reading that refuses for the only fault. -/
theorem refuse {place : Place} {defect : Defect} (nothing : ∀ value : α, ¬ given value)
    (wrong : ∀ other otherDefect,
      fault other otherDefect ↔ other = place ∧ otherDefect = defect) :
    Settles given fault (TestCase.refuse place defect) :=
  .error ⟨(wrong place defect).mpr ⟨rfl, rfl⟩, fun other otherDefect also =>
    .inl ((wrong other otherDefect).mp also)⟩ nothing

end Settles

/-- Something is left of a text exactly when not all of it is white space. -/
theorem visible_iff {text : String} : Visible text ↔ Unicode.isBlankText text = false := by
  rw [Visible, ne_eq, Unicode.trim_eq_nil_iff, ← List.all_eq_true, Bool.not_eq_true,
    Unicode.isBlankText]

theorem requiredText_settles (members : List (String × Json)) (name : String) (place : Place) :
    Settles (GivesText (Json.member? members name))
      (fun other defect => other = place ∧ TextFault (Json.member? members name) defect)
      (requiredText members name place) := by
  unfold requiredText
  cases Json.member? members name with
  | none =>
      refine .refuse (fun text absurdity => by cases absurdity) fun other defect => ?_
      refine and_congr_right fun _ => ⟨fun wrong => ?_, fun same => same ▸ .missing⟩
      cases wrong
      rfl
  | some value =>
      cases value with
      | string text =>
          by_cases hidden : Unicode.isBlankText text = true
          · have invisible : ¬ Visible text := by
              simp only [visible_iff, hidden, Bool.true_eq_false, not_false_eq_true]
            simp only [hidden, ↓reduceIte]
            refine .refuse ?_ fun other defect => ?_
            · rintro other ⟨visible⟩
              exact invisible visible
            · refine and_congr_right fun _ => ⟨fun wrong => ?_, fun same => same ▸ .blank invisible⟩
              cases wrong with
              | whole notText => exact (notText text rfl).elim
              | blank => rfl
          · have visible : Visible text := visible_iff.mpr ((Bool.not_eq_true _).mp hidden)
            simp only [hidden, Bool.false_eq_true, ↓reduceIte]
            refine .ok (.text visible) (fun other also => by cases also; rfl) ?_
            rintro other defect ⟨_, wrong⟩
            cases wrong with
            | whole notText => exact notText text rfl
            | blank invisible => exact invisible visible
      | _ =>
          refine .refuse (fun text absurdity => by cases absurdity) fun other defect => ?_
          refine and_congr_right fun _ => ⟨fun wrong => ?_, fun same => same ▸ .whole ?_⟩
          · cases wrong
            rfl
          · exact fun _ => Json.noConfusion

theorem stringsFrom_settles (place : Nat → Place)
    (ordered : ∀ {earlier later : Nat}, earlier < later → (place earlier).Before (place later))
    (index : Nat) (items : List Json) :
    Settles (fun texts => items = texts.map Json.string)
      (fun other defect => ∃ position value, items[position]? = some value ∧
        (∀ text, value ≠ .string text) ∧ other = place (index + position) ∧ defect = .notString)
      (stringsFrom place index items) := by
  induction items generalizing index with
  | nil =>
      refine .ok rfl (fun texts same => List.map_eq_nil_iff.mp same.symm) ?_
      rintro other defect ⟨position, value, here, _⟩
      cases here
  | cons item rest ih =>
      cases item with
      | string text =>
          refine ((ih (index + 1)).map (text :: ·)).congr (fun texts => ?_) fun other defect => ?_
          · constructor
            · rintro ⟨others, rfl, rfl⟩
              rfl
            · intro same
              cases texts with
              | nil => cases same
              | cons first others =>
                  cases same
                  exact ⟨others, rfl, rfl⟩
          · constructor
            · rintro ⟨position, value, here, notText, rfl, rfl⟩
              refine ⟨position + 1, value, here, notText, ?_, rfl⟩
              rw [Nat.add_assoc, Nat.add_comm 1]
            · rintro ⟨position, value, here, notText, rfl, rfl⟩
              cases position with
              | zero =>
                  cases here
                  exact (notText text rfl).elim
              | succ position =>
                  refine ⟨position, value, here, notText, ?_, rfl⟩
                  rw [Nat.add_assoc, Nat.add_comm 1]
      | _ =>
          refine .error ⟨⟨0, _, rfl, fun _ => Json.noConfusion, rfl, rfl⟩, ?_⟩ ?_
          · rintro other defect ⟨position, value, _, _, rfl, rfl⟩
            cases position with
            | zero => exact .inl ⟨rfl, rfl⟩
            | succ position => exact .inr (ordered (by omega))
          · intro texts same
            cases texts <;> cases same

theorem optionalStrings_settles (members : List (String × Json)) (name : String) (place : Place)
    (itemPlace : Nat → Place)
    (ordered : ∀ {earlier later : Nat}, earlier < later →
      (itemPlace earlier).Before (itemPlace later)) :
    Settles (GivesStrings (Json.member? members name))
      (fun other defect => ∃ position, StringsFault (Json.member? members name) position defect ∧
        other = position.elim place itemPlace)
      (optionalStrings members name place itemPlace) := by
  unfold optionalStrings
  cases Json.member? members name with
  | none =>
      refine .ok .absent (fun texts also => by cases also; rfl) ?_
      rintro other defect ⟨position, wrong, _⟩
      cases wrong
  | some value =>
      cases value with
      | null =>
          refine .ok .null (fun texts also => by cases also; rfl) ?_
          rintro other defect ⟨position, wrong, _⟩
          cases wrong with
          | whole notNull => exact notNull rfl
      | array items =>
          refine (stringsFrom_settles itemPlace ordered 0 items).congr (fun texts => ?_)
            fun other defect => ?_
          · constructor
            · rintro rfl
              exact .array texts
            · intro given
              cases given
              rfl
          · constructor
            · rintro ⟨position, value, here, notText, rfl, rfl⟩
              exact ⟨some position, .item here notText, by rw [Nat.zero_add]; rfl⟩
            · rintro ⟨position, wrong, rfl⟩
              cases wrong with
              | whole _ notArray => exact (notArray items rfl).elim
              | @item _ position value here notText =>
                  exact ⟨position, value, here, notText, by rw [Nat.zero_add]; rfl, rfl⟩
      | _ =>
          refine .refuse (fun texts absurdity => by cases absurdity) fun other defect => ?_
          constructor
          · rintro ⟨position, wrong, rfl⟩
            cases wrong
            exact ⟨rfl, rfl⟩
          · rintro ⟨rfl, rfl⟩
            exact ⟨none, .whole Json.noConfusion fun _ => Json.noConfusion, rfl⟩

theorem readDocumentation_settles (members : List (String × Json)) :
    Settles (GivesDocumentation (Json.member? members "documentation"))
      (fun place defect => place = .documentation ∧
        DocumentationFault (Json.member? members "documentation") defect)
      (readDocumentation members) := by
  unfold readDocumentation
  cases Json.member? members "documentation" with
  | none =>
      refine .ok .absent (fun text also => by cases also; rfl) ?_
      rintro place defect ⟨_, wrong⟩
      cases wrong
  | some value =>
      cases value with
      | null =>
          refine .ok .null (fun text also => by cases also; rfl) ?_
          rintro place defect ⟨_, ⟨notNull, _⟩⟩
          exact notNull rfl
      | string text =>
          refine .ok (.text text) (fun other also => by cases also; rfl) ?_
          rintro place defect ⟨_, ⟨_, notText⟩⟩
          exact notText text rfl
      | _ =>
          refine .refuse (fun text absurdity => by cases absurdity) fun place defect => ?_
          refine and_congr_right fun _ => ⟨fun wrong => ?_, fun same => same ▸ .whole ?_ ?_⟩
          · cases wrong
            rfl
          · exact Json.noConfusion
          · exact fun _ => Json.noConfusion

theorem readStep_settles (index : Nat) (value : Json) :
    Settles (DescribesStep value) (StepFault index value) (readStep index value) := by
  cases value with
  | object members =>
      have args_settles := optionalStrings_settles members "args" (.args index) (.arg index)
        fun ordered => by simp [Place.Before, Place.order, List.cons_lt_cons_iff, ordered]
      have settles := (requiredText_settles members "action" (.action index)).bind
        (fun action _ => args_settles.map (Step.mk action)) ?_
      · refine settles.congr (fun step => ?_) fun place defect => ?_
        · constructor
          · rintro ⟨action, actionGiven, args, argsGiven, rfl⟩
            exact .object actionGiven argsGiven
          · rintro ⟨actionGiven, argsGiven⟩
            exact ⟨_, actionGiven, _, argsGiven, rfl⟩
        · constructor
          · rintro (⟨rfl, wrong⟩ | ⟨position, wrong, rfl⟩)
            · exact .action wrong
            · exact .args wrong
          · intro wrong
            cases wrong with
            | whole notObject => exact (notObject members rfl).elim
            | action wrong => exact .inl ⟨rfl, wrong⟩
            | args wrong => exact .inr ⟨_, wrong, rfl⟩
      · rintro _ _ _ _ ⟨rfl, _⟩ ⟨position, _, rfl⟩
        rw [Place.Before, Place.args_order]
        simp [Place.order, List.cons_lt_cons_iff]
  | _ =>
      refine .refuse (fun step absurdity => by cases absurdity) fun place defect => ?_
      constructor
      · intro wrong
        cases wrong
        exact ⟨rfl, rfl⟩
      · rintro ⟨rfl, rfl⟩
        exact .whole fun _ => Json.noConfusion

theorem StepFault.order_eq {index : Nat} {value : Json} {place : Place} {defect : Defect}
    (wrong : StepFault index value place defect) : ∃ inside, place.order = 3 :: index :: inside := by
  cases wrong with
  | whole => exact ⟨[], rfl⟩
  | action => exact ⟨[0], rfl⟩
  | args => exact ⟨_, Place.args_order index _⟩

theorem StepFault.before {earlier later : Nat} {first second : Json} {place other : Place}
    {defect otherDefect : Defect} (wrong : StepFault earlier first place defect)
    (otherWrong : StepFault later second other otherDefect) (ordered : earlier < later) :
    place.Before other := by
  obtain ⟨inside, order⟩ := wrong.order_eq
  obtain ⟨otherInside, otherOrder⟩ := otherWrong.order_eq
  rw [Place.Before, order, otherOrder]
  simp [List.cons_lt_cons_iff, ordered]

theorem stepsFrom_settles (index : Nat) (items : List Json) :
    Settles (List.Forall₂ DescribesStep items)
      (fun place defect => ∃ position item, items[position]? = some item ∧
        StepFault (index + position) item place defect)
      (stepsFrom index items) := by
  induction items generalizing index with
  | nil =>
      refine .ok .nil (fun steps also => by cases also; rfl) ?_
      rintro place defect ⟨position, item, absurdity, _⟩
      cases absurdity
  | cons item rest ih =>
      have settles := (readStep_settles index item).bind
        (fun step _ => (ih (index + 1)).map (step :: ·)) ?_
      · refine settles.congr (fun steps => ?_) fun place defect => ?_
        · constructor
          · rintro ⟨step, described, others, restDescribed, rfl⟩
            exact .cons described restDescribed
          · intro all
            cases all with
            | cons described restDescribed => exact ⟨_, described, _, restDescribed, rfl⟩
        · constructor
          · rintro (wrong | ⟨position, other, here, wrong⟩)
            · exact ⟨0, item, rfl, wrong⟩
            · refine ⟨position + 1, other, here, ?_⟩
              rwa [Nat.add_comm position, ← Nat.add_assoc]
          · rintro ⟨position, other, here, wrong⟩
            cases position with
            | zero =>
                cases here
                exact .inl wrong
            | succ position =>
                rw [Nat.add_comm position, ← Nat.add_assoc] at wrong
                exact .inr ⟨position, other, here, wrong⟩
      · rintro place defect other otherDefect wrong ⟨position, later, _, otherWrong⟩
        exact wrong.before otherWrong (by omega)

theorem readSteps_settles (members : List (String × Json)) :
    Settles (GivesSteps (Json.member? members "steps")) (StepsFault (Json.member? members "steps"))
      (readSteps members) := by
  unfold readSteps
  cases Json.member? members "steps" with
  | none =>
      refine .refuse (fun steps absurdity => by cases absurdity) fun place defect => ?_
      constructor
      · intro wrong
        cases wrong
        exact ⟨rfl, rfl⟩
      · rintro ⟨rfl, rfl⟩
        exact .missing
  | some value =>
      cases value with
      | array items =>
          refine (stepsFrom_settles 0 items).congr (fun steps => ?_) fun place defect => ?_
          · constructor
            · exact .array
            · rintro ⟨described⟩
              exact described
          · constructor
            · rintro ⟨index, item, here, wrong⟩
              exact .item here (by rwa [Nat.zero_add] at wrong)
            · intro wrong
              cases wrong with
              | whole notArray => exact (notArray items rfl).elim
              | item here wrong => exact ⟨_, _, here, by rwa [Nat.zero_add]⟩
      | _ =>
          refine .refuse (fun steps absurdity => by cases absurdity) fun place defect => ?_
          constructor
          · intro wrong
            cases wrong
            exact ⟨rfl, rfl⟩
          · rintro ⟨rfl, rfl⟩
            exact .whole fun _ => Json.noConfusion

theorem StepsFault.order_eq {member : Option Json} {place : Place} {defect : Defect}
    (wrong : StepsFault member place defect) : ∃ inside, place.order = 3 :: inside := by
  cases wrong with
  | missing => exact ⟨[], rfl⟩
  | whole => exact ⟨[], rfl⟩
  | item _ wrong =>
      obtain ⟨inside, order⟩ := wrong.order_eq
      exact ⟨_, order⟩

theorem describes_object_iff {members : List (String × Json)} {case : TestCase} :
    Describes (.object members) case ↔
      ∃ name, GivesText (Json.member? members "name") name ∧
        ∃ documentation,
          GivesDocumentation (Json.member? members "documentation") documentation ∧
            ∃ tags, GivesStrings (Json.member? members "tags") tags ∧
              ∃ steps, GivesSteps (Json.member? members "steps") steps ∧
                case = ⟨name, documentation, tags, steps⟩ := by
  constructor
  · rintro ⟨nameGiven, documentationGiven, tagsGiven, stepsGiven⟩
    exact ⟨_, nameGiven, _, documentationGiven, _, tagsGiven, _, stepsGiven, rfl⟩
  · rintro ⟨name, nameGiven, documentation, documentationGiven, tags, tagsGiven, steps, stepsGiven,
      rfl⟩
    exact .object nameGiven documentationGiven tagsGiven stepsGiven

theorem fault_object_iff {members : List (String × Json)} {place : Place} {defect : Defect} :
    Fault (.object members) place defect ↔
      (place = .name ∧ TextFault (Json.member? members "name") defect) ∨
      (place = .documentation ∧
        DocumentationFault (Json.member? members "documentation") defect) ∨
      (∃ position, StringsFault (Json.member? members "tags") position defect ∧
        place = position.elim .tags .tag) ∨
      StepsFault (Json.member? members "steps") place defect := by
  constructor
  · intro wrong
    cases wrong with
    | whole notObject => exact (notObject members rfl).elim
    | name wrong => exact .inl ⟨rfl, wrong⟩
    | documentation wrong => exact .inr (.inl ⟨rfl, wrong⟩)
    | tags wrong => exact .inr (.inr (.inl ⟨_, wrong, rfl⟩))
    | steps wrong => exact .inr (.inr (.inr wrong))
  · rintro (⟨rfl, wrong⟩ | ⟨rfl, wrong⟩ | ⟨position, wrong, rfl⟩ | wrong)
    · exact .name wrong
    · exact .documentation wrong
    · exact .tags wrong
    · exact .steps wrong

/-- A document is read exactly when it describes a test case, and blamed for its first fault
otherwise. -/
theorem ofJson?_settles (document : Json) :
    Settles (Describes document) (Fault document) (ofJson? document) := by
  cases document with
  | object members =>
      have tags_settles := optionalStrings_settles members "tags" .tags .tag
        fun ordered => by simp [Place.Before, Place.order, List.cons_lt_cons_iff, ordered]
      -- The parts from the back to the front: the faults of each are met before those behind it.
      have from_tags (name : String) (documentation : Option String) := tags_settles.bind
        (fun tags _ => (readSteps_settles members).map (TestCase.mk name documentation tags))
        (by
          rintro _ _ _ _ ⟨position, _, rfl⟩ wrong
          obtain ⟨inside, order⟩ := wrong.order_eq
          exact Place.before_of_member_lt (Place.tags_order position) order (by decide))
      have from_documentation (name : String) := (readDocumentation_settles members).bind
        (fun documentation _ => from_tags name documentation)
        (by
          rintro _ _ _ _ ⟨rfl, _⟩ (⟨position, _, rfl⟩ | wrong)
          · exact Place.before_of_member_lt rfl (Place.tags_order position) (by decide)
          · obtain ⟨inside, order⟩ := wrong.order_eq
            exact Place.before_of_member_lt rfl order (by decide))
      have settles := (requiredText_settles members "name" .name).bind
        (fun name _ => from_documentation name)
        (by
          rintro _ _ _ _ ⟨rfl, _⟩ (⟨rfl, _⟩ | ⟨position, _, rfl⟩ | wrong)
          · exact Place.before_of_member_lt rfl rfl (by decide)
          · exact Place.before_of_member_lt rfl (Place.tags_order position) (by decide)
          · obtain ⟨inside, order⟩ := wrong.order_eq
            exact Place.before_of_member_lt rfl order (by decide))
      exact settles.congr (fun _ => describes_object_iff.symm) fun _ _ => fault_object_iff.symm
  | _ =>
      refine .refuse (fun case absurdity => by cases absurdity) fun place defect => ?_
      constructor
      · intro wrong
        cases wrong
        exact ⟨rfl, rfl⟩
      · rintro ⟨rfl, rfl⟩
        exact .whole fun _ => Json.noConfusion

/-- A text is read exactly when it is a document that describes a test case. -/
theorem ofText?_eq_ok_iff {text : String} {case : TestCase} :
    ofText? text = .ok case ↔
      ∃ document, Json.ofText? text = .ok document ∧ Describes document case := by
  unfold ofText?
  cases Json.ofText? text with
  | error error =>
      constructor
      · intro absurdity
        cases absurdity
      · rintro ⟨document, absurdity, _⟩
        cases absurdity
  | ok document =>
      simp only [Except.ok.injEq, exists_eq_left']
      exact (ofJson?_settles document).eq_ok_iff

/-- Reading a text can fail in one way only. -/
theorem exists_malformedInput_of_ofText?_eq_error {text : String} {failure : Failure}
    (failed : ofText? text = .error failure) :
    ∃ place defect, failure = .malformedInput place defect := by
  unfold ofText? at failed
  cases parsed : Json.ofText? text with
  | error error =>
      simp only [parsed] at failed
      cases failed
      exact ⟨_, _, rfl⟩
  | ok document =>
      simp only [parsed] at failed
      obtain ⟨place, defect, same, _⟩ := (ofJson?_settles document).eq_error_iff.mp failed
      exact ⟨place, defect, same⟩

/-- Leaving members out does not change the value under a name that is kept. -/
theorem member?_filter (members : List (String × Json)) {names : List String} {name : String}
    (known : name ∈ names) :
    Json.member? (members.filter fun member => names.contains member.1) name =
      Json.member? members name := by
  have same (member : String × Json) :
      decide (names.contains member.1 = true ∧ (member.1 == name) = true) =
        (member.1 == name) := by
    by_cases equal : member.1 = name
    · simp only [equal, List.contains_iff_mem.mpr known, beq_self_eq_true, and_self, decide_true]
    · simp only [beq_eq_false_iff_ne.mpr equal, Bool.false_eq_true, and_false, decide_false]
  simp only [Json.member?, ← List.filter_reverse, List.find?_filter, same]

theorem member?_map_bareMember (members : List (String × Json)) (name : String) :
    Json.member? (members.map bareMember) name =
      (Json.member? members name).map
        fun value => if name = "steps" then bareSteps value else value := by
  unfold Json.member?
  rw [← List.map_reverse, List.find?_map, Option.map_map, Option.map_map]
  change Option.map _ (members.reverse.find? fun member => member.1 == name) = _
  refine Option.map_congr fun member found => ?_
  have named : member.1 = name := by
    have holds := List.find?_some found
    simpa only [beq_iff_eq] using holds
  simp only [Function.comp, bareMember, named]

theorem readStep_withOnly (index : Nat) (item : Json) :
    readStep index (withOnly ["action", "args"] item) = readStep index item := by
  cases item with
  | object members =>
      have action := member?_filter members (show "action" ∈ ["action", "args"] by decide)
      have args := member?_filter members (show "args" ∈ ["action", "args"] by decide)
      simp only [withOnly, readStep, requiredText, optionalStrings, action, args]
  | _ => rfl

theorem stepsFrom_map_withOnly (index : Nat) (items : List Json) :
    stepsFrom index (items.map (withOnly ["action", "args"])) = stepsFrom index items := by
  induction items generalizing index with
  | nil => rfl
  | cons item rest ih => simp only [List.map_cons, stepsFrom, readStep_withOnly, ih]

/-- Members that test cases and steps do not have make no difference. -/
theorem ofJson?_bare (document : Json) : ofJson? (bare document) = ofJson? document := by
  cases document with
  | object members =>
      have kept (name : String) (known : name ∈ ["name", "documentation", "tags", "steps"])
          (other : name ≠ "steps") :
          Json.member? ((members.filter fun member =>
            ["name", "documentation", "tags", "steps"].contains member.1).map bareMember) name =
              Json.member? members name := by
        rw [member?_map_bareMember, member?_filter members known]
        simp only [other, ↓reduceIte, Option.map_id']
      have steps : readSteps ((members.filter fun member =>
          ["name", "documentation", "tags", "steps"].contains member.1).map bareMember) =
            readSteps members := by
        unfold readSteps
        rw [member?_map_bareMember, member?_filter members (by decide)]
        cases Json.member? members "steps" with
        | none => rfl
        | some value =>
            cases value with
            | array items => exact stepsFrom_map_withOnly 0 items
            | _ => rfl
      have name := kept "name" (by decide) (by decide)
      have documentation := kept "documentation" (by decide) (by decide)
      have tags := kept "tags" (by decide) (by decide)
      simp only [bare, withOnly, ofJson?, steps, requiredText, readDocumentation, optionalStrings,
        name, documentation, tags]
  | _ => rfl

/-- **Reading accepts exactly the documents that describe a test case.** It yields the test case that
is described, and blames any other document for its first fault. Members that test cases and steps
do not have make no difference. -/
theorem ofJson?_exact (document : Json) :
    (∀ case, ofJson? document = .ok case ↔ Describes document case) ∧
    (∀ failure, ofJson? document = .error failure ↔ ∃ place defect,
      failure = .malformedInput place defect ∧ IsFirst (Fault document) place defect) ∧
    ofJson? (bare document) = ofJson? document := by
  have settles := ofJson?_settles document
  exact ⟨fun _ => settles.eq_ok_iff, fun _ => settles.eq_error_iff, ofJson?_bare document⟩

example : ofJson? (.object [("steps", .array [.null]), ("tags", .array [.string "ci", .null]),
    ("name", .string "build")]) = .error (.malformedInput (.tag 1) .notString) := by
  decide +kernel

end TestCase

end ScreenedSuite
