import Mathlib.Data.List.Nodup
import Mathlib.Logic.Function.Basic

/-! # Lookups by key

Where no key is listed twice, what is found under a key is what is listed with it.
-/

namespace ScreenedSuite

theorem find?_fst_cons {α : Type} (entry : String × α) (rest : List (String × α)) (key : String) :
    ((entry :: rest).find? (·.1 == key)).map (·.2) =
      if entry.1 = key then some entry.2 else (rest.find? (·.1 == key)).map (·.2) := by
  rw [List.find?_cons]
  by_cases named : entry.1 = key
  · simp only [named, beq_self_eq_true, Option.map_some, ↓reduceIte]
  · simp only [beq_eq_false_iff_ne.mpr named, named, ↓reduceIte]

theorem find?_fst_eq_some_iff {α : Type} {entries : List (String × α)} {key : String} {value : α}
    (keys : (entries.map (·.1)).Nodup) :
    (entries.find? (·.1 == key)).map (·.2) = some value ↔ (key, value) ∈ entries := by
  rw [Option.map_eq_some_iff]
  constructor
  · rintro ⟨entry, found, rfl⟩
    have named : entry.1 = key := by simpa using List.find?_some found
    exact named ▸ List.mem_of_find?_eq_some found
  · intro listed
    have present : (entries.find? (·.1 == key)).isSome :=
      List.find?_isSome.mpr ⟨_, listed, beq_self_eq_true key⟩
    obtain ⟨entry, found⟩ := Option.isSome_iff_exists.mp present
    have named : entry.1 = key := by simpa using List.find?_some found
    have among := List.mem_of_find?_eq_some found
    exact ⟨entry, found, congrArg Prod.snd (List.inj_on_of_nodup_map keys among listed named)⟩

/-- A choice among all there are is found by its name. -/
theorem find?_name_eq_some_iff {α : Type} {choices : List α} {name : α → String}
    (distinct : Function.Injective name) (complete : ∀ choice, choice ∈ choices) {typed : String}
    {choice : α} : choices.find? (name · == typed) = some choice ↔ typed = name choice := by
  constructor
  · intro found
    have named : name choice = typed := by simpa using List.find?_some found
    exact named.symm
  · rintro rfl
    have present : (choices.find? (name · == name choice)).isSome :=
      List.find?_isSome.mpr ⟨choice, complete choice, beq_self_eq_true _⟩
    obtain ⟨other, found⟩ := Option.isSome_iff_exists.mp present
    have named : name other = name choice := by simpa using List.find?_some found
    rw [found, distinct named]

end ScreenedSuite
