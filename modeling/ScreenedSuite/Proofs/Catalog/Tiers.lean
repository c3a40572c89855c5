import Mathlib.Data.List.Basic
import ScreenedSuite.Classification

/-! # Tiers of the built-in catalog

The built-in rules stand in the order of their tiers. The list of a level is therefore a beginning
of the list of every higher level, and what a level flags, a higher level flags by the same entry
(`ScreenedSuite.Catalog.builtin_flag?_mono`).
-/

namespace ScreenedSuite

/-- The built-in rules of a kind stand in the order of their tiers. -/
theorem Rule.all_pairwise_tier (kind : ListKind) :
    (Rule.all kind).Pairwise fun earlier later => earlier.tier.rank ≤ later.tier.rank := by
  cases kind <;> decide +kernel

/-- Of items in ascending order, those up to a bound come before those up to a higher bound. -/
theorem filter_prefix_filter {α : Type} (rank : α → Nat) {items : List α} {low high : Nat}
    (ascending : items.Pairwise fun earlier later => rank earlier ≤ rank later)
    (ordered : low ≤ high) :
    (items.filter fun item => rank item ≤ low) <+: items.filter fun item => rank item ≤ high := by
  induction ascending with
  | nil => exact List.prefix_rfl
  | @cons item rest before _ ih =>
      by_cases inside : rank item ≤ low
      · have alsoInside : rank item ≤ high := Nat.le_trans inside ordered
        simp only [List.filter_cons, inside, alsoInside, decide_true, ↓reduceIte]
        exact (List.prefix_cons_inj item).mpr ih
      · have outside : (item :: rest).filter (fun item => rank item ≤ low) = [] := by
          rw [List.filter_eq_nil_iff]
          intro other member
          rcases List.mem_cons.mp member with rfl | later
          · simpa only [decide_eq_true_eq] using inside
          · have above := before other later
            simp only [decide_eq_true_eq]
            omega
        rw [outside]
        exact List.nil_prefix

/-- The rules of a level come before the further rules of a higher level. -/
theorem Rule.active_prefix (kind : ListKind) {low high : Level} (ordered : low.rank ≤ high.rank) :
    Rule.active kind low <+: Rule.active kind high :=
  filter_prefix_filter (fun rule : Rule => rule.tier.rank) (Rule.all_pairwise_tier kind) ordered

namespace Catalog

theorem builtin_list (kind : ListKind) (level : Level) :
    (builtin.forLevel level).list kind = PatternList.builtin kind level := by
  cases level <;> cases kind <;> rfl

/-- What a level flags, a higher level flags by the same entry. -/
theorem builtin_flag?_mono {low high : Level} (ordered : low.rank ≤ high.rank) {kind : ListKind}
    {value : String} {entry : Entry} (flagged : builtin.flag? low kind value = some entry) :
    builtin.flag? high kind value = some entry := by
  unfold flag? PatternList.firstMatch? at flagged ⊢
  rw [builtin_list] at flagged ⊢
  obtain ⟨item, found, rfl⟩ := Option.map_eq_some_iff.mp flagged
  have longer : (PatternList.builtin kind low).items <+: (PatternList.builtin kind high).items :=
    (Rule.active_prefix kind ordered).map Rule.listed
  rw [longer.find?_eq_some found, Option.map_some]

end Catalog

end ScreenedSuite
