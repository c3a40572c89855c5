import Mathlib.Data.List.Find
import ScreenedSuite.Proofs.Catalog.Tiers
import ScreenedSuite.Proofs.Pattern.Respelling

/-! # One value in several spellings

The built-in catalog judges a value by the same entry whatever the case of its ASCII letters
(`ScreenedSuite.Catalog.builtin_classify_sameButCase`). Every catalog judges a path by the same
entry whichever separators it has, and the change of separators hides no path from the built-in
catalog: what a rule would find in the path as it was written, it finds in the path with slashes
(`ScreenedSuite.Catalog.classify_separators`).
-/

namespace ScreenedSuite

theorem sameButCase_comm {text other : List Char} :
    SameButCase text other ↔ SameButCase other text := by
  have turned {text other : List Char} (same : SameButCase text other) : SameButCase other text :=
    (List.Forall₂.imp (fun _ _ => Eq.symm) same).flip
  exact ⟨turned, turned⟩

theorem toList_withSlashes (path : String) :
    (withSlashes path).toList = path.toList.map slashFor := by
  simp [withSlashes, slashFor]

/-- A change of separators leaves texts in other case what they are. -/
theorem SameButCase.searched {value other : String}
    (same : SameButCase value.toList other.toList) (kind : ListKind) :
    SameButCase (kind.searched value).toList (kind.searched other).toList := by
  have capitals : ∀ c ∈ Unicode.capitals, (slashFor c).toLower = (slashFor c.toLower).toLower :=
    List.forall_mem_map.mpr (by decide +kernel)
  have separators {c d : Char} (same : c.toLower = d.toLower) :
      (slashFor c).toLower = (slashFor d).toLower :=
    @Respelling.eq_of_toLower_eq _ (fun c => (slashFor c).toLower) capitals _ _ same
  cases kind with
  | command => exact same
  | path =>
      rw [ListKind.searched, ListKind.searched, toList_withSlashes, toList_withSlashes]
      apply List.forall₂_map_left_iff.mpr
      apply List.forall₂_map_right_iff.mpr
      exact List.Forall₂.imp (fun _ _ => separators) same

namespace Rule

/-- No command rule looks at the case of an ASCII letter. -/
theorem commands_respell : ∀ rule ∈ all .command, rule.compiled.respells .letterCase = true := by
  decide +kernel

/-- No path rule looks at the case of an ASCII letter, and one that takes a backslash takes a slash
in its place. -/
theorem paths_respell : ∀ rule ∈ all .path,
    rule.compiled.respells .letterCase = true ∧ rule.compiled.respells .slashes = true := by
  decide +kernel

theorem occurs_of_sameButCase {kind : ListKind} {rule : Rule} (listed : rule ∈ all kind)
    {text other : List Char} (same : SameButCase text other)
    (occurs : rule.compiled.Occurs text) : rule.compiled.Occurs other := by
  have respells : rule.compiled.respells .letterCase = true := by
    cases kind with
    | command => exact commands_respell rule listed
    | path => exact (paths_respell rule listed).1
  exact occurs.respell .letterCase respells same

end Rule

namespace PatternList

/-- Values in which the same patterns of a list occur are judged by the same entry. -/
theorem firstMatch?_congr {list : PatternList} {value other : String}
    (same : ∀ item ∈ list.items,
      item.compiled.Occurs value.toList ↔ item.compiled.Occurs other.toList) :
    list.firstMatch? value = list.firstMatch? other := by
  have tests : ∀ item ∈ list.items,
      item.compiled.occursIn value.toList = item.compiled.occursIn other.toList := by
    intro item member
    rw [Bool.eq_iff_iff, Pattern.occursIn_iff_occurs, Pattern.occursIn_iff_occurs]
    exact same item member
  rw [firstMatch?, firstMatch?, List.find?_congr tests]

/-- A value in which a pattern of a list occurs is judged by that pattern's entry or by an earlier
one. -/
theorem exists_firstMatch?_of_occurs {list : PatternList} {index : Nat} {item : ListedPattern}
    (listed : list.items[index]? = some item) {value : String}
    (occurs : item.compiled.Occurs value.toList) :
    ∃ first ≤ index, ∃ entry, list.entries[first]? = some entry ∧
      list.firstMatch? value = some entry := by
  have found : (list.items.find? (·.compiled.occursIn value.toList)).isSome = true :=
    List.find?_isSome.mpr
      ⟨item, List.mem_of_getElem? listed, Pattern.occursIn_iff_occurs.mpr occurs⟩
  obtain ⟨least, leastFound⟩ := Option.isSome_iff_exists.mp found
  obtain ⟨_, first, inside, at_first, earlier⟩ := List.find?_eq_some_iff_getElem.mp leastFound
  refine ⟨first, ?_, least.entry, ?_, ?_⟩
  · by_contra! later
    have missed := earlier index later
    rw [(List.getElem?_eq_some_iff.mp listed).2, Pattern.occursIn_iff_occurs.mpr occurs] at missed
    cases missed
  · rw [entries, List.getElem?_map, List.getElem?_eq_getElem inside, at_first, Option.map_some]
  · rw [firstMatch?, leastFound, Option.map_some]

/-- The built-in list finds the same entry in values that differ in the case of letters. -/
theorem builtin_firstMatch?_eq {kind : ListKind} {level : Level} {value other : String}
    (same : SameButCase value.toList other.toList) :
    (builtin kind level).firstMatch? value = (builtin kind level).firstMatch? other := by
  apply firstMatch?_congr
  intro item member
  obtain ⟨rule, active, rfl⟩ := List.mem_map.mp member
  have listed := (List.mem_filter.mp active).1
  exact ⟨Rule.occurs_of_sameButCase listed same,
    Rule.occurs_of_sameButCase listed (sameButCase_comm.mp same)⟩

end PatternList

namespace Catalog

/-- A value in which a built-in pattern occurs is flagged by that pattern's entry or by an earlier
one. -/
theorem exists_flagged_of_occurs {level : Level} {kind : ListKind} {index : Nat}
    {item : ListedPattern} (listed : (PatternList.builtin kind level).items[index]? = some item)
    {value : String} (occurs : item.compiled.Occurs (kind.searched value).toList) :
    ∃ first ≤ index, ∃ entry,
      (PatternList.builtin kind level).entries[first]? = some entry ∧
        builtin.classify level kind value = .flagged kind entry := by
  obtain ⟨first, least, entry, at_first, matched⟩ :=
    PatternList.exists_firstMatch?_of_occurs listed occurs
  have flagged : builtin.flag? level kind value = some entry := by
    rw [flag?, builtin_list]
    exact matched
  exact ⟨first, least, entry, at_first, by rw [classify, flagged]⟩

/-- **Case hides no match.** Values that differ in the case of ASCII letters at most are judged
alike, and by the same entry. -/
theorem builtin_classify_sameButCase (level : Level) (kind : ListKind) {value other : String}
    (same : SameButCase value.toList other.toList) :
    builtin.classify level kind value = builtin.classify level kind other := by
  have found : builtin.flag? level kind value = builtin.flag? level kind other := by
    rw [flag?, flag?, builtin_list]
    exact PatternList.builtin_firstMatch?_eq (same.searched kind)
  rw [classify, classify, found]

/-- A deletion in upper case, and a key with capitals and backslashes. -/
theorem builtin_classify_sameButCase_shouted :
    builtin.classify .permissive .command "RM -rF /" =
        builtin.classify .permissive .command "rm -Rf /" ∧
      builtin.classify .strict .path "C:\\Keys\\.SSH\\id_rsa" =
        builtin.classify .strict .path "c:\\keys\\.ssh\\ID_RSA" := by
  constructor
  · apply builtin_classify_sameButCase
    simp [SameButCase]
  · apply builtin_classify_sameButCase
    simp [SameButCase]

/-- **Separators hide no match.** Every catalog judges paths alike, and by the same entry, that
become equal with slashes for their backslashes. What a built-in path rule occurs in as it is
written is sensitive by the entry of that rule or by an earlier one. -/
theorem classify_separators (level : Level) :
    (∀ (catalog : Catalog) (path other : String),
      path.toList.map slashFor = other.toList.map slashFor →
        catalog.classify level .path path = catalog.classify level .path other) ∧
    ∀ (path : String) (index : Nat) (item : ListedPattern),
      (PatternList.builtin .path level).items[index]? = some item →
      item.compiled.occursIn path.toList = true →
        ∃ first ≤ index, ∃ entry,
          (PatternList.builtin .path level).entries[first]? = some entry ∧
            builtin.classify level .path path = .sensitive entry := by
  constructor
  · intro catalog path other same
    have searched : withSlashes path = withSlashes other :=
      String.toList_inj.mp (by rw [toList_withSlashes, toList_withSlashes, same])
    rw [classify, classify, flag?, flag?, ListKind.searched, ListKind.searched, searched]
  · intro path index item listed found
    obtain ⟨rule, active, rfl⟩ := List.mem_map.mp (List.mem_of_getElem? listed)
    have respells := (Rule.paths_respell rule (List.mem_filter.mp active).1).2
    have spelled : List.Forall₂ Respelling.slashes.stands path.toList
        (withSlashes path).toList := by
      rw [toList_withSlashes]
      exact List.forall₂_map_right_iff.mpr (List.forall₂_same.mpr fun _ _ => rfl)
    have occurs : rule.listed.compiled.Occurs (withSlashes path).toList :=
      (Pattern.occursIn_iff_occurs.mp found).respell .slashes respells spelled
    exact exists_flagged_of_occurs listed occurs

/-- Two spellings of one path, and a path in which the rule about the directory of keys occurs,
while slashes show the credentials below it. -/
theorem classify_separators_credentials :
    builtin.classify .strict .path "C:\\work/.ssh\\id_rsa" =
        builtin.classify .strict .path "C:/work\\.ssh/id_rsa" ∧
      ∃ first ≤ 9, ∃ entry, (PatternList.builtin .path .standard).entries[first]? = some entry ∧
        builtin.classify .standard .path "/old/.ssh/.aws\\credentials" = .sensitive entry := by
  constructor
  · exact (classify_separators .strict).1 builtin _ _ (by decide)
  · apply (classify_separators .standard).2 _ 9 (Rule.secretPaths[3].listed)
    · rfl
    · decide +kernel

end Catalog

end ScreenedSuite
