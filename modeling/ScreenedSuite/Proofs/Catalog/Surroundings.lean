import ScreenedSuite.Proofs.Catalog.Tiers
import ScreenedSuite.Proofs.Pattern.Context
import ScreenedSuite.Proofs.Unicode.Blank

/-! # Flagged values inside larger values

What the built-in rules flag, they still flag inside a larger value: a command among other words,
and a path below a directory (`ScreenedSuite.Catalog.builtin_classify_embedded`). A dangerous
command that a shell separator and further text follow is flagged as well, unless a call of `su` at
its end is all that is dangerous about it (`ScreenedSuite.Catalog.builtin_classify_chained`).
-/

namespace ScreenedSuite

/-- The characters that end a command of a shell, as the rules write them. -/
def CharClass.separators : CharClass :=
  anyCase (union [single ';', single '&', single '|'])

namespace Rule

/-- A call of `su` that is the end of a text. -/
def suAtEnd : Pattern :=
  (Pattern.ofText? .empty r"\bsu(\s+-)?(\s+root)?$").toOption.getD (.char .never)

/-- What the rule about `su` looks like: it ends in white space or the end of the text. -/
structure CallsSu (rule : Rule) : Prop where
  id : rule.id = "su-root"
  tier : rule.tier = .standard
  ending : rule.compiled.ending = .alt (.char .space) (.look .textEnd)
  withBlank : (rule.compiled.withEnding (.char .space)).endures .separators = true
  atEnd : rule.compiled.withEnding (.look .textEnd) = suAtEnd

instance (rule : Rule) : Decidable rule.CallsSu :=
  decidable_of_iff
    (rule.id = "su-root" ∧ rule.tier = .standard ∧
      rule.compiled.ending = .alt (.char .space) (.look .textEnd) ∧
      (rule.compiled.withEnding (.char .space)).endures .separators = true ∧
      rule.compiled.withEnding (.look .textEnd) = suAtEnd)
    ⟨fun ⟨id, tier, ending, withBlank, atEnd⟩ => ⟨id, tier, ending, withBlank, atEnd⟩,
      fun calls => ⟨calls.id, calls.tier, calls.ending, calls.withBlank, calls.atEnd⟩⟩

/-- The conditions in a command rule are word boundaries and the end of the text. Where it ends in
the latter, it may also end in white space, and, but for one rule, in a separator. -/
theorem commands_endure : ∀ rule ∈ all .command,
    rule.compiled.looksAll Move.front.keeps = true ∧ rule.compiled.endures .space = true ∧
      (rule.compiled.endures .separators = true ∨ rule.CallsSu) := by
  decide +kernel

/-- A path rule looks at the start of the text only where a slash would do as well, or where it
needs a slash next. -/
theorem paths_descend : ∀ rule ∈ all .path, rule.compiled.descends = true := by
  decide +kernel

/-- The fragments by which a shell joins, redirects and nests commands on a line. -/
def metacharacters : List String :=
  [";", "&", "|", "<", ">", "`", "$("]

/-- Each of these fragments is spelt by a strict rule. -/
theorem exists_spells {fragment : String} (member : fragment ∈ metacharacters) :
    ∃ rule ∈ active .command .strict, rule.compiled.spells fragment.toList = true := by
  have spelt : ∀ fragment ∈ metacharacters,
      ∃ rule ∈ riskyCommands.take 3, rule.compiled.spells fragment.toList = true := by
    decide +kernel
  obtain ⟨rule, listed, spells⟩ := spelt fragment member
  have risky : rule ∈ all .command := List.mem_append_right _ (List.mem_of_mem_take listed)
  have everyTier (tier : Level) : Level.strict.includes tier = true := by
    cases tier <;> rfl
  exact ⟨rule, List.mem_filter.mpr ⟨risky, everyTier rule.tier⟩, spells⟩

end Rule

namespace Catalog

variable {level : Level}

/-- The built-in catalog flags what one of the rules in use occurs in. -/
theorem exists_flagged_iff {kind : ListKind} {value : String} :
    (∃ entry, builtin.classify level kind value = .flagged kind entry) ↔
      ∃ rule ∈ Rule.active kind level, rule.compiled.Occurs (kind.searched value).toList := by
  have found : (builtin.flag? level kind value).isSome = true ↔
      ∃ rule ∈ Rule.active kind level, rule.compiled.Occurs (kind.searched value).toList := by
    unfold flag? PatternList.firstMatch?
    rw [builtin_list, Option.isSome_map, List.find?_isSome]
    simp only [PatternList.builtin, List.mem_map, exists_exists_and_eq_and, Rule.listed,
      Pattern.occursIn_iff_occurs]
  rw [← found]
  unfold classify
  cases builtin.flag? level kind value with
  | none => cases kind <;> simp [Classification.flagged]
  | some entry => simp

theorem exists_dangerous_iff {command : String} :
    (∃ entry, builtin.classify level .command command = .dangerous entry) ↔
      ∃ rule ∈ Rule.active .command level, rule.compiled.Occurs command.toList :=
  exists_flagged_iff

theorem exists_sensitive_iff {path : String} :
    (∃ entry, builtin.classify level .path path = .sensitive entry) ↔
      ∃ rule ∈ Rule.active .path level, rule.compiled.Occurs (withSlashes path).toList :=
  exists_flagged_iff

theorem toList_withSlashes_below (directory path : String) :
    (withSlashes (directory ++ "/" ++ path)).toList =
      (withSlashes directory).toList ++ '/' :: (withSlashes path).toList := by
  simp [withSlashes]

theorem head?_withSlashes {path : String} (noSlash : path.toList.head? ≠ some '/')
    (noBackslash : path.toList.head? ≠ some '\\') :
    (withSlashes path).toList.head? ≠ some '/' := by
  cases characters : path.toList with
  | nil => simp [withSlashes, characters]
  | cons first rest =>
      have different : first ≠ '\\' := by simpa [characters] using noBackslash
      have plain : first ≠ '/' := by simpa [characters] using noSlash
      simpa [withSlashes, characters, different] using plain

/-- **Flagged values stay flagged inside larger values.** A dangerous command is dangerous behind
anything that ends in no word and before anything that begins with white space. A sensitive path
that does not begin with a separator is sensitive below every directory. -/
theorem builtin_classify_embedded (level : Level) :
    (∀ lead command tail : String,
      (∀ c, lead.toList.getLast? = some c → Unicode.isWord c = false) →
      (∀ c, tail.toList.head? = some c → Unicode.isBlank c = true) →
      (∃ entry, builtin.classify level .command command = .dangerous entry) →
        ∃ entry, builtin.classify level .command (lead ++ command ++ tail) = .dangerous entry) ∧
    ∀ directory path : String,
      path.toList.head? ≠ some '/' → path.toList.head? ≠ some '\\' →
      (∃ entry, builtin.classify level .path path = .sensitive entry) →
        ∃ entry, builtin.classify level .path (directory ++ "/" ++ path) = .sensitive entry := by
  constructor
  · intro lead command tail outside blank dangerous
    obtain ⟨rule, active, occurs⟩ := exists_dangerous_iff.mp dangerous
    obtain ⟨looks, endures, _⟩ := Rule.commands_endure rule (List.mem_filter.mp active).1
    have behindLead : rule.compiled.Occurs (lead ++ command).toList := by
      rw [String.toList_append]
      exact occurs.prepend looks outside
    refine exists_dangerous_iff.mpr ⟨rule, active, ?_⟩
    rw [String.toList_append]
    cases characters : tail.toList with
    | nil => rwa [List.append_nil]
    | cons first rest =>
        have space : Unicode.isBlank first = true := blank first (by rw [characters]; rfl)
        exact behindLead.append endures space (Unicode.isWord_eq_false_of_isBlank space) rest
  · intro directory path noSlash noBackslash sensitive
    obtain ⟨rule, active, occurs⟩ := exists_sensitive_iff.mp sensitive
    have descends := Rule.paths_descend rule (List.mem_filter.mp active).1
    refine exists_sensitive_iff.mpr ⟨rule, active, ?_⟩
    rw [toList_withSlashes_below]
    exact occurs.below descends (head?_withSlashes noSlash noBackslash) _

/-- A deletion at the end of a longer command line, and a key in a directory. -/
theorem builtin_classify_embedded_deletion_and_key :
    (∃ entry, builtin.classify .permissive .command ("cd /tmp &&" ++ "rm -rf /" ++ "\ntrue") =
      .dangerous entry) ∧
    ∃ entry, builtin.classify .permissive .path ("C:\\work" ++ "/" ++ ".ssh/id_rsa") =
      .sensitive entry := by
  constructor
  · apply (builtin_classify_embedded .permissive).1 "cd /tmp &&" "rm -rf /" "\ntrue"
    · intro c last
      obtain rfl : c = '&' := by simpa using last.symm
      decide +kernel
    · intro c first
      obtain rfl : c = '\n' := by simpa using first.symm
      decide +kernel
    · exact ⟨_, show builtin.classify .permissive .command "rm -rf /" = .dangerous
        (Rule.catastrophicCommands[0].listed.entry) by decide +kernel⟩
  · apply (builtin_classify_embedded .permissive).2 "C:\\work" ".ssh/id_rsa"
    · decide
    · decide
    · exact ⟨_, show builtin.classify .permissive .path ".ssh/id_rsa" = .sensitive
        (Rule.credentialPaths[1].listed.entry) by decide +kernel⟩

/-! ## Behind a separator -/

theorem separators_contains {separator : Char} (member : separator ∈ [';', '&', '|']) :
    CharClass.separators.contains separator = true ∧ Unicode.isWord separator = false := by
  simp only [List.mem_cons, List.not_mem_nil, or_false] at member
  rcases member with rfl | rfl | rfl
  · exact ⟨rfl, rfl⟩
  · exact ⟨rfl, rfl⟩
  · exact ⟨rfl, rfl⟩

theorem toString_mem_metacharacters {separator : Char} (member : separator ∈ [';', '&', '|']) :
    separator.toString ∈ Rule.metacharacters := by
  simp only [List.mem_cons, List.not_mem_nil, or_false] at member
  rcases member with rfl | rfl | rfl
  · decide
  · decide
  · decide

/-- What a rule occurs in, it occurs in before a separator too, if it is not about a call of `su`
that ends there. -/
theorem occurs_chained {rule : Rule} (listed : rule ∈ Rule.all .command) {text rest : List Char}
    (occurs : rule.compiled.Occurs text) {separator : Char} (member : separator ∈ [';', '&', '|']) :
    rule.compiled.Occurs (text ++ separator :: rest) ∨
      rule.CallsSu ∧ Rule.suAtEnd.Occurs text := by
  obtain ⟨held, outside⟩ := separators_contains member
  obtain ⟨_, _, endures | calls⟩ := Rule.commands_endure rule listed
  · exact .inl (occurs.append endures held outside rest)
  · rcases (Pattern.occurs_iff_of_ending calls.ending).mp occurs with blank | atEnd
    · have longer := blank.append calls.withBlank held outside rest
      exact .inl ((Pattern.occurs_iff_of_ending calls.ending).mpr (.inl longer))
    · rw [calls.atEnd] at atEnd
      exact .inr ⟨calls, atEnd⟩

/-- **A dangerous command stays dangerous before a separator**, whatever follows, unless the level
is the standard one and a call of `su` at its end is all that is dangerous about it. -/
theorem builtin_classify_chained {command : String}
    (dangerous : ∃ entry, builtin.classify level .command command = .dangerous entry)
    {separator : Char} (member : separator ∈ [';', '&', '|']) (rest : String) :
    (∃ entry, builtin.classify level .command (command ++ separator.toString ++ rest) =
      .dangerous entry) ∨
    level = .standard ∧ Rule.suAtEnd.Occurs command.toList ∧
      ∀ rule ∈ Rule.active .command level,
        rule.compiled.Occurs command.toList → rule.id = "su-root" := by
  have characters : (command ++ separator.toString ++ rest).toList =
      command.toList ++ separator :: rest.toList := by
    simp [Char.toString]
  by_cases chained : ∃ rule ∈ Rule.active .command level,
      rule.compiled.Occurs (command.toList ++ separator :: rest.toList)
  · exact .inl (exists_dangerous_iff.mpr (by rwa [characters]))
  · -- No rule in use occurs any more, so each that did was about `su`.
    have aboutSu : ∀ rule ∈ Rule.active .command level, rule.compiled.Occurs command.toList →
        rule.CallsSu ∧ Rule.suAtEnd.Occurs command.toList := by
      intro rule active occurs
      rcases occurs_chained (List.mem_filter.mp active).1 occurs member with longer | su
      · exact (chained ⟨rule, active, longer⟩).elim
      · exact su
    obtain ⟨rule, active, occurs⟩ := exists_dangerous_iff.mp dangerous
    obtain ⟨calls, atEnd⟩ := aboutSu rule active occurs
    have standard : level = .standard := by
      have included := (List.mem_filter.mp active).2
      rw [calls.tier] at included
      cases level with
      | permissive => cases included
      | standard => rfl
      | strict =>
          obtain ⟨chaining, inUse, spells⟩ :=
            Rule.exists_spells (toString_mem_metacharacters member)
          have held : separator.toString.toList <:+: command.toList ++ separator :: rest.toList :=
            ⟨command.toList, rest.toList, by simp [Char.toString]⟩
          exact (chained ⟨chaining, inUse, Pattern.occurs_of_spells spells held⟩).elim
    refine .inr ⟨standard, atEnd, fun other otherActive otherOccurs => ?_⟩
    exact (aboutSu other otherActive otherOccurs).1.id

/-- A deletion and then a listing. -/
theorem builtin_classify_chained_deletion :
    ∃ entry, builtin.classify .permissive .command ("rm -rf ~" ++ '&'.toString ++ "ls") =
      .dangerous entry := by
  have dangerous : builtin.classify .permissive .command "rm -rf ~" =
      .dangerous (Rule.catastrophicCommands[1].listed.entry) := by
    decide +kernel
  rcases builtin_classify_chained ⟨_, dangerous⟩ (show '&' ∈ [';', '&', '|'] by decide) "ls" with
    chained | ⟨standard, _⟩
  · exact chained
  · cases standard

/-- A call of `su` is dangerous by itself, and no longer so before a separator. -/
theorem builtin_classify_su_chained :
    builtin.classify .standard .command "su" =
        .dangerous ⟨"su-root", r"\bsu(\s+-)?(\s+root)?(\s|$)", "Switching to another user"⟩ ∧
      builtin.classify .standard .command ("su" ++ ';'.toString ++ "ls") = .safe := by
  constructor
  · decide +kernel
  · decide +kernel

end Catalog

end ScreenedSuite
