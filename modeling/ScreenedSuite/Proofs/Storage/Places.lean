import Mathlib.Data.List.Basic
import Mathlib.Data.List.DropRight
import ScreenedSuite.Proofs.Outcome
import ScreenedSuite.Storage.FileTree

/-! # The places that paths lead to

In a tree without links a path that can be followed leads to a place that its names alone decide.
A path stands above another one if it has the first of the other's names: every directory that is
made for a path stands above it.

Main statements: a walk ends where the names lead (`ScreenedSuite.FileTree.walk_eq_lead`), and the
ancestors of a path stand above it (`ScreenedSuite.Path.above_of_mem_ancestors`).
-/

namespace ScreenedSuite

namespace Path

/-! ## Names -/

theorem stretches_eq_splitOn (mark : Char) (text : List Char) :
    stretches mark text = text.splitOn mark := by
  induction text with
  | nil => rfl
  | cons c rest ih =>
    rw [List.splitOn, List.splitOnP_cons_eq_if_modifyHead, stretches, ih, List.splitOn]
    cases split : rest.splitOnP (· == mark) with
    | nil => exact absurd split (List.splitOn_ne_nil mark rest)
    | cons first more => rfl

theorem stretches_cons (mark c : Char) (rest : List Char) :
    stretches mark (c :: rest) =
      if c == mark then [] :: stretches mark rest
      else (stretches mark rest).modifyHead (c :: ·) := by
  simp only [stretches_eq_splitOn, List.splitOn, List.splitOnP_cons_eq_if_modifyHead]

/-- No stretch holds the mark. -/
theorem mark_not_mem_of_mem_stretches {mark : Char} {text stretch : List Char}
    (member : stretch ∈ stretches mark text) : mark ∉ stretch := by
  induction text generalizing stretch with
  | nil => simp_all [stretches]
  | cons c rest ih =>
    rw [stretches_cons] at member
    split at member
    case isTrue =>
      rcases List.mem_cons.mp member with rfl | later
      · exact List.not_mem_nil
      · exact ih later
    case isFalse other =>
      cases split : stretches mark rest with
      | nil => simp [split] at member
      | cons first more =>
        rw [split] at ih
        rw [split, List.modifyHead_cons, List.mem_cons] at member
        rcases member with rfl | later
        · have apart : mark ≠ c := fun same => other (by simp [same])
          simp [apart, ih List.mem_cons_self]
        · exact ih (List.mem_cons_of_mem _ later)

/-- No name of a path holds a slash. -/
theorem slash_not_mem_of_mem_names {path name : String} (member : name ∈ names path) :
    '/' ∉ name.toList := by
  obtain ⟨stretch, stretchMember, rfl⟩ := List.mem_map.mp member
  rw [String.toList_ofList]
  exact mark_not_mem_of_mem_stretches stretchMember

/-- Joined names can be read off the path again. -/
theorem names_intercalate {parts : List String} (nonempty : parts ≠ [])
    (slashless : ∀ part ∈ parts, '/' ∉ part.toList) : names ("/".intercalate parts) = parts := by
  have slash : "/".toList = ['/'] := rfl
  rw [names, String.toList_intercalate, slash, stretches_eq_splitOn, List.splitOn_intercalate]
  · simp
  · simpa using slashless
  · simpa using nonempty

/-- A path is its names, joined. -/
theorem intercalate_names (path : String) : "/".intercalate (names path) = path := by
  have slash : "/".toList = ['/'] := rfl
  rw [← String.toList_inj, String.toList_intercalate, slash, names, stretches_eq_splitOn,
    List.map_map]
  simp [Function.comp_def, List.intercalate_splitOn]

/-- The first names of a path, joined, are how it begins. -/
theorem toList_intercalate_prefix {path : String} {kept : List String}
    (initial : kept <+: names path) : ("/".intercalate kept).toList <+: path.toList := by
  obtain ⟨rest, split⟩ := initial
  have whole := intercalate_names path
  cases kept with
  | nil => exact List.nil_prefix
  | cons first more =>
    cases rest with
    | nil =>
      rw [← split, List.append_nil] at whole
      exact whole ▸ List.prefix_rfl
    | cons next others =>
      rw [← split, String.intercalate_append_of_ne_nil (by simp) (by simp)] at whole
      rw [← whole, String.toList_append, String.toList_append, List.append_assoc]
      exact List.prefix_append _ _

/-- An absolute path is one whose first name is empty and not the only one. -/
theorem isAbsolute_eq {path first : String} {rest : List String}
    (split : names path = first :: rest) : isAbsolute path = (first == "" && !rest.isEmpty) := by
  unfold names at split
  unfold isAbsolute
  cases text : path.toList with
  | nil =>
    rw [text, stretches, List.map_singleton, List.cons.injEq] at split
    simp [← split.2]
  | cons c more =>
    rw [text, stretches_cons] at split
    cases later : stretches '/' more with
    | nil => simp [stretches_eq_splitOn, List.splitOn_ne_nil] at later
    | cons next others =>
      rw [later] at split
      by_cases slash : c = '/'
      · simp only [slash, BEq.rfl, if_true, List.map_cons, List.cons.injEq] at split
        simp [slash, ← split.1, ← split.2]
      · simp only [beq_iff_eq, slash, if_false, List.modifyHead_cons, List.map_cons,
          List.cons.injEq] at split
        have nonempty : first ≠ "" := by
          rw [← split.1, ne_eq, ← String.toList_inj, String.toList_ofList]
          exact List.cons_ne_nil _ _
        simp [beq_eq_false_iff_ne.mpr nonempty, beq_eq_false_iff_ne.mpr slash]

/-! ## Steps -/

/-- The names of a path that lead somewhere. -/
def steps (path : String) : List String :=
  (names path).filter (!isIdle ·)

/-- A text has at most as many stretches that are not empty as it has characters. -/
theorem length_filter_stretches_le (mark : Char) (text : List Char) :
    ((stretches mark text).filter (!·.isEmpty)).length ≤ text.length := by
  induction text with
  | nil => exact Nat.le_refl 0
  | cons c rest ih =>
    rw [stretches_cons]
    split
    case isTrue => exact Nat.le_succ_of_le ih
    case isFalse =>
      cases split : stretches mark rest with
      | nil => simp
      | cons first more =>
        rw [split, List.filter_cons] at ih
        simp only [List.modifyHead_cons, List.filter_cons, List.isEmpty_cons, Bool.not_false,
          if_true, List.length_cons, Nat.add_le_add_iff_right]
        split at ih
        · exact Nat.le_of_succ_le ih
        · exact ih

/-- A path has at most as many steps as characters. -/
theorem length_steps_le (path : String) : (steps path).length ≤ path.length := by
  have nonempty : ∀ stretch : List Char, !isIdle (String.ofList stretch) → !stretch.isEmpty := by
    intro stretch leads
    cases stretch with
    | nil => simp [isIdle] at leads
    | cons c rest => rfl
  rw [steps, names, List.filter_map, List.length_map, ← String.length_toList]
  exact ((List.monotone_filter_right _ nonempty).length_le).trans
    (length_filter_stretches_le '/' path.toList)

/-- Whether the first steps towards a path are all the steps towards another one. -/
def Above (front path : String) : Prop :=
  isAbsolute front = isAbsolute path ∧ steps front <+: steps path

theorem Above.refl (path : String) : Above path path :=
  ⟨rfl, List.prefix_rfl⟩

theorem Above.trans {front middle path : String} (first : Above front middle)
    (second : Above middle path) : Above front path :=
  ⟨first.1.trans second.1, first.2.trans second.2⟩

theorem trimIdle_initial (parts : List String) : trimIdle parts <+: parts :=
  List.rdropWhile_prefix isIdle parts

theorem filter_trimIdle (parts : List String) :
    (trimIdle parts).filter (!isIdle ·) = parts.filter (!isIdle ·) := by
  rw [trimIdle, ← parts.reverse_reverse, List.filter_reverse, List.filter_reverse,
    parts.reverse_reverse]
  congr 1
  induction parts.reverse with
  | nil => rfl
  | cons name rest ih =>
    by_cases idle : isIdle name
    · simp [idle, ih]
    · simp [idle]

/-- A path without steps stands above every path with the same start. -/
theorem above_of_steps_eq_nil {front path : String} (stays : steps front = [])
    (start : isAbsolute front = isAbsolute path) : Above front path :=
  ⟨start, stays ▸ List.nil_prefix⟩

/-- The first names of a path, joined, stand above it. Of an absolute path these are at least
two, since the empty name alone is the empty path. -/
theorem above_intercalate {path first : String} {kept rest : List String}
    (split : names path = first :: rest) (initial : kept <+: first :: rest)
    (long : first = "" → 2 ≤ kept.length) : Above ("/".intercalate kept) path := by
  cases kept with
  | nil =>
    have named : first ≠ "" := fun empty => by simpa using long empty
    have relative : isAbsolute path = false := by
      simp [isAbsolute_eq split, beq_eq_false_iff_ne.mpr named]
    exact above_of_steps_eq_nil rfl relative.symm
  | cons name more =>
    obtain ⟨rfl, initialRest⟩ := List.cons_prefix_cons.mp initial
    have slashless : ∀ part ∈ name :: more, '/' ∉ part.toList := fun part member =>
      slash_not_mem_of_mem_names (split ▸ initial.subset member)
    have joined := names_intercalate (List.cons_ne_nil _ _) slashless
    constructor
    · rw [isAbsolute_eq split, isAbsolute_eq joined]
      by_cases empty : name = ""
      · have moreNonempty : more ≠ [] := fun none => by simpa [none] using long empty
        have restNonempty : rest ≠ [] := fun none =>
          moreNonempty (List.prefix_nil.mp (none ▸ initialRest))
        rw [List.isEmpty_eq_false_iff.mpr moreNonempty, List.isEmpty_eq_false_iff.mpr restNonempty]
      · simp [beq_eq_false_iff_ne.mpr empty]
    · rw [steps, steps, split, joined]
      exact initial.filter _

/-- The names before the last one that leads somewhere, without idle names at their end. -/
theorem trimIdle_dropLast_initial (parts : List String) :
    trimIdle (trimIdle parts).dropLast <+: parts :=
  ((trimIdle_initial _).trans (List.dropLast_prefix _)).trans (trimIdle_initial _)

/-- The shapes of a path that has a parent. Where nothing is left before the last name but an idle
one at the start, that one decides. -/
inductive HasParent (path : String) : String → Prop
  | dot {rest : List String} (split : names path = "." :: rest) (alone : trimIdle rest = []) :
      HasParent path ""
  | root {rest : List String} (split : names path = "" :: rest) (named : trimIdle rest ≠ [])
      (single : trimIdle (trimIdle rest).dropLast = []) : HasParent path "/"
  | here {rest : List String} (split : names path = "." :: rest)
      (single : trimIdle (trimIdle rest).dropLast = []) : HasParent path "."
  | behind {first : String} {rest : List String} (split : names path = first :: rest)
      (idle : isIdle first = true) (several : trimIdle (trimIdle rest).dropLast ≠ []) :
      HasParent path ("/".intercalate (first :: trimIdle (trimIdle rest).dropLast))
  | leads {first : String} {rest : List String} (split : names path = first :: rest)
      (leads : isIdle first = false) :
      HasParent path ("/".intercalate (trimIdle (trimIdle (first :: rest)).dropLast))

theorem hasParent_of_parent? {path above : String} (parent : parent? path = some above) :
    HasParent path above := by
  unfold parent? at parent
  split at parent
  case h_1 => cases parent
  case h_2 => cases parent
  case h_3 first rest _ split =>
    split at parent
    case isFalse leads =>
      obtain rfl := Option.some.inj parent
      exact .leads split (Bool.eq_false_iff.mpr leads)
    case isTrue idle =>
      split at parent
      case h_1 alone =>
        split at parent
        case isFalse => cases parent
        case isTrue dot =>
          obtain rfl := Option.some.inj parent
          exact .dot (eq_of_beq dot ▸ split) alone
      case h_2 named =>
        split at parent
        case h_2 several =>
          obtain rfl := Option.some.inj parent
          exact .behind split idle several
        case h_1 single =>
          obtain rfl := Option.some.inj parent
          split
          case isTrue empty => exact .root (eq_of_beq empty ▸ split) named single
          case isFalse nonempty =>
            obtain rfl : first = "." := by simpa [isIdle, nonempty] using idle
            exact .here split single

/-- The parent of a path stands above it. -/
theorem parent?_above {path above : String} (parent : parent? path = some above) :
    Above above path := by
  cases hasParent_of_parent? parent with
  | dot split => exact above_of_steps_eq_nil rfl (by rw [isAbsolute_eq split]; rfl)
  | @root rest split named =>
    have restNonempty : rest ≠ [] := by
      rintro rfl
      exact named rfl
    have rooted : isAbsolute path = true := by simp [isAbsolute_eq split, restNonempty]
    exact above_of_steps_eq_nil rfl rooted.symm
  | here split => exact above_of_steps_eq_nil rfl (by rw [isAbsolute_eq split]; rfl)
  | behind split _ several =>
    refine above_intercalate split (List.cons_prefix_cons.mpr ⟨rfl, ?_⟩) fun _ => ?_
    · exact trimIdle_dropLast_initial _
    · exact Nat.succ_le_succ (List.length_pos_iff.mpr several)
  | leads split leads =>
    refine above_intercalate split (trimIdle_dropLast_initial _) ?_
    rintro rfl
    cases leads

/-- The steps of joined names are the names that lead somewhere. -/
theorem steps_intercalate {parts : List String} (slashless : ∀ part ∈ parts, '/' ∉ part.toList) :
    steps ("/".intercalate parts) = parts.filter (!isIdle ·) := by
  cases parts with
  | nil => rfl
  | cons first rest => rw [steps, names_intercalate (List.cons_ne_nil _ _) slashless]

/-- Without the idle names at their end, names end in one that leads somewhere. -/
theorem trimIdle_cases (parts : List String) :
    trimIdle parts = [] ∨
      ∃ front name, trimIdle parts = front ++ [name] ∧ isIdle name = false := by
  rcases List.eq_nil_or_concat (trimIdle parts) with empty | ⟨front, name, split⟩
  · exact .inl empty
  · refine .inr ⟨front, name, by simpa using split, ?_⟩
    have nonempty : trimIdle parts ≠ [] := by simp [split]
    have last := List.rdropWhile_last_not isIdle parts nonempty
    change ¬ isIdle ((trimIdle parts).getLast nonempty) = true at last
    simpa [split] using last

theorem filter_dropLast_trimIdle (parts : List String) :
    (trimIdle parts).dropLast.filter (!isIdle ·) = (parts.filter (!isIdle ·)).dropLast := by
  rw [← filter_trimIdle parts]
  rcases trimIdle_cases parts with empty | ⟨front, name, split, leads⟩
  · rw [empty]
    rfl
  · simp [split, leads]

/-- Whether a path ends in a name that leads somewhere, unless none of its names does. -/
def Trimmed (path : String) : Prop :=
  steps path = [] ∨ ∃ front name, names path = front ++ [name] ∧ isIdle name = false

theorem trimmed_intercalate {parts : List String} (slashless : ∀ part ∈ parts, '/' ∉ part.toList)
    (trimmed : parts.filter (!isIdle ·) = [] ∨
      ∃ front name, parts = front ++ [name] ∧ isIdle name = false) :
    Trimmed ("/".intercalate parts) := by
  rcases trimmed with stays | ⟨front, name, rfl, leads⟩
  · exact .inl ((steps_intercalate slashless).trans stays)
  · exact .inr ⟨front, name, names_intercalate (by simp) slashless, leads⟩

/-- The parent of a path has all its steps but the last. It is trimmed, and the path begins with
it. -/
theorem parent?_eq_some {path above : String} (parent : parent? path = some above) :
    steps above = (steps path).dropLast ∧ Trimmed above ∧ above.toList <+: path.toList := by
  have slashless {first : String} {rest : List String} (split : names path = first :: rest) :
      ∀ part ∈ first :: rest, '/' ∉ part.toList := fun part member =>
    slash_not_mem_of_mem_names (split ▸ member)
  have steps_idle {first : String} {rest : List String} (split : names path = first :: rest)
      (idle : isIdle first = true) :
      (steps path).dropLast = (trimIdle (trimIdle rest).dropLast).filter (!isIdle ·) := by
    rw [filter_trimIdle, filter_dropLast_trimIdle, steps, split,
      List.filter_cons_of_neg (by simp [idle])]
  cases hasParent_of_parent? parent with
  | dot split alone =>
    refine ⟨?_, .inl rfl, List.nil_prefix⟩
    rw [steps_idle split rfl, alone]
    rfl
  | root split named single =>
    refine ⟨?_, .inl rfl, ?_⟩
    · rw [steps_idle split rfl, single]
      rfl
    · have absolute : isAbsolute path = true := (parent?_above parent).1.symm
      cases text : path.toList with
      | nil => simp [isAbsolute, text] at absolute
      | cons c more =>
        obtain rfl : c = '/' := by simpa [isAbsolute, text] using absolute
        exact List.prefix_append ['/'] more
  | @here rest split single =>
    have begins : ["."] <+: names path := split ▸ List.prefix_append ["."] rest
    refine ⟨?_, .inl rfl, toList_intercalate_prefix begins⟩
    rw [steps_idle split rfl, single]
    rfl
  | @behind first rest split idle several =>
    have begins : first :: trimIdle (trimIdle rest).dropLast <+: first :: rest :=
      List.cons_prefix_cons.mpr ⟨rfl, trimIdle_dropLast_initial rest⟩
    have inner := fun part member => slashless split part (begins.subset member)
    refine ⟨?_, trimmed_intercalate inner (.inr ?_), toList_intercalate_prefix (split ▸ begins)⟩
    · rw [steps_intercalate inner, steps_idle split idle, List.filter_cons_of_neg (by simp [idle])]
    · obtain ⟨front, name, isEnd, leads⟩ := (trimIdle_cases _).resolve_left several
      exact ⟨first :: front, name, by rw [isEnd, List.cons_append], leads⟩
  | @leads first rest split leads =>
    have begins := trimIdle_dropLast_initial (first :: rest)
    have inner := fun part member => slashless split part (begins.subset member)
    refine ⟨?_, trimmed_intercalate inner ((trimIdle_cases _).imp_left fun empty => ?_),
      toList_intercalate_prefix (split ▸ begins)⟩
    · rw [steps_intercalate inner, filter_trimIdle, filter_dropLast_trimIdle, steps, split]
    · rw [empty]
      rfl

/-- A path without a parent leads nowhere. -/
theorem steps_eq_nil_of_parent? {path : String} (orphan : parent? path = none) :
    steps path = [] := by
  unfold parent? at orphan
  split at orphan
  case h_1 split => rw [steps, split]; rfl
  case h_2 split => rw [steps, split]; rfl
  case h_3 first rest _ split =>
    split at orphan
    case isFalse => cases orphan
    case isTrue idle =>
      split at orphan
      case h_1 empty =>
        rw [steps, split, List.filter_cons_of_neg (by simp [idle]), ← filter_trimIdle, empty]
        rfl
      case h_2 =>
        split at orphan
        case h_1 => cases orphan
        case h_2 => cases orphan

/-- The parent of a path that ends in a name goes through all names before it. -/
theorem parent?_of_names {path name : String} {front : List String}
    (split : names path = front ++ [name]) (leads : isIdle name = false) :
    (parent? path).map steps = some (front.filter (!isIdle ·)) := by
  have through : steps path = front.filter (!isIdle ·) ++ [name] := by
    simp [steps, split, leads]
  cases parent : parent? path with
  | none => simp [steps_eq_nil_of_parent? parent] at through
  | some above => rw [Option.map_some, (parent?_eq_some parent).1, through, List.dropLast_concat]

/-- What `ancestors` names stands above the path. -/
theorem above_of_mem_ancestors {front path : String} (member : front ∈ ancestors path) :
    Above front path := by
  rw [ancestors] at member
  generalize path.length = bound at member
  induction bound generalizing path with
  | zero => simp [ancestors.climb] at member
  | succ bound ih =>
    rw [ancestors.climb] at member
    split at member
    case h_1 => simp at member
    case h_2 above parent =>
      split at member
      case isTrue => simp at member
      case isFalse =>
        rcases List.mem_cons.mp member with rfl | higher
        · exact Above.refl _
        · exact (ih higher).trans (parent?_above parent)

end Path

namespace FileTree

/-! ## Places -/

/-- The place that names lead to from a place if every directory on the way exists. -/
def lead : List String → List String → List String
  | here, [] => here
  | here, name :: rest =>
    if Path.isIdle name then lead here rest
    else if name == ".." then lead here.dropLast rest
    else lead (here ++ [name]) rest

@[simp] theorem lead_nil (here : List String) : lead here [] = here :=
  rfl

theorem lead_filter (here names : List String) :
    lead here (names.filter (!Path.isIdle ·)) = lead here names := by
  induction names generalizing here with
  | nil => rfl
  | cons name rest ih =>
    by_cases idle : Path.isIdle name
    · simp [lead, idle, ih]
    · simp [lead, idle, ih]

theorem lead_append (here front rest : List String) :
    lead here (front ++ rest) = lead (lead here front) rest := by
  induction front generalizing here with
  | nil => rfl
  | cons name front ih =>
    rw [List.cons_append, lead, lead]
    split
    · exact ih here
    · split
      · exact ih here.dropLast
      · exact ih (here ++ [name])

/-- Names that neither stay nor climb lead to the place below. -/
theorem lead_eq_append {names : List String} (here : List String)
    (down : ∀ name ∈ names, Path.isIdle name = false ∧ name ≠ "..") :
    lead here names = here ++ names := by
  induction names generalizing here with
  | nil => simp
  | cons name rest ih =>
    obtain ⟨leads, stays⟩ := down name List.mem_cons_self
    have later := ih (here ++ [name]) fun other member => down other (List.mem_cons_of_mem _ member)
    simp [lead, leads, stays, later]

theorem walk_eq_lead {tree : FileTree} {here names place : List String}
    (found : tree.walk here names = .ok place) : place = lead here names := by
  induction names generalizing here with
  | nil =>
    rw [walk, Except.ok.injEq] at found
    exact found.symm
  | cons name rest ih =>
    rw [walk] at found
    split at found
    case h_1 | h_2 => cases found
    case h_3 =>
      rw [lead]
      split at found
      case isTrue idle => rw [if_pos idle, ih found]
      case isFalse leads =>
        rw [if_neg leads]
        split at found
        case isTrue climbs => rw [if_pos climbs, ih found]
        case isFalse stays =>
          rw [if_neg stays]
          split at found
          case isTrue => cases found
          case isFalse => exact ih found

theorem walk_append {tree : FileTree} (here front rest : List String) :
    tree.walk here (front ++ rest) =
      tree.walk here front >>= fun above => tree.walk above rest := by
  induction front generalizing here with
  | nil => rfl
  | cons name front ih =>
    rw [List.cons_append, walk, walk]
    split
    case h_1 | h_2 => rfl
    case h_3 =>
      split
      case isTrue => exact ih here
      case isFalse =>
        split
        case isTrue => exact ih here.dropLast
        case isFalse =>
          split
          case isTrue => rfl
          case isFalse => exact ih (here ++ [name])

/-- Names that stay or climb are short. -/
theorem utf8ByteSize_le_of_special {name : String} (special : Path.isIdle name ∨ name = "..") :
    name.utf8ByteSize ≤ nameLimit := by
  have idle : Path.isIdle name → name = "" ∨ name = "." := by simp [Path.isIdle]
  rcases special with isIdle | rfl
  · rcases idle isIdle with rfl | rfl
    · decide
    · decide
  · decide

/-- A name can be followed from a directory if it is not too long. -/
theorem walk_singleton_iff {tree : FileTree} {here place : List String} {name : String} :
    tree.walk here [name] = .ok place ↔
      place = lead here [name] ∧ name.utf8ByteSize ≤ nameLimit ∧
        tree.node? here = some .directory := by
  constructor
  · intro found
    refine ⟨walk_eq_lead found, ?_⟩
    rw [walk] at found
    split at found
    case h_1 | h_2 => cases found
    case h_3 standing =>
      refine ⟨?_, standing⟩
      split at found
      case isTrue idle => exact utf8ByteSize_le_of_special (.inl idle)
      case isFalse =>
        split at found
        case isTrue climbs => exact utf8ByteSize_le_of_special (.inr (beq_iff_eq.mp climbs))
        case isFalse =>
          split at found
          case isTrue => cases found
          case isFalse short => exact Nat.le_of_not_lt short
  · rintro ⟨rfl, short, standing⟩
    simp only [walk, lead, standing, Nat.not_lt.mpr short, if_false]
    split
    · rfl
    · split
      · rfl
      · rfl

/-- Names can be followed if and only if they are not too long and everything before the last one
leads to a directory. -/
theorem walk_eq_ok_iff {tree : FileTree} {here names place : List String} :
    tree.walk here names = .ok place ↔
      place = lead here names ∧ (∀ name ∈ names, name.utf8ByteSize ≤ nameLimit) ∧
        ∀ front, front <+: names → front ≠ names →
          tree.node? (lead here front) = some .directory := by
  induction names generalizing here with
  | nil =>
    constructor
    · intro found
      refine ⟨walk_eq_lead found, by simp, fun front initial proper => ?_⟩
      exact absurd (List.prefix_nil.mp initial) proper
    · rintro ⟨rfl, -⟩
      rfl
  | cons name rest ih =>
    have split : tree.walk here (name :: rest) = .ok place ↔
        ∃ above, tree.walk here [name] = .ok above ∧ tree.walk above rest = .ok place := by
      rw [← Outcome.bind_eq_ok_iff, ← walk_append, List.singleton_append]
    have leads (front : List String) : lead here (name :: front) = lead (lead here [name]) front :=
      lead_append here [name] front
    simp only [split, walk_singleton_iff, ih]
    constructor
    · rintro ⟨_, ⟨rfl, short, standing⟩, rfl, shorts, inside⟩
      refine ⟨(leads rest).symm, by simpa using ⟨short, shorts⟩, fun front initial proper => ?_⟩
      cases front with
      | nil => exact standing
      | cons first front =>
        obtain ⟨rfl, further⟩ := List.cons_prefix_cons.mp initial
        rw [leads]
        exact inside front further fun same => proper (congrArg _ same)
    · rintro ⟨rfl, shorts, inside⟩
      obtain ⟨short, shorts⟩ := List.forall_mem_cons.mp shorts
      have standing : tree.node? here = some .directory :=
        inside [] List.nil_prefix (List.cons_ne_nil _ _).symm
      refine ⟨_, ⟨rfl, short, standing⟩, leads rest, shorts, fun front initial proper => ?_⟩
      rw [← leads]
      exact inside (name :: front) (List.cons_prefix_cons.mpr ⟨rfl, initial⟩)
        fun same => proper (List.cons.inj same).2

/-- Where no file stands in the way, a walk ends or comes to a place where nothing stands. -/
theorem walk_of_clear {tree : FileTree} {here names : List String}
    (short : ∀ name ∈ names, name.utf8ByteSize ≤ nameLimit)
    (clear : ∀ front, front <+: names → ∀ file, tree.node? (lead here front) ≠ some (.file file)) :
    (∃ place, tree.walk here names = .ok place) ∨ tree.walk here names = .error .notFound := by
  induction names generalizing here with
  | nil => exact .inl ⟨here, rfl⟩
  | cons name rest ih =>
    cases standing : tree.node? here with
    | none => exact .inr (by rw [walk, standing])
    | some node =>
      cases node with
      | file file => exact absurd standing (clear [] List.nil_prefix file)
      | directory =>
        have found := walk_singleton_iff.mpr ⟨rfl, short name List.mem_cons_self, standing⟩
        rw [← List.singleton_append, walk_append, found]
        refine ih (fun other member => short other (List.mem_cons_of_mem _ member)) ?_
        intro front initial
        rw [← lead_append]
        exact clear (name :: front) (List.cons_prefix_cons.mpr ⟨rfl, initial⟩)

/-- A walk that ends at a directory starts at one. -/
theorem node?_of_walk {tree : FileTree} {here names place : List String}
    (found : tree.walk here names = .ok place) (isDirectory : tree.node? place = some .directory) :
    tree.node? here = some .directory := by
  cases names with
  | nil =>
    obtain rfl := Except.ok.inj found
    exact isDirectory
  | cons name rest =>
    rw [walk] at found
    split at found
    case h_1 | h_2 => cases found
    case h_3 standing => exact standing

/-- On the way to a directory, names that lead nowhere can be left out. -/
theorem walk_filter_iff {tree : FileTree} {here names place : List String}
    (isDirectory : tree.node? place = some .directory) :
    tree.walk here (names.filter (!Path.isIdle ·)) = .ok place ↔
      tree.walk here names = .ok place := by
  induction names generalizing here with
  | nil => rfl
  | cons name rest ih =>
    by_cases idle : Path.isIdle name
    · rw [List.filter_cons_of_neg (by simp [idle]), walk]
      constructor
      · intro found
        simpa [node?_of_walk found isDirectory, idle] using ih.mp found
      · intro found
        split at found
        case h_1 | h_2 => cases found
        case h_3 => exact ih.mpr ((if_pos idle).symm.trans found)
    · rw [List.filter_cons_of_pos (by simp [idle]), walk, walk]
      split
      case h_1 | h_2 => rfl
      case h_3 =>
        rw [if_neg idle, if_neg idle]
        split
        case isTrue => exact ih
        case isFalse =>
          split
          case isTrue => rfl
          case isFalse => exact ih

/-- Names that can be followed lead to the same place in a tree that has the same directories and
possibly more. -/
theorem walk_of_directories_kept {tree other : FileTree} {here place names : List String}
    (kept : ∀ place, tree.node? place = some .directory → other.node? place = some .directory)
    (found : tree.walk here names = .ok place) : other.walk here names = .ok place := by
  obtain ⟨isEnd, short, standing⟩ := walk_eq_ok_iff.mp found
  exact walk_eq_ok_iff.mpr ⟨isEnd, short, fun front initial proper =>
    kept _ (standing front initial proper)⟩

/-- The place that a path leads to if it can be followed. -/
def placeOf (here : List String) (path : String) : List String :=
  lead (start here path) (Path.steps path)

theorem eq_names_of_pathNames {path : String} {names : List String}
    (readable : pathNames path = .ok names) : names = Path.names path := by
  unfold pathNames at readable
  split at readable
  · cases readable
  · split at readable
    · cases readable
    · split at readable
      · cases readable
      · exact (Except.ok.inj readable).symm

theorem follow_eq_placeOf {tree : FileTree} {here place : List String} {path : String}
    (found : tree.follow here path = .ok place) : place = placeOf here path := by
  obtain ⟨names, readable, walked⟩ := Outcome.bind_eq_ok_iff.mp found
  rw [walk_eq_lead walked, placeOf, Path.steps, lead_filter, eq_names_of_pathNames readable]

theorem follow_of_directories_kept {tree other : FileTree} {here place : List String}
    {path : String}
    (kept : ∀ place, tree.node? place = some .directory → other.node? place = some .directory)
    (found : tree.follow here path = .ok place) : other.follow here path = .ok place := by
  obtain ⟨names, readable, walked⟩ := Outcome.bind_eq_ok_iff.mp found
  exact Outcome.bind_eq_ok_iff.mpr ⟨names, readable, walk_of_directories_kept kept walked⟩

theorem filter_dropTrailing (names : List String) :
    (dropTrailing names).1.filter (!Path.isIdle ·) = names.filter (!Path.isIdle ·) := by
  rw [dropTrailing, ← names.reverse_reverse, List.filter_reverse, List.filter_reverse,
    names.reverse_reverse]
  congr 1
  induction names.reverse with
  | nil => rfl
  | cons name rest ih =>
    by_cases empty : name = ""
    · have idle : Path.isIdle name = true := by simp [empty, Path.isIdle]
      rw [List.filter_cons_of_neg (by simp [idle]), ← ih, List.dropWhile_cons]
      simp [empty]
    · simp [empty]

/-- A path that ends in a name has no slashes at its end. -/
theorem dropTrailing_of_getLast? {names : List String} {name : String}
    (last : names.getLast? = some name) (nonempty : name ≠ "") :
    dropTrailing names = (names, false) := by
  obtain ⟨front, rfl⟩ := List.getLast?_eq_some_iff.mp last
  simp [dropTrailing, nonempty]

theorem followNew_eq_placeOf {tree : FileTree} {here place : List String} {path : String}
    {trailing : Bool} (found : tree.followNew here path = .ok (place, trailing)) :
    place = placeOf here path := by
  obtain ⟨names, readable, found⟩ := Outcome.bind_eq_ok_iff.mp found
  obtain ⟨place, walked, same⟩ := Outcome.map_eq_ok_iff.mp found
  obtain ⟨rfl, -⟩ := Prod.mk.inj same
  calc
    place = lead (start here path) (dropTrailing names).1 := walk_eq_lead walked
    _ = lead (start here path) (names.filter (!Path.isIdle ·)) := by
      rw [← lead_filter, filter_dropTrailing]
    _ = placeOf here path := by
      rw [placeOf, Path.steps, eq_names_of_pathNames readable]

/-- Something new never stands where its path starts. -/
theorem placeOf_ne_start {tree : FileTree} {here place : List String} {path : String}
    {trailing : Bool} (found : tree.followNew here path = .ok (place, trailing))
    (free : tree.node? place = none) : place ≠ start here path := by
  obtain ⟨names, readable, found⟩ := Outcome.bind_eq_ok_iff.mp found
  obtain ⟨place, walked, same⟩ := Outcome.map_eq_ok_iff.mp found
  obtain ⟨rfl, -⟩ := Prod.mk.inj same
  obtain rfl := eq_names_of_pathNames readable
  rintro rfl
  cases isAbsolute : Path.isAbsolute path with
  | true =>
    rw [start, if_pos isAbsolute] at free
    cases free
  | false =>
    -- A path whose names are all empty is absolute, or it is empty and leads nowhere.
    have named : (dropTrailing (Path.names path)).1 ≠ [] := by
      intro none
      have allEmpty : ∀ name ∈ Path.names path, name = "" := by
        simpa [dropTrailing] using none
      cases split : Path.names path with
      | nil => simp [Path.names, Path.stretches_eq_splitOn] at split
      | cons first rest =>
        rw [split] at allEmpty
        have firstEmpty := allEmpty first List.mem_cons_self
        have absolute := Path.isAbsolute_eq split
        rw [isAbsolute, firstEmpty] at absolute
        have alone : rest = [] := by simpa using absolute
        have whole := Path.intercalate_names path
        rw [split, alone, firstEmpty] at whole
        rw [← whole] at readable
        cases readable
    have standing := (walk_eq_ok_iff.mp walked).2.2 [] List.nil_prefix named.symm
    rw [lead_nil, free] at standing
    cases standing

/-- A file that can be read exists. -/
theorem pathExists_of_read {tree : FileTree} {here : List String} {path : String}
    {content : ByteArray} (read : tree.read here path = .ok content) :
    tree.pathExists here path = true := by
  obtain ⟨place, followed, there⟩ := Outcome.bind_eq_ok_iff.mp read
  rw [pathExists, followed]
  dsimp only
  cases standing : tree.node? place with
  | none =>
    rw [standing] at there
    cases there
  | some node => rfl

/-- Whether a path leads through a place, at its start, on its way or at its end. -/
def LeadsThrough (here : List String) (path : String) (place : List String) : Prop :=
  ∃ front, front <+: Path.steps path ∧ lead (start here path) front = place

theorem leadsThrough_placeOf (here : List String) (path : String) :
    LeadsThrough here path (placeOf here path) :=
  ⟨Path.steps path, List.prefix_rfl, rfl⟩

/-- A path leads through the places of the paths above it. -/
theorem leadsThrough_of_above {front path : String} (here : List String)
    (above : Path.Above front path) : LeadsThrough here path (placeOf here front) := by
  refine ⟨Path.steps front, above.2, ?_⟩
  rw [placeOf, start, start, above.1]

end FileTree

end ScreenedSuite
