import Mathlib.Data.List.Nodup
import ScreenedSuite.Proofs.Outcome
import ScreenedSuite.Toml.Document

/-! # Keys of tables

No table of a document holds a key twice, whichever of headers, dotted keys and braces it was
defined by (`ScreenedSuite.Toml.distinct_of_ofText?`). Every step of the assembly keeps this, and
so does every reader of a value.
-/

namespace ScreenedSuite.Toml

/-- Whether no table in a value holds a key twice. -/
inductive Distinct : Toml → Prop
  | string (value : String) : Distinct (.string value)
  | integer (value : Int) : Distinct (.integer value)
  | float (value : Double) : Distinct (.float value)
  | boolean (value : Bool) : Distinct (.boolean value)
  | dateTime : Distinct .dateTime
  | array {items : List Toml} : (∀ item ∈ items, Distinct item) → Distinct (.array items)
  | table {entries : List (String × Toml)} : (entries.map (·.1)).Nodup →
    (∀ entry ∈ entries, Distinct entry.2) → Distinct (.table entries)

theorem Distinct.keys {entries : List (String × Toml)} (distinct : (Toml.table entries).Distinct) :
    (entries.map (·.1)).Nodup := by
  cases distinct with
  | table keys _ => exact keys

theorem Distinct.values {entries : List (String × Toml)}
    (distinct : (Toml.table entries).Distinct) :
    ∀ entry ∈ entries, entry.2.Distinct := by
  cases distinct with
  | table _ values => exact values

/-- Whether no table in an unfinished part of a document holds a key twice. -/
inductive Node.Distinct : Node → Prop
  | value {finished : Toml} : finished.Distinct → Distinct (.value finished)
  | table {origin : Origin} {entries : Entries} : (entries.map (·.1)).Nodup →
    (∀ entry ∈ entries, Distinct entry.2) → Distinct (.table origin entries)
  | tables {last : Entries} {earlier : List Entries} :
    (∀ entries ∈ last :: earlier, (entries.map (·.1)).Nodup) →
    (∀ entries ∈ last :: earlier, ∀ entry ∈ entries, Distinct entry.2) →
      Distinct (.tables last earlier)

/-- Whether an unfinished table holds no key twice, and no table in it does. -/
structure EntriesDistinct (entries : Entries) : Prop where
  keys : (entries.map (·.1)).Nodup
  nodes : ∀ entry ∈ entries, entry.2.Distinct

/-- Whether no table among the values that are assigned holds a key twice. -/
def ValuesDistinct (assignments : List Assignment) : Prop :=
  ∀ assignment ∈ assignments, assignment.value.Distinct

namespace ValuesDistinct

variable {assignments : List Assignment}

theorem nil : ValuesDistinct [] :=
  List.forall_mem_nil _

theorem cons_iff {assignment : Assignment} :
    ValuesDistinct (assignment :: assignments) ↔
      assignment.value.Distinct ∧ ValuesDistinct assignments :=
  List.forall_mem_cons

theorem reverse (values : ValuesDistinct assignments) : ValuesDistinct assignments.reverse :=
  fun assignment member => values assignment (List.mem_reverse.mp member)

end ValuesDistinct

namespace EntriesDistinct

variable {entries after : Entries} {name : String} {node : Node}

theorem nil : EntriesDistinct [] :=
  ⟨List.nodup_nil, nofun⟩

theorem of_table {origin : Origin} (distinct : (Node.table origin entries).Distinct) :
    EntriesDistinct entries := by
  cases distinct with
  | table keys nodes => exact ⟨keys, nodes⟩

theorem toTable (distinct : EntriesDistinct entries) (origin : Origin) :
    (Node.table origin entries).Distinct :=
  .table distinct.keys distinct.nodes

theorem tables_iff {last : Entries} {earlier : List Entries} :
    (Node.tables last earlier).Distinct ↔
      ∀ entries ∈ last :: earlier, EntriesDistinct entries := by
  constructor
  · intro distinct entries member
    cases distinct with
    | tables keys nodes => exact ⟨keys entries member, nodes entries member⟩
  · exact fun each => .tables (fun entries member => (each entries member).keys)
      fun entries member => (each entries member).nodes

theorem find? (distinct : EntriesDistinct entries) (found : find? name entries = some node) :
    node.Distinct := by
  obtain ⟨entry, located, rfl⟩ := Option.map_eq_some_iff.mp found
  exact distinct.nodes entry (List.mem_of_find?_eq_some located)

/-- A key that is nowhere in a table can be added. -/
theorem concat (distinct : EntriesDistinct entries) (absent : ∀ entry ∈ entries, entry.1 ≠ name)
    (nodeDistinct : node.Distinct) : EntriesDistinct (entries ++ [(name, node)]) where
  keys := by
    rw [List.map_append, List.nodup_append]
    refine ⟨distinct.keys, List.nodup_singleton _, ?_⟩
    intro key held other isName same
    obtain ⟨entry, member, rfl⟩ := List.mem_map.mp held
    obtain rfl := List.mem_singleton.mp isName
    exact absent entry member same
  nodes entry member := by
    rcases List.mem_append.mp member with old | new
    · exact distinct.nodes entry old
    · obtain rfl := List.mem_singleton.mp new
      exact nodeDistinct

theorem concat_of_find? (distinct : EntriesDistinct entries)
    (absent : Toml.find? name entries = none) (nodeDistinct : node.Distinct) :
    EntriesDistinct (entries ++ [(name, node)]) := by
  refine distinct.concat (fun entry member same => ?_) nodeDistinct
  have missing := List.find?_eq_none.mp (Option.map_eq_none_iff.mp absent) entry member
  simp [same] at missing

theorem replace (distinct : EntriesDistinct entries) (nodeDistinct : node.Distinct) :
    EntriesDistinct (replace name node entries) where
  keys := by
    have same : (Toml.replace name node entries).map (·.1) = entries.map (·.1) := by
      rw [Toml.replace, List.map_map]
      refine List.map_congr_left fun entry _ => ?_
      by_cases isName : entry.1 = name <;> simp [isName]
    rw [same]
    exact distinct.keys
  nodes entry member := by
    obtain ⟨old, oldMember, rfl⟩ := List.mem_map.mp member
    by_cases isName : old.1 = name
    · simpa [isName] using nodeDistinct
    · simpa [isName] using distinct.nodes old oldMember

/-- The open table of an array can be changed. -/
theorem replaceLast {last next : Entries} {earlier : List Entries}
    (distinct : EntriesDistinct entries)
    (found : Toml.find? name entries = some (.tables last earlier))
    (changed : EntriesDistinct last → EntriesDistinct next) :
    EntriesDistinct (Toml.replace name (.tables next earlier) entries) := by
  obtain ⟨lastDistinct, others⟩ := List.forall_mem_cons.mp (tables_iff.mp (distinct.find? found))
  exact distinct.replace
    (tables_iff.mpr (List.forall_mem_cons.mpr ⟨changed lastDistinct, others⟩))

/-- A key can be moved to the end of its table. -/
theorem moved (distinct : EntriesDistinct entries) (nodeDistinct : node.Distinct) :
    EntriesDistinct (entries.filter (·.1 != name) ++ [(name, node)]) := by
  have kept : EntriesDistinct (entries.filter (·.1 != name)) := {
    keys := distinct.keys.sublist (List.filter_sublist.map _)
    nodes := fun entry member => distinct.nodes entry (List.mem_of_mem_filter member) }
  refine kept.concat (fun entry member => ?_) nodeDistinct
  simpa using (List.mem_filter.mp member).2

/-! ## Steps of the assembly -/

theorem assign {value : Toml} (valueDistinct : value.Distinct) {path : List String}
    (distinct : EntriesDistinct entries) (assigned : assign name value path entries = .ok after) :
    EntriesDistinct after := by
  induction path generalizing entries after with
  | nil =>
    rw [Toml.assign] at assigned
    split at assigned
    case h_1 absent =>
      obtain rfl := Except.ok.inj assigned
      exact distinct.concat_of_find? absent (.value valueDistinct)
    case h_2 => cases assigned
  | cons part path ih =>
    rw [Toml.assign] at assigned
    split at assigned
    case h_1 absent =>
      obtain ⟨inner, made, rfl⟩ := Outcome.map_eq_ok_iff.mp assigned
      exact distinct.concat_of_find? absent ((ih nil made).toTable _)
    case h_2 origin inner found =>
      split at assigned
      case isTrue => cases assigned
      case isFalse =>
        obtain ⟨inner, made, rfl⟩ := Outcome.map_eq_ok_iff.mp assigned
        exact distinct.replace ((ih (of_table (distinct.find? found)) made).toTable _)
    case h_3 last earlier found =>
      split at assigned
      case isTrue => cases assigned
      case isFalse =>
        obtain ⟨next, made, rfl⟩ := Outcome.map_eq_ok_iff.mp assigned
        exact distinct.replaceLast found fun last => ih last made
    case h_4 => cases assigned

theorem assignAll {assignments : List Assignment} (values : ValuesDistinct assignments)
    (distinct : EntriesDistinct entries) (assigned : assignAll assignments entries = .ok after) :
    EntriesDistinct after := by
  induction assignments generalizing entries with
  | nil =>
    obtain rfl := Except.ok.inj assigned
    exact distinct
  | cons assignment rest ih =>
    obtain ⟨valueDistinct, others⟩ := ValuesDistinct.cons_iff.mp values
    obtain ⟨middle, first, later⟩ := Outcome.bind_eq_ok_iff.mp assigned
    exact ih others (distinct.assign valueDistinct first) later

theorem within {change : Entries → Assembled}
    (changed : ∀ entries after, EntriesDistinct entries → change entries = .ok after →
      EntriesDistinct after)
    {path : List String} (distinct : EntriesDistinct entries)
    (assembled : within change path entries = .ok after) : EntriesDistinct after := by
  induction path generalizing entries after with
  | nil => exact changed entries after distinct assembled
  | cons part path ih =>
    rw [Toml.within] at assembled
    split at assembled
    case h_1 absent =>
      obtain ⟨inner, made, rfl⟩ := Outcome.map_eq_ok_iff.mp assembled
      exact distinct.concat_of_find? absent ((ih nil made).toTable _)
    case h_2 origin inner found =>
      obtain ⟨inner, made, rfl⟩ := Outcome.map_eq_ok_iff.mp assembled
      exact distinct.replace ((ih (of_table (distinct.find? found)) made).toTable _)
    case h_3 last earlier found =>
      obtain ⟨next, made, rfl⟩ := Outcome.map_eq_ok_iff.mp assembled
      exact distinct.replaceLast found fun last => ih last made
    case h_4 => cases assembled

theorem define {assignments : List Assignment} (values : ValuesDistinct assignments)
    (distinct : EntriesDistinct entries) (defined : define name assignments entries = .ok after) :
    EntriesDistinct after := by
  rw [Toml.define] at defined
  split at defined
  case h_1 absent =>
    obtain ⟨inner, made, rfl⟩ := Outcome.map_eq_ok_iff.mp defined
    exact distinct.concat_of_find? absent ((nil.assignAll values made).toTable _)
  case h_2 inner found =>
    obtain ⟨next, made, rfl⟩ := Outcome.map_eq_ok_iff.mp defined
    exact distinct.moved (((of_table (distinct.find? found)).assignAll values made).toTable _)
  case h_3 => cases defined

theorem append {assignments : List Assignment} (values : ValuesDistinct assignments)
    (distinct : EntriesDistinct entries)
    (appended : Toml.append name assignments entries = .ok after) : EntriesDistinct after := by
  rw [Toml.append] at appended
  split at appended
  case h_1 absent =>
    obtain ⟨last, made, rfl⟩ := Outcome.map_eq_ok_iff.mp appended
    refine distinct.concat_of_find? absent (tables_iff.mpr ?_)
    exact List.forall_mem_cons.mpr ⟨nil.assignAll values made, nofun⟩
  case h_2 last earlier found =>
    obtain ⟨next, made, rfl⟩ := Outcome.map_eq_ok_iff.mp appended
    have each := tables_iff.mp (distinct.find? found)
    refine distinct.replace (tables_iff.mpr ?_)
    exact List.forall_mem_cons.mpr ⟨nil.assignAll values made, each⟩
  case h_3 => cases appended

end EntriesDistinct

/-! ## Finished tables -/

theorem Node.entriesToToml_eq_map (entries : Entries) :
    Node.entriesToToml entries = entries.map fun entry => (entry.1, entry.2.toToml) := by
  induction entries with
  | nil => rw [Node.entriesToToml, List.map_nil]
  | cons entry rest ih => rw [Node.entriesToToml, List.map_cons, ih]

theorem Node.mem_tablesToToml {item : Toml} {behind : List Toml} {earlier : List Entries}
    (member : item ∈ Node.tablesToToml behind earlier) :
    item ∈ behind ∨ ∃ entries ∈ earlier, item = .table (Node.entriesToToml entries) := by
  induction earlier generalizing behind with
  | nil =>
    rw [Node.tablesToToml] at member
    exact .inl member
  | cons entries rest ih =>
    rw [Node.tablesToToml] at member
    rcases ih member with among | ⟨other, otherMember, isOther⟩
    · rcases List.mem_cons.mp among with isTable | old
      · exact .inr ⟨entries, List.mem_cons_self, isTable⟩
      · exact .inl old
    · exact .inr ⟨other, List.mem_cons_of_mem _ otherMember, isOther⟩

/-- What is finished for each key makes a finished table. -/
theorem distinct_entriesToToml {entries : Entries} (keys : (entries.map (·.1)).Nodup)
    (finished : ∀ entry ∈ entries, entry.2.toToml.Distinct) :
    (Toml.table (Node.entriesToToml entries)).Distinct := by
  rw [Node.entriesToToml_eq_map]
  refine .table ?_ fun entry member => ?_
  · rw [List.map_map]
    exact keys
  · obtain ⟨node, nodeMember, rfl⟩ := List.mem_map.mp member
    exact finished node nodeMember

theorem Node.Distinct.toToml {node : Node} (distinct : node.Distinct) : node.toToml.Distinct := by
  induction distinct with
  | value finished =>
    rw [Node.toToml]
    exact finished
  | table keys _ finished =>
    rw [Node.toToml]
    exact distinct_entriesToToml keys finished
  | tables keys _ finished =>
    rw [Node.toToml]
    have each := fun entries member => distinct_entriesToToml (keys entries member)
      (finished entries member)
    refine .array fun item member => ?_
    rcases Node.mem_tablesToToml member with isLast | ⟨entries, isEarlier, rfl⟩
    · obtain rfl := List.mem_singleton.mp isLast
      exact each _ List.mem_cons_self
    · exact each entries (List.mem_cons_of_mem _ isEarlier)

theorem EntriesDistinct.toToml {entries : Entries} (distinct : EntriesDistinct entries) :
    (Toml.table (Node.entriesToToml entries)).Distinct :=
  distinct_entriesToToml distinct.keys fun entry member => (distinct.nodes entry member).toToml

/-! ## Readers -/

theorem distinct_of_boundedInteger {value : Int} {text rest : List Char} {found : Toml}
    (read : boundedInteger value text = .ok (found, rest)) : found.Distinct := by
  rw [boundedInteger] at read
  split at read
  case isTrue =>
    obtain ⟨rfl, -⟩ := Prod.mk.inj (Except.ok.inj read)
    exact .integer value
  case isFalse => cases read

theorem distinct_of_boundedFloat {negative : Bool} {whole fraction : List Nat} {exponent : Int}
    {text rest : List Char} {found : Toml}
    (read : boundedFloat negative whole fraction exponent text = .ok (found, rest)) :
    found.Distinct := by
  rw [boundedFloat] at read
  split at read
  case h_1 => cases read
  case h_2 =>
    obtain ⟨rfl, -⟩ := Prod.mk.inj (Except.ok.inj read)
    exact .float _

theorem distinct_of_readDecimal {negative : Bool} {text rest : List Char} {found : Toml}
    (read : readDecimal negative text = .ok (found, rest)) : found.Distinct := by
  obtain ⟨⟨whole, behind⟩, -, read⟩ := Outcome.bind_eq_ok_iff.mp read
  dsimp only at read
  split at read
  case h_1 =>
    obtain ⟨⟨fraction, behind⟩, -, read⟩ := Outcome.bind_eq_ok_iff.mp read
    dsimp only at read
    split at read
    case h_1 | h_2 =>
      obtain ⟨exponent, -, read⟩ := Outcome.bind_eq_ok_iff.mp read
      exact distinct_of_boundedFloat read
    case h_3 => exact distinct_of_boundedFloat read
  case h_2 | h_3 =>
    obtain ⟨exponent, -, read⟩ := Outcome.bind_eq_ok_iff.mp read
    exact distinct_of_boundedFloat read
  case h_4 => exact distinct_of_boundedInteger read

theorem distinct_of_readInBase {base : Nat} {text rest : List Char} {found : Toml}
    (read : readInBase base text = .ok (found, rest)) : found.Distinct := by
  rw [readInBase] at read
  split at read
  case h_1 => cases read
  case h_2 => exact distinct_of_boundedInteger read

theorem distinct_of_readNumber {text rest : List Char} {found : Toml}
    (read : readNumber text = .ok (found, rest)) : found.Distinct := by
  unfold readNumber at read
  split at read
  case h_1 | h_2 | h_3 => exact distinct_of_readInBase read
  case h_4 =>
    dsimp only at read
    split at read
    case h_1 | h_2 =>
      obtain ⟨rfl, -⟩ := Prod.mk.inj (Except.ok.inj read)
      exact .float _
    case h_3 => exact distinct_of_readDecimal read

theorem distinct_of_readNumeric {text rest : List Char} {found : Toml}
    (read : readNumeric text = .ok (found, rest)) : found.Distinct := by
  rw [readNumeric] at read
  split at read
  case h_1 =>
    obtain ⟨rfl, -⟩ := Prod.mk.inj (Except.ok.inj read)
    exact .dateTime
  case h_2 => cases read
  case h_3 => exact distinct_of_readNumber read

theorem distinct_of_readWord {word text rest : List Char} {value found : Toml}
    (distinct : value.Distinct) (read : readWord word value text = .ok (found, rest)) :
    found.Distinct := by
  rw [readWord] at read
  split at read
  case isTrue =>
    obtain ⟨rfl, -⟩ := Prod.mk.inj (Except.ok.inj read)
    exact distinct
  case isFalse => cases read

/-- Whether a reader with a bound on its steps reads only values in which no table holds a key
twice. -/
structure ReadsDistinct (fuel : Nat) : Prop where
  value : ∀ {depth text found rest}, readValue fuel depth text = .ok (found, rest) → found.Distinct
  items : ∀ {depth done text found rest}, (∀ item ∈ done, Distinct item) →
    readItems fuel depth done text = .ok (found, rest) → found.Distinct
  pairs : ∀ {depth done text found rest}, ValuesDistinct done →
    readPairs fuel depth done text = .ok (found, rest) → found.Distinct
  assignment : ∀ {depth text found rest},
    readAssignment fuel depth text = .ok (found, rest) → found.value.Distinct

namespace ReadsDistinct

variable {fuel depth : Nat} {text rest : List Char} {found : Toml}

theorem readValue (below : ∀ smaller < fuel, ReadsDistinct smaller)
    (read : readValue fuel depth text = .ok (found, rest)) : found.Distinct := by
  unfold Toml.readValue at read
  split at read
  case h_1 | h_2 => cases read
  case h_3 =>
    have smaller := below _ (Nat.lt_succ_self _)
    split at read
    case isTrue =>
      split at read
      case h_1 => cases read
      case h_2 => exact smaller.items (List.forall_mem_nil _) read
    case isFalse =>
      split at read
      case isTrue =>
        split at read
        case h_1 => cases read
        case h_2 =>
          split at read
          case h_1 =>
            obtain ⟨rfl, -⟩ := Prod.mk.inj (Except.ok.inj read)
            exact .table List.nodup_nil (List.forall_mem_nil _)
          case h_2 => exact smaller.pairs .nil read
      case isFalse =>
        split at read
        case isTrue =>
          obtain ⟨⟨value, behind⟩, -, same⟩ := Outcome.map_eq_ok_iff.mp read
          obtain ⟨rfl, -⟩ := Prod.mk.inj same
          exact .string value
        case isFalse =>
          split at read
          case isTrue => exact distinct_of_readWord (.boolean true) read
          case isFalse =>
            split at read
            case isTrue => exact distinct_of_readWord (.boolean false) read
            case isFalse =>
              split at read
              case isTrue => exact distinct_of_readNumeric read
              case isFalse => cases read

theorem readItems (below : ∀ smaller < fuel, ReadsDistinct smaller) {done : List Toml}
    (items : ∀ item ∈ done, item.Distinct)
    (read : readItems fuel depth done text = .ok (found, rest)) : found.Distinct := by
  have closed : ∀ {done : List Toml}, (∀ item ∈ done, item.Distinct) →
      (Toml.array done.reverse).Distinct := fun each =>
    .array fun item member => each item (List.mem_reverse.mp member)
  unfold Toml.readItems at read
  split at read
  case h_1 =>
    obtain ⟨rfl, -⟩ := Prod.mk.inj (Except.ok.inj read)
    exact closed items
  case h_2 => cases read
  case h_3 =>
    have smaller := below _ (Nat.lt_succ_self _)
    obtain ⟨⟨item, behind⟩, readItem, read⟩ := Outcome.bind_eq_ok_iff.mp read
    have more := List.forall_mem_cons.mpr ⟨smaller.value readItem, items⟩
    dsimp only at read
    split at read
    case h_1 => exact smaller.items more read
    case h_2 =>
      obtain ⟨rfl, -⟩ := Prod.mk.inj (Except.ok.inj read)
      exact closed more
    case h_3 => cases read

theorem readPairs (below : ∀ smaller < fuel, ReadsDistinct smaller) {done : List Assignment}
    (values : ValuesDistinct done)
    (read : readPairs fuel depth done text = .ok (found, rest)) : found.Distinct := by
  unfold Toml.readPairs at read
  split at read
  case h_1 => cases read
  case h_2 =>
    have smaller := below _ (Nat.lt_succ_self _)
    obtain ⟨⟨assignment, behind⟩, readOne, read⟩ := Outcome.bind_eq_ok_iff.mp read
    have more := ValuesDistinct.cons_iff.mpr ⟨smaller.assignment readOne, values⟩
    dsimp only at read
    split at read
    case h_1 => exact smaller.pairs more read
    case h_2 =>
      split at read
      case h_1 entries assigned =>
        obtain ⟨rfl, -⟩ := Prod.mk.inj (Except.ok.inj read)
        exact (EntriesDistinct.nil.assignAll more.reverse assigned).toToml
      case h_2 => cases read
    case h_3 => cases read

theorem readAssignment (below : ∀ smaller < fuel, ReadsDistinct smaller) {assignment : Assignment}
    (read : readAssignment fuel depth text = .ok (assignment, rest)) :
    assignment.value.Distinct := by
  unfold Toml.readAssignment at read
  split at read
  case h_1 => cases read
  case h_2 =>
    have smaller := below _ (Nat.lt_succ_self _)
    obtain ⟨⟨⟨path, name⟩, behind⟩, -, read⟩ := Outcome.bind_eq_ok_iff.mp read
    dsimp only at read
    split at read
    case h_1 =>
      obtain ⟨⟨value, behind⟩, readOne, same⟩ := Outcome.map_eq_ok_iff.mp read
      obtain ⟨rfl, -⟩ := Prod.mk.inj same
      exact smaller.value readOne
    case h_2 => cases read

end ReadsDistinct

theorem readsDistinct (fuel : Nat) : ReadsDistinct fuel := by
  induction fuel using Nat.strongRecOn with
  | ind fuel below =>
    exact {
      value := ReadsDistinct.readValue below
      items := ReadsDistinct.readItems below
      pairs := ReadsDistinct.readPairs below
      assignment := ReadsDistinct.readAssignment below }

/-! ## Documents -/

theorem valuesDistinct_of_readSections {fuel : Nat} {done sections : List Section}
    {header : Header} {current : List Assignment} {text : List Char}
    (finished : ∀ piece ∈ done, ValuesDistinct piece.assignments)
    (values : ValuesDistinct current)
    (read : readSections fuel done header current text = .ok sections) :
    ∀ piece ∈ sections, ValuesDistinct piece.assignments := by
  induction fuel generalizing done header current text with
  | zero => cases read
  | succ fuel ih =>
    have closed : ∀ piece ∈ (⟨header, current.reverse⟩ : Section) :: done,
        ValuesDistinct piece.assignments := List.forall_mem_cons.mpr ⟨values.reverse, finished⟩
    rw [readSections] at read
    split at read
    case h_1 =>
      obtain rfl := Except.ok.inj read
      exact fun piece member => closed piece (List.mem_reverse.mp member)
    case h_2 =>
      obtain ⟨behind, -, read⟩ := Outcome.bind_eq_ok_iff.mp read
      exact ih finished values read
    case h_3 =>
      obtain ⟨⟨next, behind⟩, -, read⟩ := Outcome.bind_eq_ok_iff.mp read
      exact ih closed .nil read
    case h_4 =>
      split at read
      case h_1 => exact ih finished values read
      case h_2 =>
        obtain ⟨⟨assignment, behind⟩, readOne, read⟩ := Outcome.bind_eq_ok_iff.mp read
        obtain ⟨behind, -, read⟩ := Outcome.bind_eq_ok_iff.mp read
        have valueDistinct := (readsDistinct _).assignment readOne
        exact ih finished (ValuesDistinct.cons_iff.mpr ⟨valueDistinct, values⟩) read

theorem EntriesDistinct.addTo {piece : Section} (values : ValuesDistinct piece.assignments)
    {entries after : Entries} (distinct : EntriesDistinct entries)
    (added : piece.addTo entries = .ok after) : EntriesDistinct after := by
  rw [Section.addTo] at added
  split at added
  case h_1 => exact distinct.assignAll values added
  case h_2 => exact distinct.within (fun _ _ => .define values) added
  case h_3 => exact distinct.within (fun _ _ => .append values) added

theorem EntriesDistinct.assemble {sections : List Section}
    (values : ∀ piece ∈ sections, ValuesDistinct piece.assignments) {entries after : Entries}
    (distinct : EntriesDistinct entries) (assembled : assemble sections entries = .ok after) :
    EntriesDistinct after := by
  induction sections generalizing entries with
  | nil =>
    obtain rfl := Except.ok.inj assembled
    exact distinct
  | cons piece rest ih =>
    obtain ⟨pieceValues, others⟩ := List.forall_mem_cons.mp values
    obtain ⟨middle, first, later⟩ := Outcome.bind_eq_ok_iff.mp assembled
    exact ih others (distinct.addTo pieceValues first) later

/-- **Keys are unique.** No table of a document that can be read holds a key twice. -/
theorem distinct_of_ofText? {text : String} {entries : List (String × Toml)}
    (read : ofText? text = .ok entries) : (Toml.table entries).Distinct := by
  rw [ofText?] at read
  split at read
  case h_1 => cases read
  case h_2 sections readAll =>
    split at read
    case h_1 => cases read
    case h_2 assembled =>
      obtain rfl := Except.ok.inj read
      have values := valuesDistinct_of_readSections (List.forall_mem_nil _) .nil readAll
      exact (EntriesDistinct.nil.assemble values assembled).toToml

end ScreenedSuite.Toml
