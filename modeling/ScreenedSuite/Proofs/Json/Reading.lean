import Mathlib.Data.List.Basic
import Mathlib.Tactic.SplitIfs
import ScreenedSuite.Json.Printer
import ScreenedSuite.Json.Reader

/-! # Reading printed values

The compact text of a value reads back as that value (`ScreenedSuite.Json.ofText?_compact`), if its
numbers are counts and its nesting stays within the limit. The text has no control characters
(`ScreenedSuite.Json.Readable.printed`), so it is a single line.
-/

namespace ScreenedSuite.Json

/-- The numbers below it are kept in full. -/
def countLimit : Nat :=
  Nat.pow 2 64

/-- Values that can be read where `depth` arrays and objects may still be opened. -/
inductive Readable : Nat → Json → Prop
  | null {depth : Nat} : Readable depth null
  | bool {depth : Nat} (value : Bool) : Readable depth (bool value)
  | string {depth : Nat} (text : String) : Readable depth (string text)
  | count {depth n : Nat} (small : n < countLimit) : Readable depth (count n)
  | array {depth : Nat} {items : List Json} (each : ∀ item ∈ items, Readable depth item) :
      Readable (depth + 1) (array items)
  | object {depth : Nat} {members : List (String × Json)}
      (each : ∀ member ∈ members, Readable depth member.2) : Readable (depth + 1) (object members)

variable {fuel depth : Nat} {rest : List Char}

/-! ## Strings -/

theorem hexValue?_hexDigit {n : Nat} (small : n < 16) :
    Text.hexValue? (Text.hexDigit n) = some n := by
  revert n
  decide

/-- The escape of a control character is read as the character. -/
theorem readEscape_control {c : Char} (control : c.toNat < 0x20) (rest : List Char) :
    readEscape ('u' :: '0' :: '0' :: Text.hexDigit (c.toNat / 16) :: Text.hexDigit (c.toNat % 16) ::
      rest) = .ok (c, rest) := by
  have zero : Text.hexValue? '0' = some 0 := by decide
  have high := hexValue?_hexDigit (n := c.toNat / 16) (by omega)
  have low := hexValue?_hexDigit (n := c.toNat % 16) (by omega)
  have digits : readHex ('0' :: '0' :: Text.hexDigit (c.toNat / 16) ::
      Text.hexDigit (c.toNat % 16) :: rest) = .ok (c.toNat, rest) := by
    simp only [readHex, zero, high, low]
    congr 2
    omega
  have low : ¬ (0xDC00 ≤ c.toNat ∧ c.toNat ≤ 0xDFFF) := by omega
  have small : c.toNat < 0xD800 := by omega
  simp only [readEscape, readUnicodeEscape, digits]
  simp [bind, Except.bind, pure, Except.pure, small, low, Char.ofNat_toNat]

/-- What a character is printed as is read as the character. -/
theorem readString_escapeChar (c : Char) (done : List Char) (rest : List Char) :
    readString (fuel + 1) done (escapeChar c ++ rest) = readString fuel (c :: done) rest := by
  unfold escapeChar
  split_ifs with quote backslash backspace formFeed lineFeed carriageReturn tab control
  · simp [readString, readEscape, beq_iff_eq.mp quote]
  · simp [readString, readEscape, beq_iff_eq.mp backslash]
  · simp [readString, readEscape, beq_iff_eq.mp backspace]
  · simp [readString, readEscape, beq_iff_eq.mp formFeed]
  · simp [readString, readEscape, beq_iff_eq.mp lineFeed]
  · simp [readString, readEscape, beq_iff_eq.mp carriageReturn]
  · simp [readString, readEscape, beq_iff_eq.mp tab]
  · simp only [List.cons_append, List.nil_append, readString, readEscape_control control]
    rfl
  · simp only [List.cons_append, List.nil_append, readString, quote, backslash, control,
      Bool.false_eq_true, ↓reduceIte]

theorem readString_escaped (text done rest : List Char) (enough : text.length < fuel) :
    readString fuel done (text.flatMap escapeChar ++ '"' :: rest) =
      .ok (String.ofList (done.reverse ++ text), rest) := by
  induction text generalizing fuel done with
  | nil =>
      cases fuel with
      | zero => exact (Nat.not_lt_zero _ enough).elim
      | succ fuel => simp [readString]
  | cons c more ih =>
      cases fuel with
      | zero => exact (Nat.not_lt_zero _ enough).elim
      | succ fuel =>
          rw [List.flatMap_cons, List.append_assoc, readString_escapeChar,
            ih (c :: done) (by simpa using enough)]
          simp

theorem length_le_length_escaped (text : List Char) :
    text.length ≤ (text.flatMap escapeChar).length := by
  induction text with
  | nil => exact Nat.le_refl _
  | cons c more ih =>
      have some : 0 < (escapeChar c).length := by
        unfold escapeChar
        split_ifs <;> simp
      simp only [List.flatMap_cons, List.length_append, List.length_cons]
      omega

/-- A printed string is read back after its opening quote. -/
theorem readString_quoted (text : String) (rest : List Char) :
    readString ((text.toList.flatMap escapeChar ++ '"' :: rest).length + 1) []
      (text.toList.flatMap escapeChar ++ '"' :: rest) = .ok (text, rest) := by
  have enough : text.toList.length <
      (text.toList.flatMap escapeChar ++ '"' :: rest).length + 1 := by
    have bound := length_le_length_escaped text.toList
    rw [List.length_append]
    omega
  rw [readString_escaped text.toList [] rest enough]
  simp

/-! ## Counts -/

/-- Whether a text cannot continue a number before it. -/
def EndsNumber (rest : List Char) : Prop :=
  ∀ c ∈ rest.head?, c = ',' ∨ c = ']' ∨ c = '\x7D'

theorem endsNumber_cons {c : Char} (ends : c = ',' ∨ c = ']' ∨ c = '\x7D') (rest : List Char) :
    EndsNumber (c :: rest) := by
  intro d member
  exact Option.some.inj member ▸ ends

theorem isDigit_of_mem_toDigits {n : Nat} {c : Char} (member : c ∈ Nat.toDigits 10 n) :
    c.isDigit = true :=
  Nat.isDigit_of_mem_toDigits (by decide) (by decide) member

/-- A positive number does not begin with a zero. -/
theorem head?_toDigits_ne_zero {n : Nat} (positive : 0 < n) :
    (Nat.toDigits 10 n).head? ≠ some '0' := by
  induction n using Nat.strongRecOn with
  | ind n ih =>
      by_cases small : n < 10
      · have digits : ∀ d < 10, 0 < d → (Nat.toDigits 10 d).head? ≠ some '0' := by decide
        exact digits n small positive
      · rw [Nat.toDigits_of_base_le (by decide) (by omega),
          List.head?_append_of_ne_nil _ Nat.toDigits_ne_nil]
        exact ih (n / 10) (by omega) (by omega)

/-- Digits whose number is small are all kept. -/
theorem integerPart_eq {digits : List Char} {start : Nat}
    (small : Nat.ofDigitChars 10 digits start ≤ significandLimit) :
    integerPart start digits = (Nat.ofDigitChars 10 digits start, 0) := by
  induction digits generalizing start with
  | nil => rfl
  | cons digit more ih =>
      have grows : ∀ (cs : List Char) (init : Nat), init ≤ Nat.ofDigitChars 10 cs init := by
        intro cs
        induction cs with
        | nil => exact fun init => Nat.le_refl _
        | cons c cs ih =>
            intro init
            rw [Nat.ofDigitChars_cons]
            exact Nat.le_trans (by omega) (ih _)
      rw [Nat.ofDigitChars_cons, Nat.mul_comm] at small ⊢
      have here : start * 10 + digitValue digit ≤ significandLimit :=
        Nat.le_trans (grows more _) small
      simp only [integerPart, here, ↓reduceIte]
      exact ih small

theorem roundToDouble_le (n : Nat) : roundToDouble n ≤ 2 * n := by
  unfold roundToDouble
  by_cases exact : n < Nat.pow 2 53
  · simp only [exact, ↓reduceIte]
    omega
  · simp only [exact, ↓reduceIte]
    have nonzero : n ≠ 0 := by
      rintro rfl
      exact exact (by decide)
    have unit : Nat.pow 2 (n.log2 - 52) ≤ n :=
      Nat.le_trans (Nat.pow_le_pow_right (by decide) (Nat.sub_le _ _)) (Nat.log2_self_le nonzero)
    have quotient : n / Nat.pow 2 (n.log2 - 52) * Nat.pow 2 (n.log2 - 52) ≤ n :=
      Nat.div_mul_le_self _ _
    split
    · rw [Nat.add_mul]
      omega
    · omega

/-- A count is in range. -/
theorem isOutOfRange_count {n : Nat} (small : n < countLimit) : isOutOfRange n 0 = false := by
  have rounded : roundToDouble n ≤ 2 * n := roundToDouble_le n
  have unit : roundToDouble (Nat.pow 10 (0 : Int).toNat) = 1 := by decide
  have bound : 2 * countLimit ≤ firstInfinite := by decide +kernel
  unfold isOutOfRange
  rw [unit, Nat.mul_one]
  have finite : ¬ firstInfinite ≤ roundToDouble n := by omega
  simp [finite]

theorem closeNumber_count {n : Nat} (small : n < countLimit) (rest : List Char) :
    closeNumber n 0 rest = .ok rest := by
  rw [closeNumber, isOutOfRange_count small]
  rfl

theorem readFraction_count {n : Nat} (small : n < countLimit) (ends : EndsNumber rest) :
    readFraction n 0 rest = .ok rest := by
  cases rest with
  | nil => exact closeNumber_count small []
  | cons c more =>
      rcases ends c rfl with rfl | rfl | rfl
      · exact closeNumber_count small _
      · exact closeNumber_count small _
      · exact closeNumber_count small _

theorem EndsNumber.not_isDigit (ends : EndsNumber rest) : ∀ c ∈ rest.head?, c.isDigit = false := by
  intro c member
  rcases ends c member with rfl | rfl | rfl
  · decide
  · decide
  · decide

/-- The digits in front of what ends a number are those of the number. -/
theorem span_toDigits (n : Nat) (ends : EndsNumber rest) :
    (Nat.toDigits 10 n ++ rest).takeWhile (·.isDigit) = Nat.toDigits 10 n ∧
      (Nat.toDigits 10 n ++ rest).dropWhile (·.isDigit) = rest := by
  rw [List.takeWhile_append_of_pos fun c => isDigit_of_mem_toDigits,
    List.dropWhile_append_of_pos fun c => isDigit_of_mem_toDigits]
  cases rest with
  | nil => simp
  | cons c more => simp [ends.not_isDigit c rfl]

theorem integerPart_toDigits {n : Nat} (small : n < countLimit) :
    integerPart 0 (Nat.toDigits 10 n) = (n, 0) := by
  have value : Nat.ofDigitChars 10 (Nat.toDigits 10 n) 0 = n :=
    Nat.ofDigitChars_toDigits (by decide) (by decide)
  rw [integerPart_eq, value]
  rw [value]
  exact Nat.le_pred_of_lt small

theorem readUnsigned_toDigits {n : Nat} (small : n < countLimit) (ends : EndsNumber rest) :
    readUnsigned (Nat.toDigits 10 n ++ rest) = .ok rest := by
  by_cases zero : n = 0
  · subst zero
    cases rest with
    | nil => rfl
    | cons c more =>
        simp only [Nat.toDigits_zero, List.cons_append, List.nil_append, readUnsigned,
          ends.not_isDigit c rfl, Bool.false_eq_true, ↓reduceIte]
        exact readFraction_count small ends
  · obtain ⟨taken, dropped⟩ := span_toDigits n ends
    have part := integerPart_toDigits small
    have first := head?_toDigits_ne_zero (Nat.pos_of_ne_zero zero)
    obtain ⟨c, more, digits⟩ := List.exists_cons_of_ne_nil (Nat.toDigits_ne_nil (n := n) (b := 10))
    have isDigit : c.isDigit = true := isDigit_of_mem_toDigits (digits ▸ List.mem_cons_self)
    rw [digits] at first taken dropped part ⊢
    have notZero : c ≠ '0' := fun same => first (congrArg some same)
    rw [List.cons_append] at taken dropped ⊢
    rw [readUnsigned, if_pos isDigit, taken, dropped, part]
    · exact readFraction_count small ends
    · exact notZero

theorem readNumber_of_unsigned {text : List Char} (unsigned : text.head? ≠ some '-')
    (read : readUnsigned text = .ok rest) :
    readNumber text =
      .ok (number (String.ofList (text.take (text.length - rest.length))), rest) := by
  unfold readNumber
  split
  · exact (unsigned rfl).elim
  · simp only [read]

/-- A count is read as it was printed. -/
theorem readNumber_count {n : Nat} (small : n < countLimit) (ends : EndsNumber rest) :
    readNumber ((toString n).toList ++ rest) = .ok (count n, rest) := by
  have digits : (toString n).toList = Nat.toDigits 10 n := by
    rw [Nat.toString_eq_ofList_toDigits, String.toList_ofList]
  have unsigned : ((toString n).toList ++ rest).head? ≠ some '-' := by
    rw [digits, List.head?_append_of_ne_nil _ Nat.toDigits_ne_nil]
    intro sign
    exact absurd (isDigit_of_mem_toDigits (List.mem_of_head? sign)) (by decide)
  have read : readUnsigned ((toString n).toList ++ rest) = .ok rest :=
    digits ▸ readUnsigned_toDigits small ends
  rw [readNumber_of_unsigned unsigned read, List.length_append, Nat.add_sub_cancel, List.take_left,
    String.ofList_toList]
  rfl

/-! ## Arrays and objects

What follows an item or a member is its end or a comma with more of them. -/

/-- The rest of an array behind one of its items. -/
def itemTail : List Json → List Char
  | [] => [']']
  | items => ',' :: itemChars items

/-- The rest of an object behind one of its members. -/
def memberTail : List (String × Json) → List Char
  | [] => ['\x7D']
  | members => ',' :: memberChars members

theorem itemChars_cons (item : Json) (items : List Json) :
    itemChars (item :: items) = item.chars ++ itemTail items := by
  cases items with
  | nil => rfl
  | cons next more => rfl

theorem memberChars_cons (name : String) (value : Json) (members : List (String × Json)) :
    memberChars ((name, value) :: members) =
      quoted name ++ ':' :: (value.chars ++ memberTail members) := by
  cases members with
  | nil => rfl
  | cons next more => rfl

theorem endsNumber_itemTail (items : List Json) (rest : List Char) :
    EndsNumber (itemTail items ++ rest) := by
  cases items with
  | nil => exact endsNumber_cons (by decide) _
  | cons item more => exact endsNumber_cons (by decide) _

theorem endsNumber_memberTail (members : List (String × Json)) (rest : List Char) :
    EndsNumber (memberTail members ++ rest) := by
  cases members with
  | nil => exact endsNumber_cons (by decide) _
  | cons member more => exact endsNumber_cons (by decide) _

/-- Whether a character is white space between tokens. -/
def isSpace (c : Char) : Bool :=
  c == ' ' || c == '\t' || c == '\n' || c == '\r'

theorem skipSpace_cons {c : Char} (token : isSpace c = false) (rest : List Char) :
    skipSpace (c :: rest) = c :: rest := by
  rw [isSpace] at token
  simp only [skipSpace, List.dropWhile_cons, token, Bool.false_eq_true, ↓reduceIte]

theorem isSpace_of_isDigit {c : Char} (isDigit : c.isDigit = true) : isSpace c = false := by
  rw [Bool.eq_false_iff]
  intro space
  simp only [isSpace, Bool.or_eq_true, beq_iff_eq] at space
  rcases space with ((rfl | rfl) | rfl) | rfl <;> cases isDigit

theorem exists_chars_count (n : Nat) :
    ∃ c more, (count n).chars = c :: more ∧ c.isDigit = true := by
  obtain ⟨c, more, digits⟩ :=
    List.exists_cons_of_ne_nil (Nat.toDigits_ne_nil (n := n) (b := 10))
  refine ⟨c, more, ?_, isDigit_of_mem_toDigits (digits ▸ List.mem_cons_self)⟩
  rw [← digits, count, chars, Nat.toString_eq_ofList_toDigits, String.toList_ofList]

/-- Whether a text begins with a token that is not the end of an array. -/
def StartsValue (text : List Char) : Prop :=
  ∃ c more, text = c :: more ∧ isSpace c = false ∧ c ≠ ']'

theorem StartsValue.append {text : List Char} (starts : StartsValue text) (rest : List Char) :
    StartsValue (text ++ rest) := by
  obtain ⟨c, more, rfl, token, notEnd⟩ := starts
  exact ⟨c, more ++ rest, rfl, token, notEnd⟩

theorem Readable.startsValue {value : Json} (readable : Readable depth value) :
    StartsValue value.chars := by
  cases readable with
  | null => exact ⟨'n', _, rfl, by decide, by decide⟩
  | bool flag =>
      cases flag with
      | false => exact ⟨'f', _, rfl, by decide, by decide⟩
      | true => exact ⟨'t', _, rfl, by decide, by decide⟩
  | string text => exact ⟨'"', _, rfl, by decide, by decide⟩
  | @count _ n small =>
      obtain ⟨c, more, isCons, isDigit⟩ := exists_chars_count n
      refine ⟨c, more, isCons, isSpace_of_isDigit isDigit, ?_⟩
      rintro rfl
      cases isDigit
  | array each => exact ⟨'[', _, rfl, by decide, by decide⟩
  | object each => exact ⟨'\x7B', _, rfl, by decide, by decide⟩

theorem readItems_end (done : List Json) (rest : List Char) :
    readItems (fuel + 1) depth done (']' :: rest) = .ok (array done.reverse, rest) := by
  simp [readItems, skipSpace]

theorem readItems_first {text : List Char} {item : Json} (starts : StartsValue text)
    (read : readValue fuel depth text = .ok (item, rest)) :
    readItems (fuel + 1) depth [] text = readItems fuel depth [item] rest := by
  obtain ⟨c, more, rfl, token, notEnd⟩ := starts
  simp [readItems, skipSpace_cons token, notEnd, read]

theorem readItems_next {text : List Char} {item : Json} {done : List Json} (begun : done ≠ [])
    (starts : StartsValue text) (read : readValue fuel depth text = .ok (item, rest)) :
    readItems (fuel + 1) depth done (',' :: text) = readItems fuel depth (item :: done) rest := by
  obtain ⟨c, more, rfl, token, notEnd⟩ := starts
  have comma : isSpace ',' = false := by decide
  simp only [readItems, skipSpace_cons comma, skipSpace_cons token, begun, List.isEmpty_iff]
  simp only [Char.reduceBEq, Bool.false_eq_true, ↓reduceIte]
  split
  · rename_i absurdity
    cases absurdity
  · rename_i same
    exact (notEnd (List.cons.inj same).1).elim
  · simp only [read]

theorem readMembers_end (done : List (String × Json)) (rest : List Char) :
    readMembers (fuel + 1) depth done ('\x7D' :: rest) = .ok (object done.reverse, rest) := by
  simp [readMembers, skipSpace]

theorem readMembers_first (rest : List Char) :
    readMembers (fuel + 1) depth [] ('"' :: rest) = readMember fuel depth [] rest := by
  simp [readMembers, skipSpace]

theorem readMembers_next {done : List (String × Json)} (begun : done ≠ []) (rest : List Char) :
    readMembers (fuel + 1) depth done (',' :: '"' :: rest) = readMember fuel depth done rest := by
  simp [readMembers, skipSpace, begun]

theorem readMember_quoted (name : String) {value : Json} {text : List Char}
    (done : List (String × Json)) (read : readValue fuel depth text = .ok (value, rest)) :
    readMember (fuel + 1) depth done (name.toList.flatMap escapeChar ++ '"' :: ':' :: text) =
      readMembers fuel depth ((name, value) :: done) rest := by
  have colon : isSpace ':' = false := by decide
  rw [readMember, readString_quoted]
  simp only [skipSpace_cons colon, read]

/-- Whether a value is read back from its text, whatever follows that cannot continue a number. The
fuel that is enough is twice the length of the text. -/
structure Reads (depth : Nat) (value : Json) : Prop where
  starts : StartsValue value.chars
  read : ∀ fuel rest, 2 * value.chars.length ≤ fuel → EndsNumber rest →
    readValue fuel depth (value.chars ++ rest) = .ok (value, rest)

theorem Reads.length_pos {value : Json} (reads : Reads depth value) : 0 < value.chars.length := by
  obtain ⟨c, more, isCons, -, -⟩ := reads.starts
  rw [isCons]
  exact Nat.succ_pos _

/-- No value is empty, so that a reader always has a step left for it. -/
theorem Reads.of_succ {value : Json} (starts : StartsValue value.chars)
    (read : ∀ fuel rest, 2 * value.chars.length ≤ fuel + 1 → EndsNumber rest →
      readValue (fuel + 1) depth (value.chars ++ rest) = .ok (value, rest)) :
    Reads depth value := by
  refine ⟨starts, fun fuel rest enough ends => ?_⟩
  cases fuel with
  | zero =>
      obtain ⟨c, more, isCons, -, -⟩ := starts
      rw [isCons] at enough
      cases enough
  | succ fuel => exact read fuel rest enough ends

theorem itemTail_cons (item : Json) (items : List Json) :
    itemTail (item :: items) = ',' :: (item.chars ++ itemTail items) :=
  congrArg (',' :: ·) (itemChars_cons item items)

theorem memberTail_cons (name : String) (value : Json) (members : List (String × Json)) :
    memberTail ((name, value) :: members) =
      ',' :: '"' :: (name.toList.flatMap escapeChar ++ '"' :: ':' ::
        (value.chars ++ memberTail members)) := by
  have tail : memberTail ((name, value) :: members) =
      ',' :: memberChars ((name, value) :: members) := rfl
  rw [tail, memberChars_cons, quoted]
  simp

/-- Items are read back behind those that have been read. -/
theorem readItems_itemTail {items : List Json} (each : ∀ item ∈ items, Reads depth item)
    {done : List Json} (begun : done ≠ []) (enough : 2 * (itemTail items).length ≤ fuel)
    (rest : List Char) :
    readItems fuel depth done (itemTail items ++ rest) =
      .ok (array (done.reverse ++ items), rest) := by
  induction items generalizing fuel done with
  | nil =>
      cases fuel with
      | zero => cases enough
      | succ fuel =>
          rw [itemTail, List.singleton_append, readItems_end, List.append_nil]
  | cons item more ih =>
      obtain ⟨first, others⟩ := List.forall_mem_cons.mp each
      have nonempty := first.length_pos
      simp only [itemTail_cons, List.length_cons, List.length_append] at enough
      cases fuel with
      | zero => omega
      | succ fuel =>
          have read := first.read fuel _ (by omega) (endsNumber_itemTail more rest)
          rw [itemTail_cons, List.cons_append, List.append_assoc,
            readItems_next begun (first.starts.append _) read,
            ih others (List.cons_ne_nil item done) (by omega)]
          simp

theorem readItems_itemChars {items : List Json} (each : ∀ item ∈ items, Reads depth item)
    (enough : 2 * (itemChars items).length ≤ fuel) (rest : List Char) :
    readItems fuel depth [] (itemChars items ++ rest) = .ok (array items, rest) := by
  cases items with
  | nil =>
      cases fuel with
      | zero => cases enough
      | succ fuel => exact readItems_end [] rest
  | cons item more =>
      obtain ⟨first, others⟩ := List.forall_mem_cons.mp each
      have nonempty := first.length_pos
      rw [itemChars_cons, List.length_append] at enough
      cases fuel with
      | zero => omega
      | succ fuel =>
          have tail : 0 < (itemTail more).length := by
            cases more <;> exact Nat.succ_pos _
          have read := first.read fuel _ (by omega) (endsNumber_itemTail more rest)
          rw [itemChars_cons, List.append_assoc, readItems_first (first.starts.append _) read,
            readItems_itemTail others (List.cons_ne_nil item []) (by omega)]
          rfl

/-- Members are read back behind those that have been read. -/
theorem readMembers_memberTail {members : List (String × Json)}
    (each : ∀ member ∈ members, Reads depth member.2) {done : List (String × Json)}
    (begun : done ≠ []) (enough : 2 * (memberTail members).length ≤ fuel) (rest : List Char) :
    readMembers fuel depth done (memberTail members ++ rest) =
      .ok (object (done.reverse ++ members), rest) := by
  induction members generalizing fuel done with
  | nil =>
      cases fuel with
      | zero => cases enough
      | succ fuel =>
          rw [memberTail, List.singleton_append, readMembers_end, List.append_nil]
  | cons member more ih =>
      obtain ⟨name, value⟩ := member
      obtain ⟨first, others⟩ := List.forall_mem_cons.mp each
      simp only [memberTail_cons, List.length_cons, List.length_append] at enough
      obtain ⟨fuel, rfl⟩ : ∃ less, fuel = less + 2 := Nat.exists_eq_add_of_le' (by omega)
      have read := first.read fuel _ (by dsimp only; omega) (endsNumber_memberTail more rest)
      simp only [memberTail_cons, List.cons_append, List.append_assoc]
      rw [readMembers_next begun, readMember_quoted name done read,
        ih others (List.cons_ne_nil _ done) (by omega)]
      simp

theorem readMembers_memberChars {members : List (String × Json)}
    (each : ∀ member ∈ members, Reads depth member.2)
    (enough : 2 * (memberChars members).length ≤ fuel) (rest : List Char) :
    readMembers fuel depth [] (memberChars members ++ rest) = .ok (object members, rest) := by
  cases members with
  | nil =>
      cases fuel with
      | zero => cases enough
      | succ fuel => exact readMembers_end [] rest
  | cons member more =>
      obtain ⟨name, value⟩ := member
      obtain ⟨first, others⟩ := List.forall_mem_cons.mp each
      simp only [memberChars_cons, quoted, List.cons_append, List.length_cons,
        List.length_append] at enough
      obtain ⟨fuel, rfl⟩ : ∃ less, fuel = less + 2 := Nat.exists_eq_add_of_le' (by omega)
      have read := first.read fuel _ (by dsimp only; omega) (endsNumber_memberTail more rest)
      simp only [memberChars_cons, quoted, List.cons_append, List.append_assoc, List.nil_append]
      rw [readMembers_first, readMember_quoted name [] read,
        readMembers_memberTail others (List.cons_ne_nil _ []) (by omega)]
      rfl

/-! ## Values -/

theorem readValue_digit {c : Char} (isDigit : c.isDigit = true) (rest : List Char) :
    readValue (fuel + 1) depth (c :: rest) = readNumber (c :: rest) := by
  simp only [readValue, skipSpace_cons (isSpace_of_isDigit isDigit)]
  -- Every character that begins another kind of value is no digit.
  split
  all_goals first | cases isDigit | simp only [isDigit, Bool.or_true, ↓reduceIte]

/-- A readable value is read back from its text. -/
theorem Readable.reads {value : Json} (readable : Readable depth value) : Reads depth value := by
  induction readable with
  | @null depth =>
      refine .of_succ (@Readable.null depth).startsValue fun fuel rest _ _ => ?_
      simp [chars, readValue, skipSpace, readWord]
  | @bool depth flag =>
      refine .of_succ (@Readable.bool depth flag).startsValue fun fuel rest _ _ => ?_
      cases flag with
      | false => simp [chars, readValue, skipSpace, readWord]
      | true => simp [chars, readValue, skipSpace, readWord]
  | @string depth text =>
      refine .of_succ (@Readable.string depth text).startsValue fun fuel rest _ _ => ?_
      have quote : isSpace '"' = false := by decide
      simp only [chars, quoted, List.cons_append, List.append_assoc, List.nil_append, readValue,
        skipSpace_cons quote, readString_quoted]
  | @count depth n small =>
      refine .of_succ (@Readable.count depth n small).startsValue fun fuel rest _ ends => ?_
      obtain ⟨c, more, isCons, isDigit⟩ := exists_chars_count n
      have isChars : (toString n).toList = c :: more := isCons
      have read := readNumber_count small ends
      rw [isChars] at read
      rw [isCons, List.cons_append, readValue_digit isDigit]
      exact read
  | array each ih =>
      refine .of_succ (Readable.array each).startsValue fun fuel rest enough _ => ?_
      have bracket : isSpace '[' = false := by decide
      rw [chars, List.length_cons] at enough
      simp only [chars, List.cons_append, readValue, skipSpace_cons bracket]
      exact readItems_itemChars ih (by omega) rest
  | object each ih =>
      refine .of_succ (Readable.object each).startsValue fun fuel rest enough _ => ?_
      have brace : isSpace '\x7B' = false := by decide
      rw [chars, List.length_cons] at enough
      simp only [chars, List.cons_append, readValue, skipSpace_cons brace]
      exact readMembers_memberChars ih (by omega) rest

/-- The compact text of a readable value reads back as the value. -/
theorem ofText?_compact {value : Json} (readable : Readable nestingLimit value) :
    ofText? value.compact = .ok value := by
  have read := readable.reads.read (2 * value.chars.length + 2) [] (by omega) nofun
  rw [List.append_nil] at read
  rw [compact, ofText?, String.toList_ofList, readText, read]
  rfl

/-! ## Characters of a printed value -/

/-- Whether a text has no control characters below the space. -/
def Printed (text : List Char) : Prop :=
  ∀ c ∈ text, 0x20 ≤ c.toNat

instance (text : List Char) : Decidable (Printed text) :=
  decidable_of_iff (text.all (0x20 ≤ ·.toNat) = true) (by simp [Printed])

@[simp] theorem printed_nil : Printed [] :=
  nofun

@[simp] theorem printed_cons {c : Char} {text : List Char} :
    Printed (c :: text) ↔ 0x20 ≤ c.toNat ∧ Printed text :=
  List.forall_mem_cons

@[simp] theorem printed_append {first second : List Char} :
    Printed (first ++ second) ↔ Printed first ∧ Printed second :=
  List.forall_mem_append

theorem escapeChar_printed (c : Char) : Printed (escapeChar c) := by
  have hexadecimal : ∀ n < 16, 0x20 ≤ (Text.hexDigit n).toNat := by decide
  unfold escapeChar
  split_ifs with quote backslash backspace formFeed lineFeed carriageReturn tab control
  iterate 7 decide
  · have high := hexadecimal (c.toNat / 16) (by omega)
    have low := hexadecimal (c.toNat % 16) (by omega)
    simp [high, low]
  · simpa using control

theorem quoted_printed (text : String) : Printed (quoted text) := by
  have escaped : Printed (text.toList.flatMap escapeChar) := by
    induction text.toList with
    | nil => exact printed_nil
    | cons c rest ih =>
        rw [List.flatMap_cons, printed_append]
        exact ⟨escapeChar_printed c, ih⟩
  simp [quoted, escaped]

theorem itemChars_printed {items : List Json} (each : ∀ item ∈ items, Printed item.chars) :
    Printed (itemChars items) := by
  induction items with
  | nil => decide
  | cons item more ih =>
      obtain ⟨first, others⟩ := List.forall_mem_cons.mp each
      have tail : Printed (itemTail more) := by
        cases more with
        | nil => decide
        | cons next rest => simpa [itemTail] using ih others
      rw [itemChars_cons, printed_append]
      exact ⟨first, tail⟩

theorem memberChars_printed {members : List (String × Json)}
    (each : ∀ member ∈ members, Printed member.2.chars) : Printed (memberChars members) := by
  induction members with
  | nil => decide
  | cons member more ih =>
      obtain ⟨name, value⟩ := member
      obtain ⟨first, others⟩ := List.forall_mem_cons.mp each
      have tail : Printed (memberTail more) := by
        cases more with
        | nil => decide
        | cons next rest => simpa [memberTail] using ih others
      simp [memberChars_cons, quoted_printed, first, tail]

/-- The text of a readable value has no control characters. -/
theorem Readable.printed {value : Json} (readable : Readable depth value) :
    Printed value.chars := by
  induction readable with
  | null => decide
  | bool flag => cases flag <;> decide
  | string text => exact quoted_printed text
  | @count depth n small =>
      intro c member
      rw [Json.count, chars, Nat.toString_eq_ofList_toDigits, String.toList_ofList] at member
      have digit := Char.isDigit_iff_toNat.mp (isDigit_of_mem_toDigits member)
      have zero : '0'.toNat = 48 := by decide
      omega
  | array each ih => simpa [chars] using itemChars_printed ih
  | object each ih => simpa [chars] using memberChars_printed ih

end ScreenedSuite.Json
