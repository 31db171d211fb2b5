import CommandShell.Proofs.GrantedValues
import Mathlib.Algebra.Group.Int.Defs
import Mathlib.Data.List.Forall2
import Mathlib.Data.List.TakeWhile

/-!
# The integers that predicates read

An integer text is a sign, which may be missing, and ASCII digits, and it stands for the integer
that the digits spell in base ten. A predicate reads it if it has no more digits than allowed and
the integer lies in the range of the predicate. Digits count one by one, leading zeros included, and
their number is looked at before the range.

* `isIntegerText_iff`, `normalForm_eq_self`, `readInteger_of_spells` — an integer text, taken apart
  and read;
* `readIntegerIn_of_spells`, `readIntegerIn_of_not_spells` — a range;
* `spells_paddedText` — the decimal text of an integer, behind zeros, stands for it;
* `readInt32s_append`, `consume_manyInt32_of_error` — many integers, up to the first token that
  decides;
* `integers_read_exactly` — **what integer predicates read, and how they fail**.
-/

namespace CommandShell

namespace Number

/-! ### Digits -/

theorem isDigit_iff (c : Char) : isDigit c = true ↔ '0' ≤ c ∧ c ≤ '9' := by
  rw [isDigit, Bool.and_eq_true, decide_eq_true_eq, decide_eq_true_eq]
  rfl

theorem ne_of_isDigit {c other : Char} (hc : isDigit c = true) (h : isDigit other = false) :
    c ≠ other := by
  rintro rfl
  cases hc.symm.trans h

/-- The text is a sign, which may be missing and is no minus if `unsigned`, and ASCII digits, at
least one. -/
structure Spells (unsigned : Bool) (text : String) (sign digits : List Char) : Prop where
  chars : text.toList = sign ++ digits
  sign : sign = [] ∨ sign = ['+'] ∨ (sign = ['-'] ∧ unsigned = false)
  nonempty : digits ≠ []
  ascii : ∀ c ∈ digits, '0' ≤ c ∧ c ≤ '9'

/-- The text can be taken apart in this way. -/
def IntegerForm (unsigned : Bool) (text : String) : Prop :=
  ∃ sign digits, Spells unsigned text sign digits

/-- The integer that a sign and digits stand for in base ten. -/
def spelledValue (sign digits : List Char) : Int :=
  if sign = ['-'] then -(Nat.ofDigitChars 10 digits 0 : Int) else Nat.ofDigitChars 10 digits 0

theorem readDigits_eq (n : Nat) (digits : List Char) :
    readDigits n digits = Nat.ofDigitChars 10 digits n := by
  rw [readDigits, Nat.ofDigitChars_eq_foldl]
  simp only [Nat.mul_comm 10]
  rfl

/-- Digits are grouped without underscores, if there are any. -/
theorem isGrouped_of_digits {digits : List Char} (h : ∀ c ∈ digits, isDigit c = true)
    (digitBefore : Bool) : isGrouped digitBefore digits = (digitBefore || !digits.isEmpty) := by
  induction digits generalizing digitBefore with
  | nil => simp [isGrouped]
  | cons c digits ih =>
    obtain ⟨hc, hrest⟩ := List.forall_mem_cons.1 h
    have hne : (c == '_') = false := beq_eq_false_iff_ne.2 (ne_of_isDigit hc rfl)
    simp [isGrouped, hne, ih hrest]

namespace Spells

variable {unsigned : Bool} {text : String} {sign digits : List Char}

theorem isDigit (h : Spells unsigned text sign digits) : ∀ c ∈ digits, isDigit c = true :=
  fun c hc => (isDigit_iff c).2 (h.ascii c hc)

/-- The characters of an integer text are ASCII and no padding. -/
theorem plain (h : Spells unsigned text sign digits) :
    ∀ c ∈ text.toList, c.toNat < 0x7f ∧ isPadding c = false := by
  intro c hc
  rw [h.chars, List.mem_append] at hc
  rcases hc with hsign | hdigit
  · rcases h.sign with rfl | rfl | ⟨rfl, -⟩
    · cases hsign
    · cases List.mem_singleton.1 hsign
      decide
    · cases List.mem_singleton.1 hsign
      decide
  · have hrange := h.isDigit c hdigit
    simp only [Number.isDigit, Bool.and_eq_true, decide_eq_true_eq] at hrange
    refine ⟨by omega, ?_⟩
    have hspace : (c == ' ') = false :=
      beq_eq_false_iff_ne.2 (ne_of_isDigit (h.isDigit c hdigit) rfl)
    simp only [isPadding, hspace, Bool.false_or, Bool.and_eq_false_iff, decide_eq_false_iff_not]
    omega

/-- What is allowed without a minus is allowed with one. -/
theorem signed (h : Spells unsigned text sign digits) : Spells false text sign digits where
  chars := h.chars
  sign := h.sign.imp_right fun h => h.imp_right fun h => ⟨h.1, rfl⟩
  nonempty := h.nonempty
  ascii := h.ascii

/-- The sign is split off the digits. -/
theorem splitSign_eq (h : Spells unsigned text sign digits) :
    splitSign (sign ++ digits) = (decide (sign = ['-']), digits) := by
  rcases h.sign with rfl | rfl | ⟨rfl, -⟩
  · -- The first digit is no sign.
    obtain ⟨c, cs, rfl⟩ := List.exists_cons_of_ne_nil h.nonempty
    have hc := h.isDigit c List.mem_cons_self
    unfold splitSign
    split
    · rename_i heq
      exact absurd (List.cons.inj heq).1 (ne_of_isDigit hc rfl)
    · rename_i heq
      exact absurd (List.cons.inj heq).1 (ne_of_isDigit hc rfl)
    · rfl
  · rfl
  · rfl

end Spells

/-! ### Reading -/

/-- A text of ASCII characters without padding is its own normal form. -/
theorem normalForm_eq_self {text : String}
    (h : ∀ c ∈ text.toList, c.toNat < 0x7f ∧ isPadding c = false) :
    normalForm text = text.toList := by
  have hdrop : ∀ cs : List Char, (∀ c ∈ cs, isPadding c = false) →
      cs.dropWhile isPadding = cs := by
    intro cs hcs
    refine List.dropWhile_eq_self_iff.2 fun hpos => ?_
    rw [hcs _ (List.getElem_mem hpos)]
    exact Bool.false_ne_true
  have hascii : text.toList.map asciiForm = text.toList := by
    refine (List.map_congr_left fun c hc => ?_).trans (List.map_id _)
    exact if_pos (h c hc).1
  have hplain : ∀ c ∈ text.toList, isPadding c = false := fun c hc => (h c hc).2
  simp only [normalForm]
  rw [hascii, hdrop _ hplain, hdrop _ fun c hc => hplain c (List.mem_reverse.1 hc),
    List.reverse_reverse]

/-- **Integer texts.** An integer text is read as the integer that it stands for, unless it has too
many digits. -/
theorem readInteger_of_spells {unsigned : Bool} {text : String} {sign digits : List Char}
    (h : Spells unsigned text sign digits) :
    readInteger text =
      if maxDigits < digits.length then .error (.tooManyDigits digits.length)
      else .ok (spelledValue sign digits) := by
  have htake : digits.takeWhile (fun c => isDigit c || c == '_') = digits :=
    List.takeWhile_eq_self_iff.2 fun c hc => by rw [h.isDigit c hc]; rfl
  have hfilter : digits.filter isDigit = digits := List.filter_eq_self.2 h.isDigit
  have hgrouped : isGrouped false digits = true := by
    rw [isGrouped_of_digits h.isDigit]
    simpa using h.nonempty
  have hvalue : signed (decide (sign = ['-'])) (readDigits 0 digits) =
      spelledValue sign digits := by
    rw [signed, readDigits_eq, spelledValue]
    simp
  simp only [readInteger, normalForm_eq_self h.plain, h.chars, h.splitSign_eq, htake, hfilter,
    hgrouped, hvalue]
  simp

end Number

namespace Predicate

open Number

/-! ### Ranges -/

theorem isIntegerText_iff (unsigned : Bool) (text : String) :
    isIntegerText unsigned text = true ↔ IntegerForm unsigned text := by
  have hdigits : ∀ cs : List Char, (!cs.isEmpty && cs.all isDigit) = true ↔
      cs ≠ [] ∧ ∀ c ∈ cs, '0' ≤ c ∧ c ≤ '9' := by
    intro cs
    simp [isDigit_iff]
  constructor
  · intro h
    unfold isIntegerText at h
    dsimp only at h
    rw [hdigits] at h
    split at h
    · rename_i cs hchars
      exact ⟨['+'], cs, hchars, .inr (.inl rfl), h.1, h.2⟩
    · rename_i cs hchars
      cases unsigned with
      | false => exact ⟨['-'], cs, hchars, .inr (.inr ⟨rfl, rfl⟩), h.1, h.2⟩
      | true =>
        -- The minus is not taken off, and it is no digit.
        exact absurd (h.2 '-' List.mem_cons_self) (by decide)
    · exact ⟨[], _, rfl, .inl rfl, h.1, h.2⟩
  · rintro ⟨sign, digits, h⟩
    unfold isIntegerText
    dsimp only
    rw [hdigits, h.chars]
    rcases h.sign with rfl | rfl | ⟨rfl, rfl⟩
    · -- The first digit is no sign.
      obtain ⟨c, cs, rfl⟩ := List.exists_cons_of_ne_nil h.nonempty
      have hc := h.isDigit c List.mem_cons_self
      split
      · rename_i heq
        exact absurd (List.cons.inj heq).1 (ne_of_isDigit hc rfl)
      · rename_i heq
        exact absurd (List.cons.inj heq).1 (ne_of_isDigit hc rfl)
      · exact ⟨h.nonempty, h.ascii⟩
    · exact ⟨h.nonempty, h.ascii⟩
    · exact ⟨h.nonempty, h.ascii⟩

/-- The text is that of an integer of a range, with no more digits than allowed. -/
def Denotes (unsigned : Bool) (minimum maximum : Int) (text : String) (n : Int) : Prop :=
  ∃ sign digits, Spells unsigned text sign digits ∧ digits.length ≤ 4300 ∧
    spelledValue sign digits = n ∧ minimum ≤ n ∧ n ≤ maximum

/-- The text is that of an integer, with so many digits that it is too long to be read. -/
def Overlong (unsigned : Bool) (text : String) (count : Nat) : Prop :=
  ∃ sign digits, Spells unsigned text sign digits ∧ digits.length = count ∧ 4300 < count

section

variable {unsigned : Bool} {text : String}

theorem Overlong.signed {count : Nat} (h : Overlong unsigned text count) :
    Overlong false text count := by
  obtain ⟨sign, digits, hspells, hcount⟩ := h
  exact ⟨sign, digits, hspells.signed, hcount⟩

/-- **Integer texts of a range.** The digits are counted first, then the range is looked at. -/
theorem readIntegerIn_of_spells {sign digits : List Char}
    (h : Spells unsigned text sign digits) (minimum maximum : Int) :
    readIntegerIn text minimum maximum unsigned =
      if 4300 < digits.length then .error (.fault (.tooManyDigits digits.length))
      else if minimum ≤ spelledValue sign digits ∧ spelledValue sign digits ≤ maximum then
        .ok (spelledValue sign digits)
      else .error (.because (text ++ " (out of range)")) := by
  have hform : isIntegerText unsigned text = true := (isIntegerText_iff _ _).2 ⟨sign, digits, h⟩
  rw [readIntegerIn, readInteger_of_spells h, hform, maxDigits]
  by_cases hlong : 4300 < digits.length
  · rw [if_pos hlong, if_pos hlong]
    rfl
  · rw [if_neg hlong, if_neg hlong]
    simp

/-- **Other texts** are denied. -/
theorem readIntegerIn_of_not_spells (h : ¬ IntegerForm unsigned text)
    (minimum maximum : Int) :
    readIntegerIn text minimum maximum unsigned = .error (.because text) := by
  have hform : isIntegerText unsigned text = false := by
    rw [← Bool.not_eq_true, isIntegerText_iff]
    exact h
  rw [readIntegerIn, hform]
  rfl

theorem readIntegerIn_eq_ok_iff {minimum maximum n : Int} :
    readIntegerIn text minimum maximum unsigned = .ok n ↔
      Denotes unsigned minimum maximum text n := by
  constructor
  · intro h
    by_cases hform : IntegerForm unsigned text
    · obtain ⟨sign, digits, hspells⟩ := hform
      rw [readIntegerIn_of_spells hspells] at h
      split at h
      · cases h
      · split at h
        · rename_i hlong hrange
          cases h
          exact ⟨sign, digits, hspells, Nat.not_lt.1 hlong, rfl, hrange⟩
        · cases h
    · rw [readIntegerIn_of_not_spells hform] at h
      cases h
  · rintro ⟨sign, digits, hspells, hlength, rfl, hrange⟩
    rw [readIntegerIn_of_spells hspells, if_neg (Nat.not_lt.2 hlength), if_pos hrange]

theorem readIntegerIn_of_overlong {count : Nat} (h : Overlong unsigned text count)
    (minimum maximum : Int) :
    readIntegerIn text minimum maximum unsigned = .error (.fault (.tooManyDigits count)) := by
  obtain ⟨sign, digits, hspells, rfl, hlong⟩ := h
  rw [readIntegerIn_of_spells hspells, if_pos hlong]

/-- **What is not read** is too long, or it is denied. -/
theorem readIntegerIn_denied {minimum maximum : Int}
    (hdenotes : ∀ n, ¬ Denotes unsigned minimum maximum text n)
    (hlong : ∀ count, ¬ Overlong unsigned text count) :
    ∃ reason, readIntegerIn text minimum maximum unsigned = .error (.denied reason false) := by
  by_cases hform : IntegerForm unsigned text
  · obtain ⟨sign, digits, hspells⟩ := hform
    have hshort : ¬ 4300 < digits.length := fun h => hlong _ ⟨sign, digits, hspells, rfl, h⟩
    rw [readIntegerIn_of_spells hspells, if_neg hshort, if_neg]
    · exact ⟨_, rfl⟩
    · intro hrange
      exact hdenotes _ ⟨sign, digits, hspells, Nat.not_lt.1 hshort, rfl, hrange⟩
  · exact ⟨text, readIntegerIn_of_not_spells hform minimum maximum⟩

end

/-! ### Decimal texts -/

/-- The sign of the decimal text of an integer. -/
def minusSign (n : Int) : List Char := if n < 0 then ['-'] else []

/-- The decimal text of an integer with zeros in front of its digits. -/
def paddedText (zeros : Nat) (n : Int) : String :=
  String.ofList (minusSign n ++ (List.replicate zeros '0' ++ Nat.toDigits 10 n.natAbs))

theorem paddedText_zero (n : Int) : paddedText 0 n = integerText n := by
  rw [paddedText, integerText, minusSign]
  split <;> rfl

/-- Zeros in front of digits do not change what they stand for. -/
theorem spelledValue_padded (zeros : Nat) (n : Int) :
    spelledValue (minusSign n) (List.replicate zeros '0' ++ Nat.toDigits 10 n.natAbs) = n := by
  have hdigits :
      Nat.ofDigitChars 10 (List.replicate zeros '0' ++ Nat.toDigits 10 n.natAbs) 0 = n.natAbs := by
    rw [Nat.ofDigitChars_append, Nat.ofDigitChars_replicate_zero, Nat.mul_zero,
      Nat.ofDigitChars_ten_toDigits]
  rw [spelledValue, hdigits, minusSign]
  by_cases hneg : n < 0
  · rw [if_pos hneg, if_pos rfl]
    omega
  · rw [if_neg hneg, if_neg (by decide)]
    omega

theorem spells_paddedText {unsigned : Bool} {n : Int} (h : n < 0 → unsigned = false)
    (zeros : Nat) :
    Spells unsigned (paddedText zeros n) (minusSign n)
      (List.replicate zeros '0' ++ Nat.toDigits 10 n.natAbs) where
  chars := String.toList_ofList
  sign := by
    by_cases hneg : n < 0
    · exact .inr (.inr ⟨if_pos hneg, h hneg⟩)
    · exact .inl (if_neg hneg)
  nonempty := List.append_ne_nil_of_right_ne_nil _ Nat.toDigits_ne_nil
  ascii := by
    intro c hc
    rcases List.mem_append.1 hc with hzero | hdigit
    · rw [List.eq_of_mem_replicate hzero]
      decide
    · exact Char.isDigit_iff_toNat.1 (Nat.isDigit_of_mem_toDigits (by decide) (by decide) hdigit)

/-- **Decimal texts.** An integer of a range is denoted by its decimal text, behind zeros too if the
digits are not too many. -/
theorem denotes_paddedText {unsigned : Bool} {minimum maximum n : Int} {zeros : Nat}
    (hmin : minimum ≤ n) (hmax : n ≤ maximum) (hsign : unsigned = true → 0 ≤ minimum)
    (hlength : zeros + (Nat.toDigits 10 n.natAbs).length ≤ 4300) :
    Denotes unsigned minimum maximum (paddedText zeros n) n := by
  have hunsigned : n < 0 → unsigned = false := by
    intro hneg
    rw [← Bool.not_eq_true]
    intro hunsigned
    have hzero := hsign hunsigned
    omega
  refine ⟨_, _, spells_paddedText hunsigned zeros, ?_, spelledValue_padded zeros n, hmin, hmax⟩
  rwa [List.length_append, List.length_replicate]

/-! ### One integer -/

/-- The predicates for one integer, each with the range of its values. -/
def integerRanges : List (Predicate × Int × Int) :=
  [(anyInt32, -2 ^ 31, 2 ^ 31 - 1), (anyUInt8, 0, 2 ^ 8 - 1), (anyUInt64, 0, 2 ^ 64 - 1)]

/-- The predicate reads one integer of the range: each of them from its decimal text, behind zeros
too, and no other. -/
structure ReadsOne (p : Predicate) (minimum maximum : Int) : Prop where
  decimal : ∀ n rest, minimum ≤ n → n ≤ maximum →
    p.consume (integerText n :: rest) = .ok (1, [.int n])
  padded : ∀ n zeros rest, minimum ≤ n → n ≤ maximum →
    zeros + (Nat.toDigits 10 n.natAbs).length ≤ 4300 →
      p.consume (paddedText zeros n :: rest) = .ok (1, [.int n])
  within : ∀ args count values, p.consume args = .ok (count, values) →
    count = 1 ∧ ∃ n, values = [.int n] ∧ minimum ≤ n ∧ n ≤ maximum

theorem readsOne_integerIn (description : String) {minimum maximum : Int} {unsigned : Bool}
    (hsign : unsigned = true → 0 ≤ minimum) (hmin : -10 ^ 20 < minimum)
    (hmax : maximum < 10 ^ 20) :
    ReadsOne (one description fun arg => (readIntegerIn arg minimum maximum unsigned).map .int)
      minimum maximum := by
  have hpadded : ∀ n zeros rest, minimum ≤ n → n ≤ maximum →
      zeros + (Nat.toDigits 10 n.natAbs).length ≤ 4300 →
      (one description fun arg => (readIntegerIn arg minimum maximum unsigned).map .int).consume
        (paddedText zeros n :: rest) = .ok (1, [.int n]) := by
    intro n zeros rest hn hn' hlength
    have hread := readIntegerIn_eq_ok_iff.2 (denotes_paddedText hn hn' hsign hlength)
    simp only [one, hread]
    rfl
  refine ⟨fun n rest hn hn' => ?_, hpadded, fun args count values h => ?_⟩
  · -- The integers of the range have few digits.
    have hlength : (Nat.toDigits 10 n.natAbs).length ≤ 20 :=
      (Nat.length_toDigits_le_iff (by decide) (by decide)).2 (by omega)
    rw [← paddedText_zero]
    exact hpadded n 0 rest hn hn' (by omega)
  · exact ⟨(count_one h).1, consume_integerIn h⟩

theorem readsOne_of_mem {p : Predicate} {minimum maximum : Int}
    (h : (p, minimum, maximum) ∈ integerRanges) : ReadsOne p minimum maximum := by
  simp only [integerRanges, List.mem_cons, List.not_mem_nil, or_false, Prod.mk.injEq] at h
  rcases h with ⟨rfl, rfl, rfl⟩ | ⟨rfl, rfl, rfl⟩ | ⟨rfl, rfl, rfl⟩
  · exact readsOne_integerIn "<i32>" nofun (by decide) (by decide)
  · exact readsOne_integerIn "<u8>" (fun _ => Int.le_refl 0) (by decide) (by decide)
  · exact readsOne_integerIn "<usize>" (fun _ => Int.le_refl 0) (by decide) (by decide)

/-! ### Many integers -/

/-- The text is that of an integer of 32 bits. -/
abbrev DenotesInt32 : String → Int → Prop := Denotes false (-2 ^ 31) (2 ^ 31 - 1)

/-- Integers at the front are read before what stands behind them. -/
theorem readInt32s_append {front : List String} {ns : List Int}
    (h : List.Forall₂ DenotesInt32 front ns) (args : List String) :
    readInt32s (front ++ args) = (readInt32s args).map (ns.map Value.int ++ ·) := by
  induction h with
  | nil => cases hargs : readInt32s args <;> simp [hargs, Except.map]
  | @cons token n front ns hdenotes _ ih =>
    have hread : readInt32 token = .ok n := readIntegerIn_eq_ok_iff.2 hdenotes
    obtain ⟨sign, digits, hspells, -⟩ := hdenotes
    have hform : isIntegerText false token = true := (isIntegerText_iff _ _).2 ⟨_, _, hspells⟩
    rw [List.cons_append, readInt32s, if_pos hform, hread, ih]
    cases readInt32s args <;> rfl

/-- The row does not begin with an integer text. -/
def BeginsOtherwise (args : List String) : Prop :=
  ∀ token, args.head? = some token → ¬ IntegerForm false token

/-- Reading ends before the first token that is no integer text. -/
theorem readInt32s_of_stop {args : List String} (h : BeginsOtherwise args) :
    readInt32s args = .ok [] := by
  cases args with
  | nil => rfl
  | cons token args =>
    have hform : ¬ isIntegerText false token = true :=
      fun hform => h token rfl ((isIntegerText_iff _ _).1 hform)
    rw [readInt32s, if_neg hform]

/-- An integer text that is not read fails the whole. -/
theorem readInt32s_of_error {token : String} {refusal : Refusal}
    (hform : IntegerForm false token)
    (hread : readInt32 token = .error refusal) (args : List String) :
    readInt32s (token :: args) = .error refusal := by
  rw [readInt32s, if_pos ((isIntegerText_iff _ _).2 hform), hread]
  rfl

/-- A row of tokens that are integer texts, in front of one that is none or of nothing. -/
structure LongestFront (q rest : List String) : Prop where
  forms : ∀ token ∈ q, IntegerForm false token
  stop : BeginsOtherwise rest

theorem exists_longestFront (args : List String) :
    ∃ q rest, args = q ++ rest ∧ LongestFront q rest := by
  induction args with
  | nil => exact ⟨[], [], rfl, List.forall_mem_nil _, nofun⟩
  | cons token args ih =>
    by_cases hform : IntegerForm false token
    · obtain ⟨q, rest, rfl, h⟩ := ih
      exact ⟨token :: q, rest, rfl, List.forall_mem_cons.2 ⟨hform, h.forms⟩, h.stop⟩
    · refine ⟨[], token :: args, rfl, List.forall_mem_nil _, fun other hother => ?_⟩
      cases hother
      exact hform

section

variable {args : List String}

theorem consume_manyInt32_of_error {refusal : Refusal} (h : readInt32s args = .error refusal) :
    manyInt32.consume args = .error refusal := by
  simp only [manyInt32, h]
  rfl

theorem consume_manyInt32_of_nil (h : readInt32s args = .ok []) :
    ∃ reason, manyInt32.consume args = .error (.denied reason false) := by
  simp only [manyInt32, h]
  cases args with
  | nil => exact ⟨_, rfl⟩
  | cons arg args => exact ⟨_, rfl⟩

theorem consume_manyInt32_of_ok {values : List Value} (h : readInt32s args = .ok values)
    (hne : values ≠ []) : manyInt32.consume args = .ok (values.length, values) := by
  obtain ⟨value, values, rfl⟩ := List.exists_cons_of_ne_nil hne
  simp only [manyInt32, h]
  rfl

end

theorem exists_forall₂ {tokens : List String} (h : ∀ token ∈ tokens, ∃ n, DenotesInt32 token n) :
    ∃ ns, List.Forall₂ DenotesInt32 tokens ns := by
  induction tokens with
  | nil => exact ⟨[], .nil⟩
  | cons token tokens ih =>
    obtain ⟨⟨n, hn⟩, hrest⟩ := List.forall_mem_cons.1 h
    obtain ⟨ns, hns⟩ := ih hrest
    exact ⟨n :: ns, .cons hn hns⟩

/-- **Many integers, all of them read.** -/
theorem consume_manyInt32_of_denotes {q rest : List String} (h : LongestFront q rest)
    (hne : q ≠ []) {ns : List Int} (hns : List.Forall₂ DenotesInt32 q ns) :
    manyInt32.consume (q ++ rest) = .ok (q.length, ns.map .int) := by
  have hread : readInt32s (q ++ rest) = .ok (ns.map .int) := by
    rw [readInt32s_append hns, readInt32s_of_stop h.stop, Except.map, List.append_nil]
  have hlength : (ns.map Value.int).length = q.length := by
    rw [List.length_map, hns.length_eq]
  rw [consume_manyInt32_of_ok hread, hlength]
  intro hnil
  rw [hnil] at hlength
  exact hne (List.length_eq_zero_iff.1 hlength.symm)

/-- **Many integers, one of them not read.** The first that is not decides. -/
theorem consume_manyInt32_of_refused {front back rest : List String} {token : String}
    (h : LongestFront (front ++ token :: back) rest)
    (hfront : ∀ token ∈ front, ∃ n, DenotesInt32 token n) {refusal : Refusal}
    (hread : readInt32 token = .error refusal) :
    manyInt32.consume (front ++ token :: back ++ rest) = .error refusal := by
  obtain ⟨ns, hns⟩ := exists_forall₂ hfront
  have hform := h.forms token (List.mem_append_right front List.mem_cons_self)
  refine consume_manyInt32_of_error ?_
  rw [List.append_assoc, readInt32s_append hns, List.cons_append,
    readInt32s_of_error hform hread]
  rfl

/-- **Integers are read exactly.** An integer text of a range is read as the integer that it stands
for; one of too many digits is a fault, and everything else is denied. So the predicates for one
integer read the decimal text of every integer of their ranges, behind zeros too, and never give
another value. The predicate for many integers takes the tokens at the front that are integer texts,
all of them, if each is read; the first that is not makes it fail, in the way it fails itself, and
without such tokens it is denied. -/
theorem integers_read_exactly :
    (∀ text minimum maximum unsigned,
      (∀ n, readIntegerIn text minimum maximum unsigned = .ok n ↔
        Denotes unsigned minimum maximum text n) ∧
      (∀ count, Overlong unsigned text count →
        readIntegerIn text minimum maximum unsigned = .error (.fault (.tooManyDigits count)) ∧
          (Fault.tooManyDigits count).name = "ValueError") ∧
      ((∀ n, ¬ Denotes unsigned minimum maximum text n) →
        (∀ count, ¬ Overlong unsigned text count) →
        ∃ reason, readIntegerIn text minimum maximum unsigned = .error (.denied reason false))) ∧
    (∀ p minimum maximum, (p, minimum, maximum) ∈ integerRanges → ReadsOne p minimum maximum) ∧
    (∀ args, ∃ q rest, args = q ++ rest ∧ LongestFront q rest) ∧
    (∀ q rest, LongestFront q rest →
      (q = [] → ∃ reason, manyInt32.consume (q ++ rest) = .error (.denied reason false)) ∧
      (∀ front token back, q = front ++ token :: back →
        (∀ earlier ∈ front, ∃ n, DenotesInt32 earlier n) → (∀ n, ¬ DenotesInt32 token n) →
        (∀ count, Overlong false token count →
          manyInt32.consume (q ++ rest) = .error (.fault (.tooManyDigits count))) ∧
        ((∀ count, ¬ Overlong false token count) →
          ∃ reason, manyInt32.consume (q ++ rest) = .error (.denied reason false))) ∧
      (q ≠ [] → (∀ token ∈ q, ∃ n, DenotesInt32 token n) →
        ∃ ns, List.Forall₂ DenotesInt32 q ns ∧
          manyInt32.consume (q ++ rest) = .ok (q.length, ns.map .int))) := by
  refine ⟨fun text minimum maximum unsigned => ⟨fun n => readIntegerIn_eq_ok_iff, ?_, ?_⟩,
    fun p minimum maximum h => readsOne_of_mem h, exists_longestFront, fun q rest h => ⟨?_, ?_, ?_⟩⟩
  · exact fun count hlong => ⟨readIntegerIn_of_overlong hlong minimum maximum, rfl⟩
  · exact fun hdenotes hlong => readIntegerIn_denied hdenotes hlong
  · rintro rfl
    exact consume_manyInt32_of_nil (readInt32s_of_stop h.stop)
  · rintro front token back rfl hfront hdenotes
    refine ⟨fun count hlong => ?_, fun hlong => ?_⟩
    · exact consume_manyInt32_of_refused h hfront (readIntegerIn_of_overlong hlong _ _)
    · obtain ⟨reason, hread⟩ := readIntegerIn_denied hdenotes hlong
      exact ⟨reason, consume_manyInt32_of_refused h hfront hread⟩
  · intro hne hall
    obtain ⟨ns, hns⟩ := exists_forall₂ hall
    exact ⟨ns, hns, consume_manyInt32_of_denotes h hne hns⟩

/-- Zero is read from as many zeros as allowed and is a fault with one more; a minus is denied where
there is no sign. Of two integers in front of a digit that is not ASCII, the second one is out of
range and makes the whole denied. -/
theorem integers_read_exactly_edges :
    anyUInt8.consume [paddedText 4299 0] = .ok (1, [.int 0]) ∧
      readIntegerIn (paddedText 4300 0) 0 255 true = .error (.fault (.tooManyDigits 4301)) ∧
      (∃ reason, readIntegerIn "-0" 0 255 true = .error (.denied reason false)) ∧
      LongestFront ["+7", "2147483648"] ["\u0663"] ∧
      ∃ reason, manyInt32.consume ["+7", "2147483648", "\u0663"] =
        .error (.denied reason false) := by
  obtain ⟨hread, hone, -, hmany⟩ := integers_read_exactly
  have hlong : Overlong true (paddedText 4300 0) 4301 :=
    ⟨_, _, spells_paddedText (by decide) 4300,
      by rw [List.length_append, List.length_replicate]; rfl, by decide⟩
  have hminus : ¬ IntegerForm true "-0" :=
    (isIntegerText_iff true "-0").not.1 (by decide +kernel)
  have hfront : LongestFront ["+7", "2147483648"] ["\u0663"] := by
    refine ⟨fun token htoken => ?_, fun token htoken => ?_⟩
    · refine (isIntegerText_iff false token).1 ?_
      revert token
      decide +kernel
    · cases htoken
      exact (isIntegerText_iff false "\u0663").not.1 (by decide +kernel)
  have hseven : DenotesInt32 "+7" 7 := ((hread "+7" _ _ false).1 7).1 (by decide +kernel)
  obtain ⟨hok, hfault, -⟩ := hread "2147483648" (-2 ^ 31) (2 ^ 31 - 1) false
  have hbeyond : readIntegerIn "2147483648" (-2 ^ 31) (2 ^ 31 - 1) false =
      .error (.because "2147483648 (out of range)") := by decide +kernel
  have hunread : ∀ n, ¬ DenotesInt32 "2147483648" n := by
    intro n hn
    cases hbeyond.symm.trans ((hok n).2 hn)
  have hshort : ∀ count, ¬ Overlong false "2147483648" count := by
    intro count hcount
    cases hbeyond.symm.trans (hfault count hcount).1
  refine ⟨?_, ((hread _ 0 255 true).2.1 4301 hlong).1, ?_, hfront, ?_⟩
  · refine (hone anyUInt8 0 (2 ^ 8 - 1) (by simp [integerRanges])).padded 0 4299 [] (by decide)
      (by decide) ?_
    decide +kernel
  · refine (hread "-0" 0 255 true).2.2 (fun n hn => ?_) fun count hlong => ?_
    · obtain ⟨sign, digits, hspells, -⟩ := hn
      exact hminus ⟨sign, digits, hspells⟩
    · obtain ⟨sign, digits, hspells, -⟩ := hlong
      exact hminus ⟨sign, digits, hspells⟩
  · obtain ⟨-, hrefused, -⟩ := hmany _ _ hfront
    refine (hrefused ["+7"] "2147483648" [] rfl ?_ hunread).2 hshort
    intro earlier hearlier
    cases List.mem_singleton.1 hearlier
    exact ⟨7, hseven⟩

end Predicate

end CommandShell
