import CommandShell.Proofs.ErrorOrder
import CommandShell.Proofs.SingleStatement

/-!
# Calls of a scanner

A scanner can be asked for its next statement, and in between for the characters ahead, for an
excerpt, or to move past blank characters. Whatever is asked in whatever order, it only moves
forward, and the statements that it gives are those of its text, one after the other.

* `next_cases` — **what is left to find** is one statement less behind each one that is given;
* `perform_position` — one call moves the scanner forward, and not beyond the text;
* `performAll_remaining` — what calls in a row give is taken from what was left to find;
* `exhaust` — the loop that asks for statements until there are no more;
* `calls_keep_statements` — calls and the loop on a text within the limit.
-/

namespace CommandShell

/-! ### The lexemes behind a newline -/

/-- The text `cs` at position `p` has a newline at position `n`, and the lexemes behind it are those
of the characters behind it. -/
def NewlineAhead (p n : Nat) (cs : List Char) (later : List Lexeme) : Prop :=
  ∃ read more, cs = read ++ '\n' :: more ∧ n = p + read.length ∧ later = Lexeme.cut (n + 1) more

theorem NewlineAhead.of_append {p n : Nat} (piece : List Char) {cs : List Char}
    {later : List Lexeme} (h : NewlineAhead (p + piece.length) n cs later) :
    NewlineAhead p n (piece ++ cs) later := by
  obtain ⟨read, more, rfl, hn, hlater⟩ := h
  refine ⟨piece ++ read, more, (List.append_assoc _ _ _).symm, ?_, hlater⟩
  rw [hn, List.length_append, Nat.add_assoc]

/-- A newline among the lexemes of a text is a newline of the text. -/
theorem newlineAhead_of_cut {p n : Nat} {cs : List Char} {front later : List Lexeme}
    (h : Lexeme.cut p cs = front ++ .newline n :: later) : NewlineAhead p n cs later := by
  -- Behind another lexeme, the newline is one of the lexemes of the rest.
  have hrest : ∀ {l : Lexeme} {ls front : List Lexeme}, l.isNewline = false →
      l :: ls = front ++ .newline n :: later → ∃ front, ls = front ++ .newline n :: later := by
    intro l ls front hl h
    cases front with
    | nil =>
      obtain ⟨rfl, -⟩ := List.cons.inj h
      cases hl
    | cons first front => exact ⟨front, (List.cons.inj h).2⟩
  induction cs using scan_induction generalizing p front with
  | nil =>
    rw [Lexeme.cut_nil] at h
    exact absurd h.symm (List.append_ne_nil_of_right_ne_nil front (List.cons_ne_nil _ _))
  | newline cs ih =>
    rw [Lexeme.cut_newline] at h
    cases front with
    | nil =>
      obtain ⟨hn, rfl⟩ := List.cons.inj h
      cases hn
      exact ⟨[], cs, rfl, rfl, rfl⟩
    | cons first front => exact .of_append ['\n'] (ih (List.cons.inj h).2)
  | blank c cs hb hn ih =>
    rw [Lexeme.cut_blank hb hn] at h
    exact .of_append [c] (ih h)
  | opening cs ho ih =>
    rw [Lexeme.cut_opening ho] at h
    obtain ⟨front, hfront⟩ := hrest rfl h
    exact .of_append ['('] (ih hfront)
  | closing cs ih =>
    rw [Lexeme.cut_closing] at h
    obtain ⟨front, hfront⟩ := hrest rfl h
    exact .of_append [')'] (ih hfront)
  | literal raw cs hraw ih =>
    rw [Lexeme.cut_literal hraw] at h
    obtain ⟨front, hfront⟩ := hrest rfl h
    rw [← region_append]
    have hlength : p + 2 + raw.length + 1 = p + (region raw).length := by
      rw [length_region, ← Nat.add_assoc, ← Nat.add_assoc]
    rw [hlength] at hfront
    exact .of_append (region raw) (ih hfront)
  | unclosed cs e he =>
    rw [Lexeme.cut_unclosed he] at h
    obtain ⟨front, hfront⟩ := hrest rfl h
    exact absurd hfront.symm (List.append_ne_nil_of_right_ne_nil front (List.cons_ne_nil _ _))
  | word w cs hw he ih =>
    rw [Lexeme.cut_word hw he] at h
    obtain ⟨front, hfront⟩ := hrest rfl h
    exact .of_append w (ih hfront)

/-- Newlines in front do not change which statements are found. -/
theorem statements_dropWhile_newline (ls : List Lexeme) :
    statements (ls.dropWhile Lexeme.isNewline) = statements ls := by
  induction ls with
  | nil => rfl
  | cons l ls ih =>
    cases l with
    | newline p => rw [List.dropWhile_cons_of_pos rfl, ih, statements_newline]
    | _ => rw [List.dropWhile_cons_of_neg (by exact Bool.false_ne_true)]

namespace Scanner

/-! ### What is left to find -/

/-- The statements that are left to find, and the position of a literal that is not closed. -/
def remaining (s : Scanner) : List (List Token) × Option Nat :=
  statements (Lexeme.cut s.position s.rest)

/-- The scanner at the end of its text. -/
def toEnd (s : Scanner) : Scanner := { s with position := s.position + s.rest.length }

theorem length_rest (s : Scanner) : s.rest.length = s.text.length - s.position := by
  rw [rest, List.length_drop, String.length_toList]

theorem toEnd_position {s : Scanner} (h : s.position ≤ s.text.length) :
    s.toEnd.position = s.text.length := by
  show s.position + s.rest.length = s.text.length
  rw [length_rest, Nat.add_sub_cancel' h]

theorem remaining_toEnd (s : Scanner) : s.toEnd.remaining = ([], none) := by
  have hrest : s.toEnd.rest = [] := by
    show s.text.toList.drop (s.position + s.rest.length) = []
    rw [← List.drop_drop]
    exact List.drop_length
  rw [remaining, hrest, Lexeme.cut_nil, statements_eq_nil_iff]
  rfl

/-- Moving past blank characters leaves the same statements to find. -/
theorem remaining_skipBlanks (s : Scanner) : s.skipBlanks.remaining = s.remaining := by
  have hrest : s.skipBlanks.rest = s.rest.dropWhile isBlank := by
    rw [rest, skipBlanks, ← List.drop_drop]
    exact drop_length_takeWhile s.rest
  rw [remaining, remaining, hrest, ← statements_dropWhile_newline (Lexeme.cut s.position s.rest),
    Lexeme.dropWhile_newline_cut]
  rfl

/-- **The next statement.** There is a literal that is not closed before the end of the next
statement, or there is no statement left, or the first one that is left is given. Then the scanner
has moved forward, and the others are left. -/
theorem next_cases (s : Scanner) :
    (∃ q : Nat, s.next = (.error (.pointing s.text .unclosedLiteral q), s.toEnd) ∧
        s.remaining = ([], some q)) ∨
      (s.next = (.ok none, s.toEnd) ∧ s.remaining = ([], none)) ∨
      ∃ tokens s', s.next = (.ok (some tokens), s') ∧ s'.text = s.text ∧
        s.position < s'.position ∧ s'.position ≤ s.text.length ∧
        s.remaining = (tokens :: s'.remaining.1, s'.remaining.2) := by
  have hlength := s.length_rest
  rw [remaining, statements_eq_next, next]
  rcases hnext : nextStatement (Lexeme.cut s.position s.rest) with
    q | _ | ⟨tokens, _ | ⟨q, later⟩⟩
  · exact .inl ⟨q, rfl, rfl⟩
  · exact .inr (.inl ⟨rfl, rfl⟩)
  · -- Without characters there would be no statement.
    have hne : s.rest ≠ [] := by
      intro hrest
      rw [hrest, Lexeme.cut_nil] at hnext
      cases hnext
    have hpos := List.length_pos_iff.2 hne
    refine .inr (.inr ⟨tokens, s.toEnd, rfl, rfl, Nat.lt_add_of_pos_right hpos, ?_, ?_⟩)
    · exact Nat.le_of_eq (toEnd_position (by omega))
    · rw [remaining_toEnd]
  · obtain ⟨front, -, -, n, rfl, hleaves⟩ := nextStatement_ok hnext
    have hcut : Lexeme.cut s.position s.rest =
        ((Lexeme.cut s.position s.rest).takeWhile Lexeme.isNewline ++ front) ++
          .newline n :: later := by
      rw [List.append_assoc, ← hleaves, List.takeWhile_append_dropWhile]
    obtain ⟨read, more, hread, rfl, rfl⟩ := newlineAhead_of_cut hcut
    have hmore : s.text.toList.drop (s.position + read.length + 1) = more :=
      drop_succ_of_drop (drop_add_of_drop hread)
    rw [hread, List.length_append, List.length_cons] at hlength
    refine .inr (.inr ⟨tokens, _, rfl, rfl, ?_, ?_, ?_⟩)
    · show s.position < s.position + read.length + 1
      omega
    · show s.position + read.length + 1 ≤ s.text.length
      omega
    · rw [remaining, rest]
      dsimp only
      rw [hmore]

theorem next_error {s : Scanner} {e : ParseError} (h : s.next.1 = .error e) :
    ∃ q : Nat, e = .pointing s.text .unclosedLiteral q ∧ s.remaining = ([], some q) := by
  rcases s.next_cases with ⟨q, hnext, hleft⟩ | ⟨hnext, -⟩ | ⟨_, _, hnext, -⟩
  · rw [hnext] at h
    cases h
    exact ⟨q, rfl, hleft⟩
  all_goals
    rw [hnext] at h
    cases h

theorem next_none {s : Scanner} (h : s.next.1 = .ok none) : s.remaining = ([], none) := by
  rcases s.next_cases with ⟨_, hnext, -⟩ | ⟨-, hleft⟩ | ⟨_, _, hnext, -⟩
  · rw [hnext] at h
    cases h
  · exact hleft
  · rw [hnext] at h
    cases h

theorem next_some {s s' : Scanner} {tokens : List Token} (h : s.next = (.ok (some tokens), s')) :
    s'.text = s.text ∧ s.position < s'.position ∧ s'.position ≤ s.text.length ∧
      s.remaining = (tokens :: s'.remaining.1, s'.remaining.2) := by
  rcases s.next_cases with ⟨_, hnext, -⟩ | ⟨hnext, -⟩ | ⟨_, _, hnext, hmoved⟩
  all_goals
    rw [hnext] at h
    cases h
  exact hmoved

end Scanner

/-! ### Calls -/

/-- What a scanner can be asked for. -/
inductive ScannerCall where
  | peek (length : Int)
  | skipBlanks
  | excerpt (position : Option Int) (reach : Int)
  | atEnd
  | next

/-- What a scanner answers. -/
inductive ScannerAnswer where
  | nothing
  | text (found : String)
  | truth (holds : Bool)
  | statement (result : Except ParseError (Option (List Token)))

namespace ScannerAnswer

/-- The statement that is given. -/
def tokens? : ScannerAnswer → Option (List Token)
  | statement (.ok found) => found
  | _ => none

/-- The error that is raised. -/
def error? : ScannerAnswer → Option ParseError
  | statement (.error e) => some e
  | _ => none

end ScannerAnswer

/-- The statements that are given among answers, in order. -/
def givenStatements (answers : List ScannerAnswer) : List (List Token) :=
  answers.filterMap ScannerAnswer.tokens?

/-- No answer is an error. -/
def NoError (answers : List ScannerAnswer) : Prop := ∀ a ∈ answers, a.error? = none

namespace Scanner

/-- Answers a call. -/
def perform (s : Scanner) : ScannerCall → ScannerAnswer × Scanner
  | .peek length => (.text (s.peek length), s)
  | .skipBlanks => (.nothing, s.skipBlanks)
  | .excerpt position reach => (.text (s.excerpt position reach), s)
  | .atEnd => (.truth s.atEnd.1, s.atEnd.2)
  | .next => (.statement s.next.1, s.next.2)

/-- Answers calls in order. -/
def performAll : List ScannerCall → Scanner → List ScannerAnswer × Scanner
  | [], s => ([], s)
  | call :: calls, s =>
    ((s.perform call).1 :: (performAll calls (s.perform call).2).1,
      (performAll calls (s.perform call).2).2)

/-- `Within text s`: the scanner reads the text and is not beyond its end. -/
structure Within (text : String) (s : Scanner) : Prop where
  same : s.text = text
  le : s.position ≤ text.length

theorem within_toEnd {text : String} {s : Scanner} (h : Within text s) :
    s.position ≤ s.toEnd.position ∧ Within text s.toEnd := by
  obtain ⟨rfl, hle⟩ := h
  rw [toEnd_position hle]
  exact ⟨hle, rfl, Nat.le_of_eq (toEnd_position hle)⟩

theorem within_skipBlanks {text : String} {s : Scanner} (h : Within text s) :
    s.position ≤ s.skipBlanks.position ∧ Within text s.skipBlanks := by
  obtain ⟨rfl, hle⟩ := h
  have hrun := (List.takeWhile_sublist isBlank (l := s.rest)).length_le
  rw [length_rest] at hrun
  refine ⟨Nat.le_add_right _ _, rfl, ?_⟩
  show s.position + (s.rest.takeWhile isBlank).length ≤ s.text.length
  omega

theorem within_next {text : String} {s : Scanner} (h : Within text s) :
    s.position ≤ s.next.2.position ∧ Within text s.next.2 := by
  rcases s.next_cases with ⟨q, hnext, -⟩ | ⟨hnext, -⟩ | ⟨tokens, s', hnext, hsame, hlt, hle, -⟩
  · rw [hnext]
    exact within_toEnd h
  · rw [hnext]
    exact within_toEnd h
  · rw [hnext]
    obtain ⟨rfl, -⟩ := h
    exact ⟨Nat.le_of_lt hlt, hsame, hle⟩

/-- **One call** moves a scanner forward, and not beyond its text. -/
theorem perform_position {text : String} {s : Scanner} (h : Within text s) (call : ScannerCall) :
    s.position ≤ (s.perform call).2.position ∧ Within text (s.perform call).2 := by
  cases call with
  | peek length => exact ⟨Nat.le_refl _, h⟩
  | skipBlanks => exact within_skipBlanks h
  | excerpt position reach => exact ⟨Nat.le_refl _, h⟩
  | atEnd => exact within_skipBlanks h
  | next => exact within_next h

/-- **Calls in a row** move it forward, and not beyond its text. -/
theorem performAll_position {text : String} {s : Scanner} (h : Within text s)
    (calls : List ScannerCall) :
    s.position ≤ (performAll calls s).2.position ∧ Within text (performAll calls s).2 := by
  induction calls generalizing s with
  | nil => exact ⟨Nat.le_refl _, h⟩
  | cons call calls ih =>
    obtain ⟨hle, hwithin⟩ := perform_position h call
    obtain ⟨hle', hwithin'⟩ := ih hwithin
    exact ⟨Nat.le_trans hle hle', hwithin'⟩

/-- What one call does to what is left to find: nothing, or it gives the first statement that is
left, or it raises the error that is left, and then nothing is. -/
theorem perform_remaining (s : Scanner) (call : ScannerCall) :
    ((s.perform call).1.tokens? = none ∧ (s.perform call).1.error? = none ∧
        (s.perform call).2.remaining = s.remaining) ∨
      (∃ tokens, (s.perform call).1.tokens? = some tokens ∧ (s.perform call).1.error? = none ∧
        s.remaining =
          (tokens :: (s.perform call).2.remaining.1, (s.perform call).2.remaining.2)) ∨
      ((s.perform call).1.tokens? = none ∧ (s.perform call).1.error? ≠ none ∧
        s.remaining.1 = [] ∧ (s.perform call).2.remaining = ([], none)) := by
  cases call with
  | peek length => exact .inl ⟨rfl, rfl, rfl⟩
  | skipBlanks => exact .inl ⟨rfl, rfl, remaining_skipBlanks s⟩
  | excerpt position reach => exact .inl ⟨rfl, rfl, rfl⟩
  | atEnd => exact .inl ⟨rfl, rfl, remaining_skipBlanks s⟩
  | next =>
    rw [perform]
    rcases s.next_cases with
      ⟨q, hnext, hleft⟩ | ⟨hnext, hleft⟩ | ⟨tokens, s', hnext, -, -, -, hleft⟩
    · rw [hnext, hleft]
      exact .inr (.inr ⟨rfl, nofun, rfl, remaining_toEnd s⟩)
    · rw [hnext, hleft]
      exact .inl ⟨rfl, rfl, remaining_toEnd s⟩
    · rw [hnext]
      exact .inr (.inl ⟨tokens, rfl, rfl, hleft⟩)

/-- **What calls give.** The statements that calls give are the first ones that were left. As long
as no error is raised, they and what is left behind the calls are what was left. -/
theorem performAll_remaining (calls : List ScannerCall) (s : Scanner) :
    givenStatements (performAll calls s).1 <+: s.remaining.1 ∧
      (NoError (performAll calls s).1 →
        s.remaining =
          (givenStatements (performAll calls s).1 ++ (performAll calls s).2.remaining.1,
            (performAll calls s).2.remaining.2)) := by
  induction calls generalizing s with
  | nil =>
    refine ⟨?_, fun _ => rfl⟩
    exact List.nil_prefix
  | cons call calls ih =>
    obtain ⟨hgiven, hall⟩ := ih (s.perform call).2
    rw [performAll, givenStatements, NoError, List.forall_mem_cons]
    rcases perform_remaining s call with
      ⟨hnone, hnoError, hleft⟩ | ⟨tokens, hsome, hnoError, hleft⟩ | ⟨hnone, herror, hleft, hend⟩
    · rw [List.filterMap_cons_none hnone, ← hleft]
      exact ⟨hgiven, fun h => hall h.2⟩
    · rw [List.filterMap_cons_some hsome, hleft]
      refine ⟨List.cons_prefix_cons.2 ⟨rfl, hgiven⟩, fun h => ?_⟩
      rw [hall h.2]
      rfl
    · -- Nothing is left behind the error, so nothing more is given.
      rw [hend] at hgiven
      rw [List.filterMap_cons_none hnone]
      exact ⟨hgiven.trans List.nil_prefix, fun h => absurd h.1 herror⟩

/-! ### The loop -/

/-- Asks for statements until there are no more or an error is raised; gives the statements, the
error and the number of times that it asked. -/
def exhaust (s : Scanner) : List (List Token) × Option ParseError × Nat :=
  match _hnext : s.next with
  | (.error e, _) => ([], some e, 1)
  | (.ok none, _) => ([], none, 1)
  | (.ok (some tokens), s') =>
    let (others, error, calls) := exhaust s'
    (tokens :: others, error, calls + 1)
termination_by s.text.length - s.position
decreasing_by
  obtain ⟨hsame, hlt, hle, -⟩ := next_some _hnext
  rw [hsame]
  omega

/-- **The loop** finds what is left, and asks at most once for each character and once more. -/
theorem exhaust_eq {text : String} {s : Scanner} (h : Within text s) :
    ∃ calls ≤ text.length - s.position + 1, s.exhaust =
      (s.remaining.1, s.remaining.2.map fun q => .pointing text .unclosedLiteral q, calls) := by
  obtain ⟨rfl, hle⟩ := h
  fun_induction exhaust s with
  | case1 s e _ hnext =>
    obtain ⟨q, rfl, hleft⟩ := next_error (congrArg Prod.fst hnext)
    rw [hleft]
    exact ⟨1, Nat.le_add_left 1 _, rfl⟩
  | case2 s _ hnext =>
    rw [next_none (congrArg Prod.fst hnext)]
    exact ⟨1, Nat.le_add_left 1 _, rfl⟩
  | case3 s tokens s' hnext others error calls hrest ih =>
    obtain ⟨hsame, hlt, hle', hleft⟩ := next_some hnext
    rw [hsame] at ih
    obtain ⟨n, hn, hexhaust⟩ := ih hle'
    rw [hrest] at hexhaust
    cases hexhaust
    rw [hleft]
    exact ⟨calls + 1, by omega, rfl⟩

/-- **Calls of a scanner.** Take a text within the limit, and whatever calls of a scanner on it, in
whatever order. The next call moves the scanner forward, and not beyond the text, and if it gives a
statement, it does move. The statements that calls give are the first ones of the text. When an
error is raised for the first time, the text has these statements and then this error, and when no
statement is left, it has these statements and no error. The loop over all statements has the
statements of the text and its error, and asks for a statement at most once for each character and
once more. -/
theorem calls_keep_statements (text : String) (maximum : Int) (h : text.length ≤ maximum) :
    let all := textStatements text maximum
    ofText text maximum = .ok { text } ∧
      (∀ calls : List ScannerCall,
        let answers := (performAll calls { text }).1
        let s := (performAll calls { text }).2
        (∀ call, s.position ≤ (s.perform call).2.position ∧
          (s.perform call).2.position ≤ text.length) ∧
          (∀ tokens, s.next.1 = .ok (some tokens) → s.position < s.next.2.position) ∧
          givenStatements answers <+: all.1 ∧
          (NoError answers → ∀ error, s.next.1 = .error error →
            all = (givenStatements answers, some error)) ∧
          (NoError answers → s.next.1 = .ok none → all = (givenStatements answers, none))) ∧
      ∃ n ≤ text.length + 1, exhaust { text } = (all.1, all.2, n) := by
  intro all
  have hstart : Within text { text } := ⟨rfl, Nat.zero_le _⟩
  have hall : all = (({ text } : Scanner).remaining.1,
      ({ text } : Scanner).remaining.2.map fun q => .pointing text .unclosedLiteral q) :=
    textStatements_within h
  refine ⟨?_, fun calls => ?_, ?_⟩
  · rw [ofText, (checkLength_eq_ok_iff text maximum).2 h]
    rfl
  · intro answers s
    obtain ⟨-, hwithin⟩ := performAll_position hstart calls
    obtain ⟨hgiven, hleft⟩ := performAll_remaining calls { text }
    have hsame : s.text = text := hwithin.same
    refine ⟨fun call => ?_, fun tokens htokens => ?_, ?_, fun hno error herror => ?_,
      fun hno hnone => ?_⟩
    · obtain ⟨hle, hwithin'⟩ := perform_position hwithin call
      exact ⟨hle, hwithin'.le⟩
    · exact (next_some (Prod.ext htokens rfl)).2.1
    · rw [hall]
      exact hgiven
    · obtain ⟨q, rfl, hend⟩ := next_error herror
      rw [hall, hleft hno, hsame]
      show (_ ++ s.remaining.1, s.remaining.2.map _) = _
      rw [hend, List.append_nil]
      rfl
    · rw [hall, hleft hno]
      show (_ ++ s.remaining.1, s.remaining.2.map _) = _
      rw [next_none hnone, List.append_nil]
      rfl
  · obtain ⟨n, hn, hexhaust⟩ := exhaust_eq hstart
    rw [hall]
    exact ⟨n, hn, hexhaust⟩

/-- A statement over two lines between blank lines, and a literal that is not closed. -/
def brokenText : String := "a\n\n b (c\n)\n(#d"

/-- Calls of all kinds that read the two statements in front of the literal. -/
def mixedReading : List ScannerCall :=
  [.atEnd, .next, .peek 2, .skipBlanks, .excerpt none 4, .next, .atEnd]

/-- The calls give both statements. The next call raises the error that ends the statements of the
text, and the loop meets it within fifteen calls. -/
theorem calls_keep_statements_broken :
    (brokenText.length : Int) ≤ 20 ∧
      (∃ error,
        textStatements brokenText 20 =
          ([[.word "a" 0], [.word "b" 4, .opening 6, .word "c" 7, .closing 9]], some error) ∧
        (performAll mixedReading { text := brokenText }).2.next.1 = .error error) ∧
      ∃ n ≤ 15, exhaust { text := brokenText } =
        ((textStatements brokenText 20).1, (textStatements brokenText 20).2, n) := by
  have hlen : (brokenText.length : Int) ≤ 20 := by decide
  have hgiven : givenStatements (performAll mixedReading { text := brokenText }).1 =
      [[.word "a" 0], [.word "b" 4, .opening 6, .word "c" 7, .closing 9]] := by decide +kernel
  have hno : NoError (performAll mixedReading { text := brokenText }).1 := by
    unfold NoError
    decide +kernel
  have hraised : (performAll mixedReading { text := brokenText }).2.next.1.isOk = false := by
    decide +kernel
  obtain ⟨-, hcalls, hloop⟩ := calls_keep_statements brokenText 20 hlen
  obtain ⟨-, -, -, herror, -⟩ := hcalls mixedReading
  refine ⟨hlen, ?_, hloop⟩
  cases hnext : (performAll mixedReading { text := brokenText }).2.next.1 with
  | error error =>
    refine ⟨error, ?_, rfl⟩
    rw [herror hno error hnext, hgiven]
  | ok found =>
    rw [hnext] at hraised
    cases hraised

end Scanner

end CommandShell
