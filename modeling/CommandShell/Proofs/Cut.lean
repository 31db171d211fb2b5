import CommandShell.Proofs.Balance
import CommandShell.Token.Statement

/-!
# Cutting texts into lexemes

`Lexeme.cut` is described by one equation per kind of lexeme. The equations speak of the text as it
is read: a word is a run of word characters that cannot be continued, a literal region is `(#`, a
balanced text and the parenthesis that closes it, and a parenthesis opens only where no marker
follows it.

Together they give an induction principle, `scan_induction`: what holds of the empty text and is
kept by putting any one piece in front holds of every text. All statements about arbitrary texts
are proved along it.
-/

namespace CommandShell

/-! ### Words and blanks -/

/-- The characters of a word. -/
structure IsWord (w : List Char) : Prop where
  nonempty : w ≠ []
  chars : ∀ c ∈ w, isWordChar c = true

instance : DecidablePred IsWord := fun w =>
  decidable_of_iff (w ≠ [] ∧ w.all isWordChar = true)
    ⟨fun h => ⟨h.1, List.all_eq_true.1 h.2⟩, fun h => ⟨h.nonempty, List.all_eq_true.2 h.chars⟩⟩

/-- A text in front of which a word ends. -/
def EndsWord (cs : List Char) : Prop := ∀ c, cs.head? = some c → isWordChar c = false

/-- A run of blank characters, newlines included. -/
def IsBlankRun (cs : List Char) : Prop := ∀ c ∈ cs, isBlank c = true

theorem isPlainWord_iff (text : String) : isPlainWord text = true ↔ IsWord text.toList := by
  rw [isPlainWord, Bool.and_eq_true, List.all_eq_true]
  constructor
  · rintro ⟨hne, hall⟩
    refine ⟨fun h => ?_, hall⟩
    rw [String.toList_eq_nil_iff] at h
    simp [h] at hne
  · intro h
    refine ⟨?_, h.chars⟩
    have : text ≠ "" := fun he => h.nonempty (by rw [he]; rfl)
    simpa using this

theorem isWordChar_iff (c : Char) :
    isWordChar c = true ↔ isBlank c = false ∧ c ≠ '(' ∧ c ≠ ')' := by
  simp [isWordChar, and_assoc]

theorem not_isWordChar_of_isBlank {c : Char} (h : isBlank c = true) : isWordChar c = false := by
  simp [isWordChar, h]

theorem ne_newline_of_isWordChar {c : Char} (h : isWordChar c = true) : c ≠ '\n' := by
  rintro rfl
  rw [isWordChar_iff, isBlank_newline] at h
  cases h.1

theorem ne_paren_of_isBlank {c : Char} (h : isBlank c = true) : c ≠ '(' ∧ c ≠ ')' := by
  constructor
  · rintro rfl
    rw [isBlank_open] at h
    cases h
  · rintro rfl
    rw [isBlank_close] at h
    cases h

theorem endsWord_nil : EndsWord [] := fun _ h => by cases h

theorem endsWord_cons {c : Char} {cs : List Char} : EndsWord (c :: cs) ↔ isWordChar c = false := by
  simp [EndsWord]

theorem IsWord.charSide {w : List Char} (h : IsWord w) : ∀ c ∈ w, charSide c = .neither := by
  intro c hc
  obtain ⟨_, ho, hcl⟩ := (isWordChar_iff c).1 (h.chars c hc)
  exact charSide_of_ne ho hcl

theorem IsBlankRun.charSide {cs : List Char} (h : IsBlankRun cs) :
    ∀ c ∈ cs, charSide c = .neither := by
  intro c hc
  obtain ⟨ho, hcl⟩ := ne_paren_of_isBlank (h c hc)
  exact charSide_of_ne ho hcl

/-- A word has a first character, and it is a word character. -/
theorem IsWord.exists_cons {w : List Char} (h : IsWord w) :
    ∃ c w', w = c :: w' ∧ isWordChar c = true := by
  cases w with
  | nil => exact absurd rfl h.nonempty
  | cons c w' => exact ⟨c, w', rfl, h.chars c List.mem_cons_self⟩

/-- The longest run of word characters is followed by a text in front of which a word ends. -/
theorem endsWord_dropWhile (cs : List Char) : EndsWord (cs.dropWhile isWordChar) := by
  intro c hc
  have := List.head?_dropWhile_not isWordChar cs
  rw [hc] at this
  simpa using this

theorem takeWhile_word {w cs : List Char} (hw : ∀ c ∈ w, isWordChar c = true)
    (he : EndsWord cs) : (w ++ cs).takeWhile isWordChar = w := by
  rw [List.takeWhile_append_of_pos hw]
  cases cs with
  | nil => simp
  | cons c cs => rw [List.takeWhile_cons, endsWord_cons.1 he]; simp

theorem dropWhile_word {w cs : List Char} (hw : ∀ c ∈ w, isWordChar c = true)
    (he : EndsWord cs) : (w ++ cs).dropWhile isWordChar = cs := by
  rw [List.dropWhile_append_of_pos hw]
  cases cs with
  | nil => rfl
  | cons c cs => rw [List.dropWhile_cons, endsWord_cons.1 he]; simp

namespace Lexeme

/-! ### One equation per kind of lexeme -/

@[simp] theorem cut_nil (p : Nat) : cut p [] = [] := by rw [cut]

theorem cut_newline (p : Nat) (cs : List Char) :
    cut p ('\n' :: cs) = newline p :: cut (p + 1) cs := by
  rw [cut]
  · rw [if_pos rfl]
  · intro cs' h
    cases h

theorem cut_blank {c : Char} (hb : isBlank c = true) (hn : c ≠ '\n') (p : Nat) (cs : List Char) :
    cut p (c :: cs) = cut (p + 1) cs := by
  rw [cut]
  · rw [if_neg hn, if_pos hb]
  · rintro cs' rfl
    exact absurd rfl (ne_paren_of_isBlank hb).1

theorem cut_opening {cs : List Char} (h : cs.head? ≠ some '#') (p : Nat) :
    cut p ('(' :: cs) = opening p :: cut (p + 1) cs := by
  rw [cut]
  · simp [isBlank_open]
  · rintro cs' _ rfl
    exact h rfl

theorem cut_closing (p : Nat) (cs : List Char) :
    cut p (')' :: cs) = closing p :: cut (p + 1) cs := by
  rw [cut]
  · simp [isBlank_close]
  · intro cs' h
    cases h

theorem cut_literal {raw : List Char} (h : Balanced raw) (p : Nat) (cs : List Char) :
    cut p ('(' :: '#' :: (raw ++ ')' :: cs)) =
      literal (String.ofList raw) p :: cut (p + 2 + raw.length + 1) cs := by
  rw [cut]
  split
  · rename_i body rest hs
    rw [splitLiteral_of_balanced h] at hs
    cases hs
    rfl
  · rename_i hs
    rw [splitLiteral_of_balanced h] at hs
    cases hs

theorem cut_unclosed {cs : List Char} {e : Nat} (h : nesting charSide 0 cs = some e) (p : Nat) :
    cut p ('(' :: '#' :: cs) = [unclosed p] := by
  have hnone : splitLiteral 0 [] cs = none := (splitLiteral_eq_none_iff 0 [] cs).2 ⟨e, h⟩
  rw [cut]
  split
  · rename_i body rest hs
    rw [hnone] at hs
    cases hs
  · rfl

theorem cut_word {w cs : List Char} (hw : IsWord w) (he : EndsWord cs) (p : Nat) :
    cut p (w ++ cs) = word (String.ofList w) p :: cut (p + w.length) cs := by
  obtain ⟨c, w', rfl, hc⟩ := hw.exists_cons
  obtain ⟨hb, ho, hcl⟩ := (isWordChar_iff c).1 hc
  have hw' : ∀ c ∈ w', isWordChar c = true := fun d hd => hw.chars d (List.mem_cons_of_mem c hd)
  rw [List.cons_append, cut]
  · rw [if_neg (ne_newline_of_isWordChar hc), if_neg (by simp [hb]), if_neg ho, if_neg hcl,
      takeWhile_word hw' he, dropWhile_word hw' he]
  · rintro cs' rfl
    exact absurd rfl ho

end Lexeme

/-! ### Induction along the pieces of a text -/

/-- **Induction along a text.** What holds of the empty text and is kept by putting one piece in
front holds of every text; an unclosed literal region is always the last piece. -/
@[elab_as_elim]
theorem scan_induction {motive : List Char → Prop}
    (nil : motive [])
    (newline : ∀ cs, motive cs → motive ('\n' :: cs))
    (blank : ∀ c cs, isBlank c = true → c ≠ '\n' → motive cs → motive (c :: cs))
    (opening : ∀ cs, cs.head? ≠ some '#' → motive cs → motive ('(' :: cs))
    (closing : ∀ cs, motive cs → motive (')' :: cs))
    (literal : ∀ raw cs, Balanced raw → motive cs → motive ('(' :: '#' :: (raw ++ ')' :: cs)))
    (unclosed : ∀ cs e, nesting charSide 0 cs = some e → motive ('(' :: '#' :: cs))
    (word : ∀ w cs, IsWord w → EndsWord cs → motive cs → motive (w ++ cs))
    (cs : List Char) : motive cs := by
  -- The pieces differ in length, so the induction is on the length of what is left.
  induction hn : cs.length using Nat.strongRecOn generalizing cs with
  | ind n ih =>
    subst hn
    cases cs with
    | nil => exact nil
    | cons c cs =>
      have hcs : motive cs := ih cs.length (by simp) cs rfl
      by_cases hnl : c = '\n'
      · rw [hnl]
        exact newline cs hcs
      by_cases hb : isBlank c = true
      · exact blank c cs hb hnl hcs
      by_cases hcl : c = ')'
      · rw [hcl]
        exact closing cs hcs
      by_cases ho : c = '('
      · subst ho
        by_cases hh : cs.head? = some '#'
        · obtain ⟨cs', rfl⟩ := List.head?_eq_some_iff.1 hh
          cases hs : Lexeme.splitLiteral 0 [] cs' with
          | none =>
            obtain ⟨e, he⟩ := (Lexeme.splitLiteral_eq_none_iff 0 [] cs').1 hs
            exact unclosed cs' e he
          | some found =>
            obtain ⟨body, rest⟩ := found
            obtain ⟨raw, -, rfl, hraw⟩ := (Lexeme.splitLiteral_eq_some_iff 0 [] _ _ _).1 hs
            refine literal raw rest ((balanced_iff_nesting raw).2 hraw) ?_
            exact ih rest.length (by simp only [List.length_cons, List.length_append]; omega) rest rfl
        · exact opening cs hh hcs
      · have hc : isWordChar c = true := (isWordChar_iff c).2 ⟨by simpa using hb, ho, hcl⟩
        have hrest := ih (cs.dropWhile isWordChar).length
          (Nat.lt_succ_of_le (Lexeme.length_dropWhile_le isWordChar cs)) _ rfl
        have hw : IsWord (c :: cs.takeWhile isWordChar) := by
          refine ⟨List.cons_ne_nil _ _, fun d hd => ?_⟩
          rcases List.mem_cons.1 hd with rfl | hd
          · exact hc
          · exact List.all_eq_true.1 (List.all_takeWhile (p := isWordChar) (l := cs)) d hd
        have := word _ _ hw (endsWord_dropWhile cs) hrest
        rwa [List.cons_append, List.takeWhile_append_dropWhile] at this

end CommandShell
