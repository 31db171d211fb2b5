import CommandShell.Stream.Server

/-!
# Decoding

A decoder takes bytes one at a time. So it does not matter how bytes are cut into chunks, and the
bytes of a text, however they are cut, give back the text: each character is encoded by a sequence
of up to four bytes, and the range that the decoder allows for the second byte of a sequence is
just the one in which the characters lie that are encoded by so many bytes.

* `run_append` — bytes are taken chunk by chunk;
* `run_utf8EncodeChar` — the bytes of one character;
* `run_bytesOf` — **the bytes of a text are decoded to the text**.
-/

namespace CommandShell

namespace Text.Utf8

/-! ### Starting a sequence -/

/-- The first of two bytes. -/
theorem start_of_two {n : Nat} (hlow : 0x80 ≤ n) (hhigh : n ≤ 0x7FF) :
    start (n / 64 % 32 + 192) = .sequence { due := 1, value := n / 64 } := by
  have hvalue : n / 64 % 32 + 192 - 0xC0 = n / 64 := by omega
  unfold start
  rw [if_neg (by omega), if_neg (by omega), if_pos (by omega), hvalue]

/-- The first of three bytes. What follows must not encode a smaller character, nor a surrogate. -/
theorem start_of_three {n : Nat} (hlow : 0x800 ≤ n) (hhigh : n ≤ 0xFFFF)
    (hvalid : n < 0xD800 ∨ 0xDFFF < n) :
    ∃ p : Partial, start (n / 4096 % 16 + 224) = .sequence p ∧ p.due = 2 ∧ p.value = n / 4096 ∧
      p.low ≤ n / 64 % 64 + 128 ∧ n / 64 % 64 + 128 ≤ p.high := by
  unfold start
  rw [if_neg (by omega), if_neg (by omega), if_neg (by omega)]
  split
  · exact ⟨_, rfl, rfl, by dsimp only; omega, by dsimp only; omega, by dsimp only; omega⟩
  · split
    · exact ⟨_, rfl, rfl, by dsimp only; omega, by dsimp only; omega, by dsimp only; omega⟩
    · rw [if_pos (by omega)]
      exact ⟨_, rfl, rfl, by dsimp only; omega, by dsimp only; omega, by dsimp only; omega⟩

/-- The first of four bytes. What follows must not encode a smaller character, nor one beyond the
last. -/
theorem start_of_four {n : Nat} (hlow : 0x10000 ≤ n) (hhigh : n < 0x110000) :
    ∃ p : Partial, start (n / 262144 % 8 + 240) = .sequence p ∧ p.due = 3 ∧
      p.value = n / 262144 ∧ p.low ≤ n / 4096 % 64 + 128 ∧ n / 4096 % 64 + 128 ≤ p.high := by
  unfold start
  rw [if_neg (by omega), if_neg (by omega), if_neg (by omega), if_neg (by omega),
    if_neg (by omega), if_neg (by omega)]
  split
  · exact ⟨_, rfl, rfl, by dsimp only; omega, by dsimp only; omega, by dsimp only; omega⟩
  · split
    · exact ⟨_, rfl, rfl, by dsimp only; omega, by dsimp only; omega, by dsimp only; omega⟩
    · rw [if_pos (by omega)]
      exact ⟨_, rfl, rfl, by dsimp only; omega, by dsimp only; omega, by dsimp only; omega⟩

namespace Decoder

/-! ### Runs over bytes -/

/-- The decoder behind the bytes, and the characters they give. -/
def run (d : Decoder) : List UInt8 → Decoder × List Char
  | [] => (d, [])
  | b :: bs => ((run (d.step b).1 bs).1, (d.step b).2 ++ (run (d.step b).1 bs).2)

theorem feedFrom_eq_run (d : Decoder) (read : Array Char) (bytes : List UInt8) :
    d.feedFrom read bytes = ((d.run bytes).1, read ++ (d.run bytes).2.toArray) := by
  induction bytes generalizing d read with
  | nil => simp [feedFrom, run]
  | cons b bytes ih =>
    simp only [feedFrom, run, ih]
    refine Prod.ext rfl (Array.toList_inj.1 ?_)
    simp

theorem feed_eq_run (d : Decoder) (bytes : List UInt8) :
    d.feed bytes = ((d.run bytes).1, String.ofList (d.run bytes).2) := by
  rw [feed, feedFrom_eq_run]
  simp

theorem run_append (d : Decoder) (bytes bytes' : List UInt8) :
    d.run (bytes ++ bytes') =
      (((d.run bytes).1.run bytes').1, (d.run bytes).2 ++ ((d.run bytes).1.run bytes').2) := by
  induction bytes generalizing d with
  | nil => rfl
  | cons b bytes ih => rw [List.cons_append, run, run, ih, List.append_assoc]

/-! ### One character -/

/-- A byte in the range of a sequence that goes on behind it. -/
theorem step_of_due {p : Partial} {b : Nat} (hbyte : b < 256) (hlow : p.low ≤ b)
    (hhigh : b ≤ p.high) (hdue : 1 < p.due) :
    step { pending := some p } (UInt8.ofNat b) =
      ({ pending := some { due := p.due - 1, value := p.value * 64 + (b - 0x80) } }, []) := by
  have hb : (UInt8.ofNat b).toNat = b := UInt8.toNat_ofNat_of_lt' hbyte
  simp only [step, hb]
  rw [if_pos ⟨hlow, hhigh⟩, if_neg (by omega)]

/-- A byte in the range of a sequence that it completes. -/
theorem step_of_last {p : Partial} {b : Nat} (hbyte : b < 256) (hlow : p.low ≤ b)
    (hhigh : b ≤ p.high) (hdue : p.due = 1) :
    step { pending := some p } (UInt8.ofNat b) =
      ({}, [Char.ofNat (p.value * 64 + (b - 0x80))]) := by
  have hb : (UInt8.ofNat b).toNat = b := UInt8.toNat_ofNat_of_lt' hbyte
  simp only [step, hb]
  rw [if_pos ⟨hlow, hhigh⟩, if_pos (by omega)]

/-- A byte that starts a sequence. -/
theorem step_of_start {b : Nat} {p : Partial} (hbyte : b < 256) (h : start b = .sequence p) :
    step {} (UInt8.ofNat b) = ({ pending := some p }, []) := by
  have hb : (UInt8.ofNat b).toNat = b := UInt8.toNat_ofNat_of_lt' hbyte
  simp only [step, begin, hb, h]

/-- **One character.** The bytes that encode a character are decoded to it. -/
theorem run_utf8EncodeChar (c : Char) : run {} (String.utf8EncodeChar c) = ({}, [c]) := by
  have hchar : Char.ofNat c.val.toNat = c := Char.ofNat_toNat c
  have hvalid : c.val.toNat < 0xD800 ∨ 0xDFFF < c.val.toNat ∧ c.val.toNat < 0x110000 := c.valid
  unfold String.utf8EncodeChar
  generalize c.val.toNat = n at hchar hvalid
  dsimp only
  split
  · have hn : (UInt8.ofNat n).toNat = n := UInt8.toNat_ofNat_of_lt' (show n < 256 by omega)
    simp only [run, step, begin, hn, start]
    rw [if_pos (by omega), hchar]
    rfl
  · split
    · have hfirst := start_of_two (n := n) (by omega) (by omega)
      have hvalue : n / 64 * 64 + (n % 64 + 128 - 0x80) = n := by omega
      simp only [run]
      rw [step_of_start (by omega) hfirst]
      dsimp only
      rw [step_of_last (by omega) (by dsimp only; omega) (by dsimp only; omega) rfl]
      dsimp only
      rw [hvalue, hchar]
      rfl
    · split
      · obtain ⟨p, hfirst, hdue, hp, hlow, hhigh⟩ :=
          start_of_three (n := n) (by omega) (by omega) (by omega)
        have hvalue : (n / 4096 * 64 + (n / 64 % 64 + 128 - 0x80)) * 64 +
            (n % 64 + 128 - 0x80) = n := by omega
        simp only [run]
        rw [step_of_start (by omega) hfirst]
        dsimp only
        rw [step_of_due (by omega) hlow hhigh (by omega), hdue, hp]
        dsimp only
        rw [step_of_last (by omega) (by dsimp only; omega) (by dsimp only; omega) rfl]
        dsimp only
        rw [hvalue, hchar]
        rfl
      · obtain ⟨p, hfirst, hdue, hp, hlow, hhigh⟩ :=
          start_of_four (n := n) (by omega) (by omega)
        have hvalue : ((n / 262144 * 64 + (n / 4096 % 64 + 128 - 0x80)) * 64 +
            (n / 64 % 64 + 128 - 0x80)) * 64 + (n % 64 + 128 - 0x80) = n := by omega
        simp only [run]
        rw [step_of_start (by omega) hfirst]
        dsimp only
        rw [step_of_due (by omega) hlow hhigh (by omega), hdue, hp]
        dsimp only
        rw [step_of_due (by omega) (by dsimp only; omega) (by dsimp only; omega)
          (Nat.lt_succ_self 1)]
        dsimp only
        rw [step_of_last (by omega) (by dsimp only; omega) (by dsimp only; omega) rfl]
        dsimp only
        rw [hvalue, hchar]
        rfl

theorem run_flatMap_utf8EncodeChar (cs : List Char) :
    run {} (cs.flatMap String.utf8EncodeChar) = ({}, cs) := by
  induction cs with
  | nil => rfl
  | cons c cs ih => rw [List.flatMap_cons, run_append, run_utf8EncodeChar, ih]; rfl

end Decoder

end Text.Utf8

/-! ### Texts -/

namespace Server

theorem toList_loop (bytes : ByteArray) (i : Nat) (read : List UInt8) :
    ByteArray.toList.loop bytes i read = read.reverse ++ bytes.data.toList.drop i := by
  induction i, read using ByteArray.toList.loop.induct bytes with
  | case1 i read hi ih =>
    have hi' : i < bytes.data.toList.length := by simpa using hi
    have hget : bytes.get! i = bytes.data.toList[i] := by
      simp only [ByteArray.get!, Array.getElem_toList]
      exact getElem!_pos bytes.data i hi
    rw [ByteArray.toList.loop, if_pos hi, ih, List.drop_eq_getElem_cons hi', hget]
    simp
  | case2 i read hi =>
    have hi' : bytes.data.toList.length ≤ i := by simpa using hi
    rw [ByteArray.toList.loop, if_neg hi, List.drop_eq_nil_of_le hi', List.append_nil]

/-- The bytes of a text are those of its characters in a row. -/
theorem bytesOf_eq (text : String) :
    bytesOf text = text.toList.flatMap String.utf8EncodeChar := by
  have hbytes : text.toUTF8 = text.toList.utf8Encode := by
    rw [String.toUTF8_eq_toByteArray, ← String.toByteArray_ofList, String.ofList_toList]
  rw [bytesOf, hbytes, ByteArray.toList, toList_loop]
  exact List.toList_data_toByteArray

end Server

/-- **The bytes of a text are decoded to the text**, and no sequence is left unfinished. -/
theorem Text.Utf8.Decoder.run_bytesOf (text : String) :
    run {} (Server.bytesOf text) = ({}, text.toList) := by
  rw [Server.bytesOf_eq, run_flatMap_utf8EncodeChar]

end CommandShell
