import CommandShell.Number.Decimal
import CommandShell.Pattern.Basic
import CommandShell.Text.LetterCase
import CommandShell.Text.WordCharacter

/-!
# Which characters an item of a pattern takes

An item for one character takes characters by their code points. Where case is ignored, characters
are compared in lower case, and lower-case letters that share an upper-case letter are the same;
under ASCII rules only the ASCII letters have a case. An item that no case can change is compared
as it stands.

Sets that ignore case treat code points of the first plane and those beyond it apart: beyond it, a
single character of a set is not lowered, and a range also takes a character whose upper-case form
lies in it.
-/

namespace CommandShell.Pattern

open Number Text

/-! ### Classes -/

/-- Membership in a named class, among ASCII characters only if asked for. -/
def Category.contains (c : Category) (ascii : Bool) (x : Char) : Bool :=
  (!ascii || x.toNat < 0x80) &&
  match c with
  | digit => (digitValue? x).isSome
  | space => isBlank x && (!ascii || isPadding x)
  | word => isWordCharacter x

/-- Whether an item holds a code point as it stands. -/
def SetItem.contains (ascii : Bool) (n : Nat) : SetItem → Bool
  | char code => n == code
  | range first last => first ≤ n && n ≤ last
  | category c negated => c.contains ascii (Char.ofNat n) != negated

/-! ### Letter case -/

/-- The last code point of the first plane. -/
def planeEnd : Nat := 0xffff

namespace Settings

/-- The lower-case form of a code point. -/
def lower (s : Settings) (n : Nat) : Nat :=
  if s.ascii then (if 0x41 ≤ n && n ≤ 0x5a then n + 0x20 else n) else lowerCase n

/-- Whether a code point has a case that is ignored. -/
def folds (s : Settings) (n : Nat) : Bool :=
  s.ignoreCase &&
  if s.ascii then (0x41 ≤ n && n ≤ 0x5a) || (0x61 ≤ n && n ≤ 0x7a) else isCased n

/-- Whether some code point between two bounds has a case that is ignored. -/
def foldsWithin (s : Settings) (low high : Nat) : Bool :=
  s.ignoreCase &&
  if s.ascii then (low ≤ 0x5a && 0x41 ≤ high) || (low ≤ 0x7a && 0x61 ≤ high)
  else anyCased low high

/-- The lower-case letters that are the same as the lower-case letter `n`. -/
def sameLetters (s : Settings) (n : Nat) : List Nat := if s.ascii then [n] else letterGroup n

/-- The code points that are the lower-case letter `n` when case is ignored. -/
def forms (s : Settings) (n : Nat) : List Nat :=
  if s.ascii then (if 0x61 ≤ n && n ≤ 0x7a then [n, n - 0x20] else [n])
  else (letterGroup n).flatMap caseForms

end Settings

/-- Whether ignoring case makes a difference to an item, or may do so. -/
def SetItem.folds (s : Settings) : SetItem → Bool
  | char code => s.ignoreCase && (planeEnd < code || s.folds code)
  | range first last => s.ignoreCase && (planeEnd < last || s.foldsWithin first last)
  | category .. => false

/-- Whether an item holds the lower-case letter `n` when case is ignored. -/
def SetItem.containsLower (s : Settings) (n : Nat) : SetItem → Bool
  | char code =>
    if planeEnd < code then n == code else (s.sameLetters (s.lower code)).contains n
  | range first last =>
    (s.forms n).any (fun m => first ≤ m && m ≤ min last planeEnd)
      || (planeEnd < last && ((first ≤ n && n ≤ last)
        || (first ≤ upperCase n && upperCase n ≤ last)))
  | category c negated => c.contains s.ascii (Char.ofNat n) != negated

/-- Whether a set holds a character. -/
def setContains (s : Settings) (items : List SetItem) (x : Char) : Bool :=
  if items.any (SetItem.folds s) then items.any (SetItem.containsLower s (s.lower x.toNat))
  else items.any (SetItem.contains s.ascii x.toNat)

/-- Whether a character stands for the code point of an item. -/
def charContains (s : Settings) (code : Nat) (x : Char) : Bool :=
  if s.folds code then (s.sameLetters (s.lower code)).contains (s.lower x.toNat)
  else x.toNat == code

/-! ### Items -/

namespace Node

/-- Whether an item for one character takes `x`. -/
def takes (s : Settings) (x : Char) : Node → Bool
  | char code => charContains s code x
  | otherChar code => !charContains s code x
  | any => s.dotAll || x != '\n'
  | set negated items => setContains s items x != negated
  | _ => false

/-- Whether an item for one character is tested through a set of lower-case letters. -/
def isFolded (s : Settings) : Node → Bool
  | char code | otherChar code => s.folds code && 1 < (s.sameLetters (s.lower code)).length
  | set _ items => items.any (SetItem.folds s)
  | _ => false

/-- The item of a row that holds one item for one character, and the settings it stands under. -/
def single? (s : Settings) : Node → Option (Settings × Node)
  | seq (char code) empty => some (s, char code)
  | seq (otherChar code) empty => some (s, otherChar code)
  | seq any empty => some (s, any)
  | seq (set negated items) empty => some (s, set negated items)
  | seq (group none on off row) empty => row.single? (s.apply on off)
  | _ => none

/-- The first item of a row, looked up in groups that do not capture, and the settings it stands
under. -/
def first? (s : Settings) : Node → Option (Settings × Node)
  | seq (group none on off row) rest => (row.first? (s.apply on off)).or (rest.first? s)
  | seq item _ => some (s, item)
  | _ => none

/-- The character that a row starts with, whatever the case of letters; `next` is that of what
follows the row. -/
def leading (s : Settings) (next : Option Nat) (row : Node) : Option Nat :=
  match row.first? s with
  | none => next
  | some (s, char code) => if s.folds code then none else some code
  | some _ => none

/-- Whether `x` cannot start a row, as far as its first item tells without regard to case. -/
def excludes (s : Settings) (x : Option Char) (row : Node) : Bool :=
  match row.first? s with
  | some (s, char code) => !s.folds code && x.map Char.toNat != some code
  | some (s, set negated items) =>
    !items.any (SetItem.folds s) && !x.any (fun x => setContains s items x != negated)
  | _ => false

end Node

end CommandShell.Pattern
