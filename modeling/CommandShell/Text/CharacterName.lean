import CommandShell.Text.CharacterName.Alphabets
import CommandShell.Text.CharacterName.AncientScripts
import CommandShell.Text.CharacterName.FurtherNames
import CommandShell.Text.CharacterName.Pictures
import CommandShell.Text.CharacterName.Scripts
import CommandShell.Text.CharacterName.Symbols
import CommandShell.Text.Ranges

/-!
# Characters by name

The character of a name in Unicode 14. Names of syllables are spelled out of the names of their
parts, and names of ideographs end in the digits of the code point; all other names stand in
tables. Capital and small letters are the same in a name, except in those of syllables and of
unified ideographs.
-/

namespace CommandShell.Text

/-- The capital form of an ASCII letter. -/
def capital (c : Char) : Char := if 'a' ≤ c && c ≤ 'z' then Char.ofNat (c.toNat - 0x20) else c

/-! ### Rows of names -/

/-- Goes through a row of shortened names for one that is `target` backwards. `name` is the name so
far, backwards, `number` how many names have begun, and `shared` how much of the next one is known
to be shared. -/
def numberInRow? (target : List Char) :
    (row : List Char) → (number shared : Nat) → (name : List Char) → Option Nat
  | [], number, _, name => if name == target then some number else none
  | c :: row, number, shared, name =>
    if c == 'z' then numberInRow? target row number (shared + 25) name
    else if 'a' ≤ c && c < 'z' then
      if name == target then some number
      else
        let shared := shared + (c.toNat - 0x61)
        numberInRow? target row (number + 1) 0 (name.drop (name.length - shared))
    else numberInRow? target row number shared (c :: name)

/-- The code point of a name in tables of rows. -/
def codeInRows? (tables : List (List (Nat × List String))) (name : List Char) : Option Nat :=
  let target := name.reverse
  if target.isEmpty then none
  else tables.findSome? fun rows =>
    rows.findSome? fun (first, lines) =>
      (numberInRow? target (lines.flatMap String.toList) 0 0 []).map fun number =>
        first + number - 1

/-! ### Ideographs -/

/-- The value of a hexadecimal digit with a capital letter. -/
def capitalHexValue? (c : Char) : Option Nat :=
  if '0' ≤ c && c ≤ '9' then some (c.toNat - 0x30)
  else if 'A' ≤ c && c ≤ 'F' then some (c.toNat - 0x37)
  else none

/-- The number of four or five hexadecimal digits. -/
def shortHex? (digits : List Char) : Option Nat :=
  if digits.length == 4 || digits.length == 5 then
    (digits.mapM capitalHexValue?).map fun values => values.foldl (fun n v => n * 16 + v) 0
  else none

/-- What follows a beginning. -/
def afterStart? (start : String) (cs : List Char) : Option (List Char) :=
  if start.toList.isPrefixOf cs then some (cs.drop start.length) else none

/-- The code points at which the class of unified ideographs changes. -/
def unifiedIdeographPoints : List Nat :=
  [0x3400, 0x4dc0, 0x4e00, 0xa000, 0x20000, 0x2a6e0, 0x2a700, 0x2b739, 0x2b740, 0x2b81e, 0x2b820,
   0x2cea2, 0x2ceb0, 0x2ebe1, 0x30000, 0x3134b]

/-- Beginnings of names that end in the code point, and the code points at which the class of such
characters changes. -/
def numberedNames : List (String × List Nat) :=
  [("CJK COMPATIBILITY IDEOGRAPH-", [0xf900, 0xfa6e, 0xfa70, 0xfada, 0x2f800, 0x2fa1e]),
   ("KHITAN SMALL SCRIPT CHARACTER-", [0x18b00, 0x18cd6]),
   ("NUSHU CHARACTER-", [0x1b170, 0x1b2fc])]

/-- The code point of a name that ends in it. There is no digit too many. -/
def numberedCode? (name : List Char) : Option Nat :=
  numberedNames.findSome? fun (start, points) =>
    (afterStart? start name).bind fun digits =>
      (shortHex? digits).filter fun n =>
        inRanges points n && (digits.length == 4) == decide (n < 0x10000)

/-! ### Syllables -/

/-- The names of leading consonants. -/
def leadingNames : List String :=
  ["G", "GG", "N", "D", "DD", "R", "M", "B", "BB", "S", "SS", "", "J", "JJ", "C", "K", "T", "P",
   "H"]

/-- The names of vowels. -/
def vowelNames : List String :=
  ["A", "AE", "YA", "YAE", "EO", "E", "YEO", "YE", "O", "WA", "WAE", "OE", "YO", "U", "WEO", "WE",
   "WI", "YU", "EU", "YI", "I"]

/-- The names of trailing consonants. -/
def trailingNames : List String :=
  ["", "G", "GG", "GS", "N", "NJ", "NH", "D", "L", "LG", "LM", "LB", "LS", "LT", "LP", "LH", "M",
   "B", "BS", "S", "SS", "NG", "J", "C", "K", "T", "P", "H"]

/-- The number of the longest of some texts that `cs` starts with, and the rest of `cs`. -/
def takeLongest? (texts : List String) (cs : List Char) : Option (Nat × List Char) :=
  texts.zipIdx.foldl (fun best (text, i) =>
    match afterStart? text cs, best with
    | some rest, none => some (i, rest)
    | some rest, some (_, shortest) =>
      if rest.length < shortest.length then some (i, rest) else best
    | none, _ => best) none

/-- The code point of a syllable spelled out. -/
def syllableCode? (cs : List Char) : Option Nat := do
  let (leading, cs) ← takeLongest? leadingNames cs
  let (vowel, cs) ← takeLongest? vowelNames cs
  let (trailing, cs) ← takeLongest? trailingNames cs
  if cs.isEmpty then some (0xac00 + (leading * 21 + vowel) * 28 + trailing) else none

/-! ### Names -/

/-- The code point of the character of a name. -/
def characterNamed? (name : String) : Option Nat :=
  let cs := name.toList
  match afterStart? "HANGUL SYLLABLE " cs with
  | some spelling => syllableCode? spelling
  | none =>
    match afterStart? "CJK UNIFIED IDEOGRAPH-" cs with
    | some digits => (shortHex? digits).filter (inRanges unifiedIdeographPoints)
    | none =>
      let cs := cs.map capital
      (numberedCode? cs).or
        (codeInRows?
          [alphabetNames, symbolNames, scriptNames, ancientScriptNames, pictureNames, furtherNames]
          cs)

end CommandShell.Text
