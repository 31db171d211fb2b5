/-!
# Blank characters

The characters that separate words: the ASCII controls tab to carriage return and the four
information separators, the space, next line, no-break space, and the Unicode space, line and
paragraph separators. Texts are trimmed by the same class.
-/

namespace CommandShell

/-- A blank character separates words and never belongs to one. -/
def isBlank (c : Char) : Bool :=
  let n := c.toNat
  (0x09 ≤ n && n ≤ 0x0d) || (0x1c ≤ n && n ≤ 0x20) || n == 0x85 || n == 0xa0 || n == 0x1680
    || (0x2000 ≤ n && n ≤ 0x200a) || n == 0x2028 || n == 0x2029 || n == 0x202f || n == 0x205f
    || n == 0x3000

namespace Text

/-- A text of blank characters only, the empty text included. -/
def allBlank (text : String) : Bool := text.toList.all isBlank

/-- The characters without the blank ones at their end. -/
def dropBlankEnd (cs : List Char) : List Char :=
  (cs.reverse.dropWhile isBlank).reverse

/-- The text without blank characters at its end. -/
def trimEnd (text : String) : String := String.ofList (dropBlankEnd text.toList)

/-- The text without blank characters at either end. -/
def trim (text : String) : String :=
  String.ofList (dropBlankEnd (text.toList.dropWhile isBlank))

end Text

theorem isBlank_newline : isBlank '\n' = true := by decide

theorem isBlank_space : isBlank ' ' = true := by decide

theorem isBlank_open : isBlank '(' = false := by decide

theorem isBlank_close : isBlank ')' = false := by decide

theorem isBlank_hash : isBlank '#' = false := by decide

end CommandShell
