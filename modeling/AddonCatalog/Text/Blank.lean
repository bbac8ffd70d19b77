/-!
# Blanks and trimming

A *blank* is a character that trimming removes from both ends of a text and that a
pattern's `\s` matches: the Unicode white space characters together with the four
ASCII information separators `U+001C`–`U+001F`.

* `isBlank` is the class, `trim` removes blanks at both ends;
* `isNumberBlank` is the narrower class that a reader of whole numbers skips around
  the digits: the information separators are not in it.
-/

namespace AddonCatalog.Text

/-- Blanks: tab, line feed, vertical tab, form feed, carriage return, the information
separators `U+001C`–`U+001F`, space, next line, no-break space, the Ogham space mark,
the spaces `U+2000`–`U+200A`, the line and paragraph separators, the narrow no-break
space, the medium mathematical space and the ideographic space. -/
def isBlank (c : Char) : Bool :=
  let n := c.toNat
  (9 ≤ n && n ≤ 13) || (28 ≤ n && n ≤ 32) || n == 0x85 || n == 0xa0 || n == 0x1680 ||
    (0x2000 ≤ n && n ≤ 0x200a) || n == 0x2028 || n == 0x2029 || n == 0x202f ||
    n == 0x205f || n == 0x3000

/-- The blanks that a reader of whole numbers skips: all blanks but the information
separators `U+001C`–`U+001F`. -/
def isNumberBlank (c : Char) : Bool :=
  isBlank c && !(28 ≤ c.toNat && c.toNat ≤ 31)

/-- Drops the blanks at both ends of a character list. -/
def trimChars (cs : List Char) : List Char :=
  ((cs.dropWhile isBlank).reverse.dropWhile isBlank).reverse

/-- The text without the blanks at its two ends. -/
def trim (s : String) : String := String.ofList (trimChars s.toList)

/-- Lower-cases the ASCII letters and keeps every other character. Comparing the result
with a word of ASCII letters that has no `k` gives the same answer as comparing the
full Unicode lower case: the only other characters whose lower case is an ASCII letter
are the Kelvin sign (`k`) and the dotted capital I, whose lower case has two characters. -/
def lowerAscii (s : String) : String :=
  s.map fun c => if 'A' ≤ c ∧ c ≤ 'Z' then Char.ofNat (c.toNat + 32) else c

/-- Upper-cases the ASCII letters and keeps every other character. -/
def upperAscii (s : String) : String :=
  s.map fun c => if 'a' ≤ c ∧ c ≤ 'z' then Char.ofNat (c.toNat - 32) else c

/-- Whether the character is an ASCII letter. -/
def isAsciiLetter (c : Char) : Bool := ('A' ≤ c && c ≤ 'Z') || ('a' ≤ c && c ≤ 'z')

end AddonCatalog.Text
