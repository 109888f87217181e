import VisitorNodes.Text.Quoted.EscapeTable

/-!
# Quoted text

Reports quote the texts they blame. A quoted text stands between quotation marks and on one line:

* a quotation mark and a backslash get a backslash before them;
* NUL, tab, line feed and carriage return are written `\0`, `\t`, `\n`, `\r`;
* every other character that is not shown (`isHidden`) is written `\u` and its code point in
  hexadecimal digits between braces;
* all other characters stand for themselves, the apostrophe too.
-/

namespace VisitorNodes.Text

/-- The characters that a quoted text writes by their code point. -/
def isHidden (c : Char) : Bool :=
  if c.toNat < 0x80 then c.toNat < 0x20 || c.toNat == 0x7F
  else hiddenStretches.any (·.holds c.toNat)

/-- A character by its code point, in lower-case hexadecimal digits without padding. -/
def escapeCode (c : Char) : List Char :=
  "\\u\x7b".toList ++ Nat.toDigits 16 c.toNat ++ "\x7d".toList

/-- A character as a quoted text writes it. -/
def escapeChar (c : Char) : List Char :=
  if c = '"' then ['\\', '"']
  else if c = '\\' then ['\\', '\\']
  else if c = '\x00' then ['\\', '0']
  else if c = '\t' then ['\\', 't']
  else if c = '\n' then ['\\', 'n']
  else if c = '\r' then ['\\', 'r']
  else if isHidden c then escapeCode c
  else [c]

/-- The characters of a quoted text. -/
def quoteChars (cs : List Char) : List Char := '"' :: cs.flatMap escapeChar ++ ['"']

/-- A text, quoted. -/
def quoted (text : String) : String := String.ofList (quoteChars text.toList)

example : quoted "a'\"\\\t" = "\"a'\\\"\\\\\\t\"" := by decide +kernel

example : quoted "\u00e9\u0301" = "\"\u00e9\\u\x7b301\x7d\"" := by decide +kernel

end VisitorNodes.Text
