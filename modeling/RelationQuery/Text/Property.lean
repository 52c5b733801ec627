import RelationQuery.Text.Category

/-!
# Letters, cases and words

Properties of characters that follow from the general category up to short lists of exceptions, and
text as messages show it: between quotation marks, with escapes for what would not be seen as itself.
-/

namespace RelationQuery.Text

open CharSet Category

def letters : CharSet :=
  setOf [uppercaseLetter, lowercaseLetter, titlecaseLetter, modifierLetter, otherLetter]

def marks : CharSet := setOf [nonspacingMark, spacingMark, enclosingMark]

def decimalDigits : CharSet := setOf [decimalNumber]

/-- Alphabetic characters outside the letters and letter numbers. -/
def otherAlphabetic : CharSet := .ofRuns [
  "345.1.1d.d.240.e.1.1.1.2.1.2.1.1.48.b.30.d.1.7.10.1.65.7.4.4.2.2.4.1.23.1.1e.10.66.b.65.2.3.9.",
  "1.3.1.4.6a.1.3c.c.3.7.6.14.36.2.2.f.1.2.5.3.a.2.1d.3.3a.7.2.2.2.2.a.1.a.2.1d.3.3a.5.4.2.2.2.4.",
  "1.1e.2.3.1.b.3.3a.8.1.3.1.2.15.2.16.3.4.3.3a.7.2.2.2.2.9.2.a.2.1e.1.3b.5.3.3.1.3.a.1.28.5.39.7",
  ".1.3.1.3.8.2.b.2.1d.3.3a.7.1.3.1.3.8.2.b.2.f.1.c.4.3a.7.1.3.1.3.a.1.a.2.1d.3.4b.6.1.1.1.8.12.2",
  ".3d.1.2.7.12.1.63.1.2.6.1.2.10.1.a3.13.9.b.1.24.6e.c.1.1.2.4.17.4.4.3.1.3.2.7.3.4.d.c.1.1.a.4.",
  "674.2.1e.2.1e.2.1e.2.42.13.bc.2.22.1.76.c.4.9.de.5.39.a.2.14.4a.2.b.3.31.5.30.f.3c.3.1e.9.2.2.",
  "39.b.32.13.19c.22.6c1.34.8f6.20.7874.8.22.2.162.1.8.1.17.5.58.2.32.10.1.1.39.1.26.5.1c.c.2d.4.",
  "30.c.25.1.43.e.c.1.8.2.2d.3.32.1.1.3.2.2.5.1.2c.5.5.1.ed.8.4f33.1.857.5.686.3.1.2.5.4.314.4.41",
  ".1.141.2.4f.1.103.3.35.e.2d.2.b.3.2d.9.9.1.3d.3.24.c.12.2.39.3.30.d.e.2.5c.9.2.1.6.1.2.1.9d.a.",
  "17.4.3a.7.2.2.2.2.a.1.a.2.54.9.1.1.2.1.1.4.1.2.67.d.1.3.6a.12.ed.7.2.7.1d.2.52.f.1.1.6a.b.67.e",
  ".101.d.f7.6.1.2.2.2.3.1.1.1.8e.7.2.6.4.1.1c.a.2a.5.1.4.12.b.2e.e.197.8.1.7.53.16.1.e.7a.6.3.1.",
  "1.2.1.3.1.1.3.1.42.5.1.2.1.4.15c.4.9.2.1.1.30.7.3.3.41dd.11.e20.1.1.37.7.4.5d.2.4cac.1.2361.7.",
  "1.11.2.7.1.2.1.5.64.1.8b7.1.7e8.1a.6.1a.6.1a"]

def otherLowercase : CharSet := .ofRuns [
  "aa.1.f.1.1f5.9.7.2.1e.5.60.1.34.1.d81.1.c2f.3f.d.1.22.25.2b1.1.d.1.10.d.d3.10.350.1a.792.2.7a1",
  "e.2.d2.1.81.3.3.2.362.4.9.1.5c16.1.2.3.1.2a.1.9.d875.3e"]

def otherUppercase : CharSet := .ofRuns [
  "2160.10.346.1a.1cc60.1a.6.1a.6.1a"]

/-- Characters that extend a grapheme and are no nonspacing or enclosing marks. -/
def otherExtend : CharSet := .ofRuns [
  "9be.1.18.1.166.1.18.1.66.1.18.1.e8.1.1.1.4.2.1.2.9.2.67.1.18.1.77.1.f.1.935.1.1e.1.400.1.5.1.1",
  ".1.5.2.65.1.47.2.418.1.1021.2.7923.1.6c.1.55dd.2.1220.1.74.1.108.1.e.1.9.1.60.1.9.1.2.1.1.3.5.",
  "1.e0.1.c.1.f1.1.106.1.279.1.c.1.603.1.50ae.2.6173.2.6.6.c2ead.60"]

/-- Characters ignored by case and outside the categories that are. -/
def otherIgnorable : CharSet := .ofRuns [
  "27.1.6.1.b.1.7c.1.2cf.1.1d7.1.94.1.1a23.2.a.1.2.1.ddeb.1.3e.1.2.1.b1.1.6.1.b.1"]

def alphabetic : CharSet := unionAll [letters, setOf [letterNumber], otherAlphabetic]

def lowercase : CharSet := union (setOf [lowercaseLetter]) otherLowercase

def uppercase : CharSet := union (setOf [uppercaseLetter]) otherUppercase

def cased : CharSet := unionAll [lowercase, uppercase, setOf [titlecaseLetter]]

def caseIgnorable : CharSet :=
  union (setOf [nonspacingMark, enclosingMark, format, modifierLetter, modifierSymbol])
    otherIgnorable

def graphemeExtend : CharSet := union (setOf [nonspacingMark, enclosingMark]) otherExtend

/-- The two joiners, which have no width. -/
def joinControl : CharSet := ofList ['\u200c', '\u200d']

/-- The characters of words: alphabetic ones, marks, decimal digits, connectors and joiners. -/
def wordCharacters : CharSet :=
  unionAll [alphabetic, marks, decimalDigits, setOf [connectorPunctuation], joinControl]

def isAlphabetic (c : Char) : Bool := alphabetic.contains c

def isDecimal (c : Char) : Bool := category c == .decimalNumber

def isNumeric (c : Char) : Bool :=
  match category c with
  | .decimalNumber => true
  | .letterNumber => true
  | .otherNumber => true
  | _ => false

def isWord (c : Char) : Bool := wordCharacters.contains c

def isCased (c : Char) : Bool := cased.contains c

def isCaseIgnorable (c : Char) : Bool := caseIgnorable.contains c

def extendsGrapheme (c : Char) : Bool := graphemeExtend.contains c

/-- Whether a character is shown as itself: no control, no separator but the blank, and assigned. -/
def isPrintable (c : Char) : Bool :=
  match category c with
  | .control => false
  | .format => false
  | .surrogate => false
  | .privateUse => false
  | .unassigned => false
  | .lineSeparator => false
  | .paragraphSeparator => false
  | .spaceSeparator => c == ' '
  | _ => true

/-! ## Text as shown in messages -/

def codeEscape (c : Char) : List Char :=
  '\\' :: 'u' :: '\x7b' :: Nat.toDigits 16 c.toNat ++ ['\x7d']

def shownChar (c : Char) : List Char :=
  if c == '\x00' then ['\\', '0']
  else if c == '\t' then ['\\', 't']
  else if c == '\r' then ['\\', 'r']
  else if c == '\n' then ['\\', 'n']
  else if c == '\\' then ['\\', '\\']
  else if c == '"' then ['\\', '"']
  else if extendsGrapheme c || !isPrintable c then codeEscape c
  else [c]

/-- The text between quotation marks, with its escapes. -/
def shown (text : String) : List Char := '"' :: text.toList.flatMap shownChar ++ ['"']

end RelationQuery.Text
