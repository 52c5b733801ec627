/-!
# Words in text

The characters of the Unicode property White_Space, the operations that cut text at them, and the
replacement of a word: every occurrence, read from the left and without overlap, gives way to another
word. All text operations of the library work on lists of characters.
-/

namespace RelationQuery.Text

/-! ## White space -/

/-- The property White_Space. -/
def isBlank (c : Char) : Bool :=
  let n := c.toNat
  (9 ≤ n && n ≤ 13) || n == 0x20 || n == 0x85 || n == 0xA0 || n == 0x1680 ||
    (0x2000 ≤ n && n ≤ 0x200A) || n == 0x2028 || n == 0x2029 || n == 0x202F || n == 0x205F ||
    n == 0x3000

def trimLeft (text : List Char) : List Char := text.dropWhile isBlank

def trimRight (text : List Char) : List Char := (text.reverse.dropWhile isBlank).reverse

def trim (text : List Char) : List Char := trimRight (trimLeft text)

/-- The maximal runs of characters that are not blank. -/
def words (text : List Char) : List (List Char) :=
  (text.splitOnP isBlank).filter fun word => !word.isEmpty

def isBlankText (text : List Char) : Bool := text.all isBlank

theorem trimLeft_eq_nil_iff (text : List Char) : trimLeft text = [] ↔ isBlankText text = true := by
  induction text with
  | nil => simp [trimLeft, isBlankText]
  | cons c rest ih =>
      by_cases blank : isBlank c = true
      · rw [trimLeft, List.dropWhile_cons_of_pos blank, isBlankText, List.all_cons, blank,
          Bool.true_and]
        exact ih
      · simp [trimLeft, isBlankText, blank]

theorem trimRight_sublist (text : List Char) : (trimRight text).Sublist text := by
  have cut := (List.dropWhile_sublist isBlank (l := text.reverse)).reverse
  simpa [trimRight] using cut

theorem trim_sublist (text : List Char) : (trim text).Sublist text :=
  (trimRight_sublist _).trans (List.dropWhile_sublist isBlank)

theorem trim_length_le (text : List Char) : (trim text).length ≤ text.length :=
  (trim_sublist text).length_le

/-! ## Replacing a word -/

/-- Copies text, `skip` of whose characters belong to an occurrence already replaced. -/
def replaceFrom (word substitute : List Char) : Nat → List Char → List Char
  | _, [] => []
  | skip + 1, _ :: rest => replaceFrom word substitute skip rest
  | 0, c :: rest =>
      if word.isPrefixOf (c :: rest) then
        substitute ++ replaceFrom word substitute (word.length - 1) rest
      else c :: replaceFrom word substitute 0 rest

def replace (word substitute text : List Char) : List Char := replaceFrom word substitute 0 text

theorem replace_cons_of_differs {word substitute : List Char} {c : Char} {rest : List Char}
    (differs : word.isPrefixOf (c :: rest) = false) :
    replace word substitute (c :: rest) = c :: replace word substitute rest := by
  simp [replace, replaceFrom, differs]

end RelationQuery.Text
