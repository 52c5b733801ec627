import RelationQuery.Binary.Read
import RelationQuery.Text.Digits
import RelationQuery.Text.Words
import RelationQuery.Value.Basic

/-!
# Grammars of search values

What may stand behind the colon of a search term. Each grammar reads from the front of a text and
says what it has found and what is left; none of them looks for the end of a word.
-/

namespace RelationQuery.Search

inductive Content where
  | isNull
  /-- Equality, or null as well when `orNull` is set. -/
  | equals (value : Value) (orNull : Bool)
  deriving Repr

structure Reading where
  content : Content
  rest : List Char
  deriving Repr

/-- The ending that lets a term accept null as well. -/
def nullEnding : List Char := ['|', '|', 'n', 'u', 'l', 'l']

def cutWord? (word text : List Char) : Option (List Char) :=
  if word.isPrefixOf text then some (text.drop word.length) else none

/-- The reading of a value in front of a text that may have the null ending. -/
def valueReading (value : Value) (rest : List Char) : Reading :=
  match cutWord? nullEnding rest with
  | some behind => ⟨.equals value true, behind⟩
  | none => ⟨.equals value false, rest⟩

def readNull? (text : List Char) : Option Reading :=
  (cutWord? ['n', 'u', 'l', 'l'] text).map (⟨.isNull, ·⟩)

/-- A UUID in lower case, kept as text. -/
def readUuid? (text : List Char) : Option Reading :=
  (Uuid.cutGroups? Uuid.groupLengths text).map fun found =>
    valueReading (.text (String.ofList found.1)) found.2

def readBool? (text : List Char) : Option Reading :=
  match cutWord? (Json.boolText true) text with
  | some rest => some (valueReading (.bool true) rest)
  | none => (cutWord? (Json.boolText false) text).map (valueReading (.bool false))

def cutNumber? (text : List Char) : Option (List Char × List Char) :=
  let whole := text.takeWhile Char.isDigit
  let rest := text.dropWhile Char.isDigit
  if whole.isEmpty then none
  else match rest with
    | '.' :: tail =>
        let fraction := tail.takeWhile Char.isDigit
        if fraction.isEmpty then some (whole, rest)
        else some (whole ++ '.' :: fraction, tail.dropWhile Char.isDigit)
    | _ => some (whole, rest)

/-- A number is whole where it fits 64 bits and has no point. -/
def numberValue (numeral : List Char) : Value :=
  match Text.readInt64 numeral with
  | .ok n => .int64 (.ofInt n)
  | .error _ =>
      match Binary.read .double numeral with
      | .ok x => .float64 x
      | .error _ => .null

/-- Two numbers with a hyphen between them, of which the first is kept. -/
def readRange? (text : List Char) : Option Reading :=
  match cutNumber? text with
  | some (first, '-' :: behind) =>
      (cutNumber? behind).map fun second => valueReading (numberValue first) second.2
  | _ => none

def isLineBreak (c : Char) : Bool := c == '\n' || c == '\r'

/-- The text up to the first quotation mark that no backslash stands before, on one line, and what
is behind the mark. -/
def cutQuoted? : Bool → List Char → Option (List Char × List Char)
  | _, [] => none
  | escaped, c :: rest =>
      if isLineBreak c then none
      else if c == '"' && !escaped then some ([], rest)
      else (cutQuoted? (c == '\\') rest).map fun found => (c :: found.1, found.2)

/-- Text between quotation marks; `\"` is a mark of the text. -/
def readQuoted? : List Char → Option Reading
  | '"' :: body =>
      (cutQuoted? false body).map fun found =>
        valueReading (.text (String.ofList (Text.replace ['\\', '"'] ['"'] found.1))) found.2
  | _ => none

/-- The text up to a null ending, a line break or the end, and the rest. -/
def cutWord : List Char → List Char × List Char
  | [] => ([], [])
  | c :: rest =>
      if isLineBreak c || nullEnding.isPrefixOf (c :: rest) then ([], c :: rest)
      else (c :: (cutWord rest).1, (cutWord rest).2)

def isBackslash (c : Char) : Bool := c == '\\'

def cutBackslashes (word : List Char) : List Char × List Char :=
  ((word.reverse.dropWhile isBackslash).reverse, word.reverse.takeWhile isBackslash)

/-- A bare word, up to the end of its line. Backslashes before what ends it are left in the text,
and keep a null ending from being one. -/
def readWord (text : List Char) : Reading :=
  let (word, rest) := cutWord text
  let (kept, backslashes) := cutBackslashes word
  if rest.isEmpty then ⟨.equals (.text (String.ofList word)) false, []⟩
  else if backslashes.isEmpty then valueReading (.text (String.ofList word)) rest
  else ⟨.equals (.text (String.ofList kept)) false, backslashes ++ rest⟩

/-- The grammars in the order in which they are tried. -/
inductive Grammar where
  | null
  | uuid
  | bool
  | range
  | string
  deriving DecidableEq, Repr

def Grammar.all : List Grammar := [.null, .uuid, .bool, .range, .string]

def Grammar.read? : Grammar → List Char → Option Reading
  | .null, text => readNull? text
  | .uuid, text => readUuid? text
  | .bool, text => readBool? text
  | .range, text => readRange? text
  | .string, text => some ((readQuoted? text).getD (readWord text))

/-! ## What is left is not longer -/

theorem length_dropWhile_le (keep : Char → Bool) (text : List Char) :
    (text.dropWhile keep).length ≤ text.length :=
  (List.dropWhile_sublist keep).length_le

theorem length_cutWord? {word text rest : List Char} (cut : cutWord? word text = some rest) :
    rest.length ≤ text.length := by
  unfold cutWord? at cut
  split at cut
  · cases cut
    simp
  · contradiction

theorem length_valueReading (value : Value) (text : List Char) :
    (valueReading value text).rest.length ≤ text.length := by
  unfold valueReading
  split
  · exact length_cutWord? ‹_›
  · exact Nat.le_refl _

theorem length_cutNumber? {text : List Char} {found : List Char × List Char}
    (cut : cutNumber? text = some found) : found.2.length ≤ text.length := by
  have behind := length_dropWhile_le Char.isDigit text
  unfold cutNumber? at cut
  dsimp only at cut
  split at cut
  · contradiction
  · split at cut
    · rename_i tail point
      rw [point, List.length_cons] at behind
      split at cut
      · cases cut
        rw [point]
        simpa using behind
      · cases cut
        have further := length_dropWhile_le Char.isDigit tail
        dsimp only
        omega
    · cases cut
      exact behind

theorem length_cutQuoted? {escaped : Bool} {text : List Char} {found : List Char × List Char}
    (cut : cutQuoted? escaped text = some found) : found.2.length ≤ text.length := by
  fun_induction cutQuoted? escaped text generalizing found with
  | case1 => contradiction
  | case2 => contradiction
  | case3 => cases cut; simp
  | case4 escaped c rest _ _ ih =>
      obtain ⟨inner, read, rfl⟩ := Option.map_eq_some_iff.mp cut
      have shorter := ih read
      simp only [List.length_cons]
      omega

theorem cutWord_append (text : List Char) : (cutWord text).1 ++ (cutWord text).2 = text := by
  fun_induction cutWord text with
  | case1 => rfl
  | case2 => rfl
  | case3 c rest _ ih => simp [ih]

theorem length_readWord (text : List Char) : (readWord text).rest.length ≤ text.length := by
  have whole := congrArg List.length (cutWord_append text)
  rw [List.length_append] at whole
  unfold readWord
  dsimp only
  split
  · simp
  · split
    · have tail := length_valueReading (.text (String.ofList (cutWord text).1)) (cutWord text).2
      omega
    · have cut : (cutBackslashes (cutWord text).1).2.length ≤ (cutWord text).1.length := by
        simpa [cutBackslashes] using
          (List.takeWhile_sublist isBackslash (l := (cutWord text).1.reverse)).length_le
      simp only [List.length_append]
      omega

theorem length_readQuoted? {text : List Char} {reading : Reading}
    (read : readQuoted? text = some reading) : reading.rest.length ≤ text.length := by
  unfold readQuoted? at read
  split at read
  · obtain ⟨inner, cut, rfl⟩ := Option.map_eq_some_iff.mp read
    have shorter := length_cutQuoted? cut
    have tail := length_valueReading
      (.text (String.ofList (Text.replace ['\\', '"'] ['"'] inner.1))) inner.2
    simp only [List.length_cons]
    omega
  · contradiction

/-- No grammar leaves more than it was given. -/
theorem Grammar.length_read? {grammar : Grammar} {text : List Char} {reading : Reading}
    (read : grammar.read? text = some reading) : reading.rest.length ≤ text.length := by
  cases grammar with
  | null =>
      obtain ⟨rest, cut, rfl⟩ := Option.map_eq_some_iff.mp read
      exact length_cutWord? cut
  | uuid =>
      obtain ⟨found, cut, rfl⟩ := Option.map_eq_some_iff.mp read
      exact Nat.le_trans (length_valueReading _ _) (Uuid.length_cutGroups? cut)
  | bool =>
      simp only [read?, readBool?] at read
      split at read
      · cases read
        exact Nat.le_trans (length_valueReading _ _) (length_cutWord? ‹_›)
      · obtain ⟨rest, cut, rfl⟩ := Option.map_eq_some_iff.mp read
        exact Nat.le_trans (length_valueReading _ _) (length_cutWord? cut)
  | range =>
      simp only [read?, readRange?] at read
      split at read
      · rename_i first behind firstCut
        obtain ⟨found, cut, rfl⟩ := Option.map_eq_some_iff.mp read
        have tail := length_valueReading (numberValue first) found.2
        have second := length_cutNumber? cut
        have start := length_cutNumber? firstCut
        simp only [List.length_cons] at start
        omega
      · contradiction
  | string =>
      cases read
      cases quoted : readQuoted? text with
      | none => simpa [quoted] using length_readWord text
      | some found => simpa [quoted] using length_readQuoted? quoted

end RelationQuery.Search
