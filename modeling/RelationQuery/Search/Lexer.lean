import RelationQuery.Search.Grammar
import RelationQuery.Text.Words

/-!
# Search text

A search text is a mix of terms `key:value` and other words. Each grammar in turn is run until it
finds nothing more; a term found is cut out of the text, and the text is trimmed before the search
goes on. What is left in the end is the residual.
-/

namespace RelationQuery.Search

structure Term where
  key : String
  content : Content
  deriving Repr

def isKeyChar (c : Char) : Bool := c.isAlphanum || c == '\x7d' || c == '-'

structure Found where
  front : List Char
  key : List Char
  reading : Reading
  deriving Repr

namespace Found

def term (found : Found) : Term := ⟨String.ofList found.key, found.reading.content⟩

def remainder (found : Found) : List Char := Text.trim (found.front ++ found.reading.rest)

end Found

/-- The term of a colon: the key characters right before it, and what the grammar reads behind it.
The text before the colon comes last character first. -/
def termAt? (grammar : Grammar) (before behind : List Char) : Option Found :=
  let key := before.takeWhile isKeyChar
  if key.isEmpty then none
  else (grammar.read? behind).map fun reading =>
    ⟨(before.dropWhile isKeyChar).reverse, key.reverse, reading⟩

/-- The leftmost term of a grammar. The text already passed comes last character first. -/
def find? (grammar : Grammar) : List Char → List Char → Option Found
  | _, [] => none
  | before, c :: rest =>
      if c = ':' then
        match termAt? grammar before rest with
        | some found => some found
        | none => find? grammar (c :: before) rest
      else find? grammar (c :: before) rest

theorem length_termAt? {grammar : Grammar} {before behind : List Char} {found : Found}
    (read : termAt? grammar before behind = some found) :
    found.front.length + found.reading.rest.length < before.length + 1 + behind.length := by
  unfold termAt? at read
  dsimp only at read
  split at read
  · contradiction
  · obtain ⟨reading, got, rfl⟩ := Option.map_eq_some_iff.mp read
    have shorter := Grammar.length_read? got
    have front := length_dropWhile_le isKeyChar before
    simp only [List.length_reverse]
    omega

theorem length_find? {grammar : Grammar} {before text : List Char} {found : Found}
    (read : find? grammar before text = some found) :
    found.front.length + found.reading.rest.length < before.length + text.length := by
  induction text generalizing before with
  | nil => contradiction
  | cons c rest ih =>
      have onward : find? grammar (c :: before) rest = some found →
          found.front.length + found.reading.rest.length < before.length + (c :: rest).length := by
        intro found
        have step := ih found
        simp only [List.length_cons] at step ⊢
        omega
      unfold find? at read
      split at read
      · cases here : termAt? grammar before rest with
        | none => exact onward (by simpa [here] using read)
        | some other =>
            have same : other = found := by simpa [here] using read
            subst same
            have shorter := length_termAt? here
            simp only [List.length_cons]
            omega
      · exact onward read

theorem Found.length_remainder_lt {grammar : Grammar} {text : List Char} {found : Found}
    (read : find? grammar [] text = some found) : found.remainder.length < text.length := by
  have shorter := length_find? read
  have trimmed := Text.trim_length_le (found.front ++ found.reading.rest)
  rw [List.length_append] at trimmed
  unfold Found.remainder
  simp only [List.length_nil] at shorter
  omega

/-- Cuts out the terms of a grammar: the terms, and the text without them. -/
def exhaust (grammar : Grammar) (text : List Char) : List Term × List Char :=
  match _read : find? grammar [] text with
  | none => ([], text)
  | some found =>
      let later := exhaust grammar found.remainder
      (found.term :: later.1, later.2)
termination_by text.length
decreasing_by exact Found.length_remainder_lt _read

def exhaustAll : List Grammar → List Char → List Term × List Char
  | [], text => ([], text)
  | grammar :: later, text =>
      let here := exhaust grammar text
      let rest := exhaustAll later here.2
      (here.1 ++ rest.1, rest.2)

structure Lexed where
  terms : List Term
  residual : String
  deriving Repr

def lex (text : String) : Lexed :=
  let result := exhaustAll Grammar.all (Text.trim text.toList)
  ⟨result.1, String.ofList result.2⟩

end RelationQuery.Search
