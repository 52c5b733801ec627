import RelationQuery.Proofs.CompactGrammars
import RelationQuery.Proofs.LexerExhaustion
import RelationQuery.Proofs.Trimming

/-!
# Search texts part by part

The trimming between two cuts takes away blanks only, and no grammar but the last reads any. So
these grammars find the same terms when nothing is trimmed until they are through, and then the
parts of a text at the two sides of a blank have nothing to do with each other.
-/

namespace RelationQuery.Search

open Sql (MadeOf)
open Text (isBlank trim)

/-! ## Cutting without trimming -/

theorem Found.length_leftover_lt {grammar : Grammar} {text : List Char} {found : Found}
    (read : find? grammar [] text = some found) : found.leftover.length < text.length := by
  have shorter := length_find? read
  unfold leftover
  rw [List.length_append]
  simpa using shorter

/-- Cuts out the terms of a grammar and leaves all blanks where they are. -/
def strip (grammar : Grammar) (text : List Char) : List Term × List Char :=
  match _read : find? grammar [] text with
  | none => ([], text)
  | some found =>
      let later := strip grammar found.leftover
      (found.term :: later.1, later.2)
termination_by text.length
decreasing_by exact Found.length_leftover_lt _read

theorem strip_of_none {grammar : Grammar} {text : List Char}
    (read : find? grammar [] text = none) : strip grammar text = ([], text) := by
  rw [strip]
  split
  · rfl
  · rename_i found here
    rw [read] at here
    cases here

theorem strip_of_find? {grammar : Grammar} {text : List Char} {found : Found}
    (read : find? grammar [] text = some found) :
    strip grammar text =
      (found.term :: (strip grammar found.leftover).1, (strip grammar found.leftover).2) := by
  rw [strip]
  split
  · rename_i none
    rw [read] at none
    cases none
  · rename_i other same
    rw [read] at same
    cases same
    rfl

/-! ## Two parts -/

theorem ne_colon_of_blank {c : Char} (blank : isBlank c = true) : c ≠ ':' := by
  rintro rfl
  exact absurd blank (by decide)

/-- What follows a text without terms and a blank is searched by itself. -/
theorem find?_joint_of_none {grammar : Grammar} (compact : grammar ≠ .string) {b : Char}
    (blank : isBlank b = true) {front : List Char} (none : find? grammar [] front = none)
    (back : List Char) :
    find? grammar [] (front ++ b :: back) =
      (find? grammar [] back).map (Found.behind (front ++ [b])) := by
  have behind := find?_behind grammar (refusesBlanks_keyChar b blank) []
    front.reverse back
  rw [find?_apart compact (apart_cons blank back), none, List.append_nil, find?,
    if_neg (ne_colon_of_blank blank)]
  simpa using behind

theorem strip_joint_of_none {grammar : Grammar} (compact : grammar ≠ .string) {b : Char}
    (blank : isBlank b = true) {front : List Char} (none : find? grammar [] front = none)
    (back : List Char) :
    strip grammar (front ++ b :: back) =
      ((strip grammar back).1, front ++ b :: (strip grammar back).2) := by
  fun_induction strip grammar back with
  | case1 back nothing =>
      apply strip_of_none
      rw [find?_joint_of_none compact blank none, nothing]
      rfl
  | case2 back found read later ih =>
      have joint := find?_joint_of_none compact blank none back
      rw [read] at joint
      have rest : (found.behind (front ++ [b])).leftover = front ++ b :: found.leftover := by
        simp [Found.leftover, Found.behind]
      rw [strip_of_find? joint, rest, ih]
      rfl

/-- A grammar but the last cuts its terms out of the two sides of a blank, one after the other. -/
theorem strip_joint {grammar : Grammar} (compact : grammar ≠ .string) {b : Char}
    (blank : isBlank b = true) (front back : List Char) :
    strip grammar (front ++ b :: back) =
      ((strip grammar front).1 ++ (strip grammar back).1,
        (strip grammar front).2 ++ b :: (strip grammar back).2) := by
  -- The front is searched first, so its cuts come before those of the back.
  fun_induction strip grammar front with
  | case1 front none => exact strip_joint_of_none compact blank none back
  | case2 front found read later ih =>
      have joint := find?_apart compact (apart_cons blank back) [] front
      rw [read] at joint
      have rest : (found.extend (b :: back)).leftover = found.leftover ++ b :: back := by
        simp [Found.leftover, Found.extend, Reading.extend]
      rw [strip_of_find? joint, rest, ih]
      rfl

/-! ## Trimming afterwards -/

/-- Nothing is found before the first colon. -/
theorem find?_colonless {grammar : Grammar} {passed : List Char}
    (colonless : ∀ c ∈ passed, c ≠ ':') (before text : List Char) :
    find? grammar before (passed ++ text) = find? grammar (passed.reverse ++ before) text := by
  induction passed generalizing before with
  | nil => rfl
  | cons c rest ih =>
      rw [List.cons_append, find?, if_neg (colonless c List.mem_cons_self),
        ih fun d member => colonless d (List.mem_cons_of_mem _ member)]
      simp

theorem find?_blanks (grammar : Grammar) {blanks : List Char} (blank : MadeOf isBlank blanks)
    (before text : List Char) :
    find? grammar before (blanks ++ text) = find? grammar (blanks.reverse ++ before) text :=
  find?_colonless (fun c member => ne_colon_of_blank (blank c member)) before text

theorem find?_of_blank {grammar : Grammar} {blanks : List Char} (blank : MadeOf isBlank blanks)
    (before : List Char) : find? grammar before blanks = none := by
  have passed := find?_blanks grammar blank before []
  rwa [List.append_nil] at passed

/-- Characters that no key has and that are no colons, in front of a text, change where a term is
found, and nothing else. -/
theorem find?_behind_foreign (grammar : Grammar) {front : List Char}
    (noKey : ∀ c ∈ front, isKeyChar c = false) (colonless : ∀ c ∈ front, c ≠ ':')
    (text : List Char) :
    find? grammar [] (front ++ text) = (find? grammar [] text).map (Found.behind front) := by
  rw [find?_colonless colonless, List.append_nil]
  cases turned : front.reverse with
  | nil =>
      rw [List.reverse_eq_nil_iff.mp turned]
      exact Option.map_id'.symm
  | cons c rest =>
      have member : c ∈ front := by
        rw [← List.mem_reverse, turned]
        exact List.mem_cons_self
      have behind := find?_behind grammar (noKey c member) [] rest text
      rwa [List.nil_append, ← turned, List.reverse_reverse, turned] at behind

theorem find?_behind_blanks {grammar : Grammar} {blanks : List Char}
    (blank : MadeOf isBlank blanks) (text : List Char) :
    find? grammar [] (blanks ++ text) = (find? grammar [] text).map (Found.behind blanks) :=
  find?_behind_foreign grammar (fun c member => refusesBlanks_keyChar c (blank c member))
    (fun c member => ne_colon_of_blank (blank c member)) text

theorem apart_of_blank {blanks : List Char} (blank : MadeOf isBlank blanks) : Apart blanks :=
  fun c member => blank c (List.mem_of_mem_head? member)

/-- Blanks around a text change where a term is found, and nothing else. -/
theorem find?_between_blanks {grammar : Grammar} (compact : grammar ≠ .string)
    {front back : List Char} (blankFront : MadeOf isBlank front)
    (blankBack : MadeOf isBlank back) (text : List Char) :
    find? grammar [] (front ++ (text ++ back)) =
      (find? grammar [] text).map fun found => (found.extend back).behind front := by
  rw [find?_behind_blanks blankFront, find?_apart compact (apart_of_blank blankBack),
    find?_of_blank blankBack, Option.or_none, Option.map_map]
  rfl

theorem find?_around_trim {grammar : Grammar} (compact : grammar ≠ .string) (text : List Char) :
    ∃ front back, MadeOf isBlank front ∧ MadeOf isBlank back ∧
      find? grammar [] text =
        (find? grammar [] (trim text)).map fun found => (found.extend back).behind front := by
  obtain ⟨front, back, blankFront, blankBack, split⟩ := Text.exists_trim text
  refine ⟨front, back, blankFront, blankBack, ?_⟩
  have around := find?_between_blanks compact blankFront blankBack (trim text)
  rwa [← split] at around

/-- A grammar but the last finds the same terms however the text is trimmed. -/
theorem exhaust_trim {grammar : Grammar} (compact : grammar ≠ .string) (text : List Char) :
    exhaust grammar (trim text) = ((strip grammar text).1, trim (strip grammar text).2) := by
  -- Each round finds the term of the trimmed text with blanks around it, and leaves them.
  fun_induction strip grammar text with
  | case1 text none =>
      obtain ⟨front, back, _, _, around⟩ := find?_around_trim compact text
      rw [none] at around
      exact exhaust_of_none (Option.map_eq_none_iff.mp around.symm)
  | case2 text outer read later ih =>
      obtain ⟨front, back, blankFront, blankBack, around⟩ := find?_around_trim compact text
      rw [read] at around
      obtain ⟨found, inner, rfl⟩ := Option.map_eq_some_iff.mp around.symm
      have rest : ((found.extend back).behind front).leftover =
          front ++ (found.leftover ++ back) := by
        simp [Found.leftover, Found.behind, Found.extend, Reading.extend]
      have remainder : found.remainder = trim ((found.extend back).behind front).leftover := by
        rw [rest]
        exact (Text.trim_blanks blankFront blankBack found.leftover).symm
      rw [exhaust_of_find? inner, remainder, ih]
      rfl

/-! ## All grammars but the last -/

def stripAll : List Grammar → List Char → List Term × List Char
  | [], text => ([], text)
  | grammar :: later, text =>
      let here := strip grammar text
      let rest := stripAll later here.2
      (here.1 ++ rest.1, rest.2)

theorem exhaustAll_trim {grammars : List Grammar} (compact : ∀ g ∈ grammars, g ≠ .string)
    (text : List Char) :
    exhaustAll grammars (trim text) =
      ((stripAll grammars text).1, trim (stripAll grammars text).2) := by
  induction grammars generalizing text with
  | nil => rfl
  | cons grammar later ih =>
      have others : ∀ g ∈ later, g ≠ .string := fun g member =>
        compact g (List.mem_cons_of_mem _ member)
      simp only [exhaustAll, exhaust_trim (compact grammar List.mem_cons_self), ih others]
      rfl

theorem stripAll_joint {grammars : List Grammar} (compact : ∀ g ∈ grammars, g ≠ .string)
    {b : Char} (blank : isBlank b = true) (front back : List Char) :
    (stripAll grammars (front ++ b :: back)).2 =
      (stripAll grammars front).2 ++ b :: (stripAll grammars back).2 := by
  induction grammars generalizing front back with
  | nil => rfl
  | cons grammar later ih =>
      have others : ∀ g ∈ later, g ≠ .string := fun g member =>
        compact g (List.mem_cons_of_mem _ member)
      simp only [stripAll, strip_joint (compact grammar List.mem_cons_self) blank]
      exact ih others _ _

theorem ne_string_of_compact : ∀ grammar ∈ compactGrammars, grammar ≠ .string := by decide

/-- The last grammar runs on what the others leave when they do not trim. -/
theorem lex_eq (text : String) :
    lex text =
      ⟨(stripAll compactGrammars text.toList).1 ++
        (exhaust .string (trim (stripAll compactGrammars text.toList).2)).1,
      String.ofList (exhaust .string (trim (stripAll compactGrammars text.toList).2)).2⟩ := by
  unfold lex
  rw [exhaustAll_all, exhaustAll_trim ne_string_of_compact]

end RelationQuery.Search
