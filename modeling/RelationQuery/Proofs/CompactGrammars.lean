import RelationQuery.Proofs.CharRuns
import RelationQuery.Proofs.TermCuts

/-!
# Values that end at a blank

Every grammar but the last reads values in which no blank stands. So what it reads, and where it
finds a term, does not change when the text goes on behind a blank or begins earlier before one: a
text of two parts with a blank between them is searched part by part.
-/

namespace RelationQuery.Search

open Text (isBlank not_blank_of_bounds Stops takeWhile_stop dropWhile_stop)

/-! ## Texts kept apart -/

/-- A text that may follow another without being read as part of its last word. -/
def Apart (text : List Char) : Prop := ∀ c ∈ text.head?, isBlank c = true

theorem apart_nil : Apart [] := fun _ member => nomatch member

theorem apart_cons {c : Char} (blank : isBlank c = true) (rest : List Char) :
    Apart (c :: rest) := by
  intro d member
  rwa [← Option.some.inj (Option.mem_def.mp member)]

theorem Apart.append {front back : List Char} (first : Apart front) (second : Apart back) :
    Apart (front ++ back) := by
  cases front with
  | nil => exact second
  | cons c rest => exact fun d member => first d member

theorem Apart.front {front back : List Char} (apart : Apart (front ++ back)) : Apart front := by
  cases front with
  | nil => exact apart_nil
  | cons c rest => exact fun d member => apart d member

/-- Of a text kept apart no other character is the first. -/
theorem Apart.head_ne {c d : Char} {rest : List Char} (apart : Apart (c :: rest))
    (solid : isBlank d = false) : c ≠ d := by
  rintro rfl
  have blank := apart c rfl
  rw [solid] at blank
  cases blank

def RefusesBlanks (test : Char → Bool) : Prop := ∀ c, isBlank c = true → test c = false

theorem refusesBlanks_of_bounds {test : Char → Bool}
    (bounds : ∀ c, test c = true → 33 ≤ c.toNat ∧ c.toNat ≤ 126) : RefusesBlanks test := by
  intro c blank
  cases passes : test c with
  | false => rfl
  | true => exact absurd blank (by simp [not_blank_of_bounds (bounds c passes)])

theorem refusesBlanks_keyChar : RefusesBlanks isKeyChar :=
  refusesBlanks_of_bounds fun _ => bounds_of_keyChar

theorem refusesBlanks_digit : RefusesBlanks Char.isDigit := by
  apply refusesBlanks_of_bounds
  intro c digit
  have bounds := Sql.bounds_of_digit digit
  omega

theorem refusesBlanks_lowerHex : RefusesBlanks Uuid.isLowerHex := by
  apply refusesBlanks_of_bounds
  intro c hex
  have bounds := bounds_of_lowerHex hex
  omega

theorem Apart.stops {test : Char → Bool} (refuses : RefusesBlanks test) {text : List Char}
    (apart : Apart text) : Stops test text := fun c member => refuses c (apart c member)

/-! ## Reading before a blank -/

/-- A reading of a text that goes on behind what was left. -/
def Reading.extend (more : List Char) (reading : Reading) : Reading :=
  { reading with rest := reading.rest ++ more }

def extendRest (more : List Char) (found : List Char × List Char) : List Char × List Char :=
  (found.1, found.2 ++ more)

section Reading

variable {more : List Char} (apart : Apart more)

include apart

theorem isPrefixOf_apart {word : List Char} (solid : word.all (!isBlank ·) = true)
    (text : List Char) : word.isPrefixOf (text ++ more) = word.isPrefixOf text := by
  induction word generalizing text with
  | nil => simp
  | cons c rest ih =>
      obtain ⟨first, others⟩ := (Bool.and_eq_true _ _).mp solid
      have here : isBlank c = false := by simpa using first
      cases text with
      | nil =>
          cases more with
          | nil => rfl
          | cons d behind =>
              simp [List.isPrefixOf, (apart.head_ne here).symm]
      | cons d behind =>
          simp only [List.cons_append, List.isPrefixOf, ih others]

theorem cutWord?_apart {word : List Char} (solid : word.all (!isBlank ·) = true)
    (text : List Char) : cutWord? word (text ++ more) = (cutWord? word text).map (· ++ more) := by
  unfold cutWord?
  rw [isPrefixOf_apart apart solid]
  split
  · rename_i front
    have short := (List.isPrefixOf_iff_prefix.mp front).length_le
    rw [List.drop_append_of_le_length short]
    rfl
  · rfl

/-- A mark in front of a text is there however the text goes on, and none comes by that. -/
theorem mark_apart (mark : Char) (solid : isBlank mark = false) (text : List Char) :
    (∃ behind, text = mark :: behind ∧ text ++ more = mark :: (behind ++ more)) ∨
      (∀ behind, text ≠ mark :: behind) ∧ ∀ behind, text ++ more ≠ mark :: behind := by
  cases text with
  | nil =>
      refine .inr ⟨fun _ => List.cons_ne_nil _ _ ∘ Eq.symm, ?_⟩
      rintro behind rfl
      exact apart.head_ne solid rfl
  | cons c rest =>
      by_cases same : c = mark
      · exact .inl ⟨rest, by rw [same], by rw [same]; rfl⟩
      · exact .inr ⟨fun _ => same ∘ List.head_eq_of_cons_eq,
          fun _ => same ∘ List.head_eq_of_cons_eq⟩

theorem valueReading_apart (value : Value) (text : List Char) :
    valueReading value (text ++ more) = (valueReading value text).extend more := by
  unfold valueReading
  rw [cutWord?_apart apart (by decide)]
  cases cutWord? nullEnding text with
  | none => rfl
  | some behind => rfl

theorem cutNumber?_apart (text : List Char) :
    cutNumber? (text ++ more) = (cutNumber? text).map (extendRest more) := by
  have stops : Stops Char.isDigit more := apart.stops refusesBlanks_digit
  unfold cutNumber?
  rw [takeWhile_stop stops, dropWhile_stop stops]
  dsimp only
  split
  · rfl
  · rcases mark_apart apart '.' (by decide) (text.dropWhile Char.isDigit) with
      ⟨tail, here, there⟩ | ⟨never, neverThere⟩
    · rw [there, here]
      simp only [takeWhile_stop stops, dropWhile_stop stops]
      split
      · rw [Option.map_some, extendRest, List.cons_append]
      · rfl
    · split
      · exact absurd ‹_› (neverThere _)
      · rfl

/-- A group of digits is found where it stands in full. -/
theorem hexGroup_apart (length : Nat) (text : List Char) :
    (((text ++ more).take length).length = length ∧
        ((text ++ more).take length).all Uuid.isLowerHex = true) ↔
      ((text.take length).length = length ∧ (text.take length).all Uuid.isLowerHex = true) := by
  by_cases long : length ≤ text.length
  · rw [List.take_append_of_le_length long]
  · constructor
    · rintro ⟨full, hex⟩
      cases more with
      | nil => rw [List.append_nil] at full hex; exact ⟨full, hex⟩
      | cons c rest =>
          have member : c ∈ (text ++ c :: rest).take length := by
            rw [List.take_append, List.mem_append]
            refine Or.inr ?_
            obtain ⟨n, gap⟩ : ∃ n, length - text.length = n + 1 :=
              ⟨length - text.length - 1, by omega⟩
            rw [gap, List.take_succ_cons]
            exact List.mem_cons_self
          have refused := refusesBlanks_lowerHex c (apart c rfl)
          rw [List.all_eq_true.mp hex c member] at refused
          cases refused
    · rintro ⟨full, _⟩
      rw [List.length_take] at full
      omega

theorem cutGroups?_apart (lengths : List Nat) (text : List Char) :
    Uuid.cutGroups? lengths (text ++ more) =
      (Uuid.cutGroups? lengths text).map (extendRest more) := by
  induction lengths generalizing text with
  | nil => rfl
  | cons length lengths ih =>
      have group := hexGroup_apart apart length text
      by_cases full : (text.take length).length = length ∧
          (text.take length).all Uuid.isLowerHex = true
      · have long : length ≤ text.length := by
          rw [← full.1]
          exact List.length_take_le' _ _
        rw [← group, List.take_append_of_le_length long] at full
        cases lengths with
        | nil =>
            simp only [Uuid.cutGroups?, List.take_append_of_le_length long,
              List.drop_append_of_le_length long, if_pos full]
            rfl
        | cons next lengths =>
            simp only [Uuid.cutGroups?, List.take_append_of_le_length long,
              List.drop_append_of_le_length long, if_pos full]
            rcases mark_apart apart '-' (by decide) (text.drop length) with
              ⟨behind, here, there⟩ | ⟨never, neverThere⟩
            · rw [there, here]
              simp only [ih, Option.map_map]
              rfl
            · split
              · exact absurd ‹_› (neverThere _)
              · rfl
      · have short := mt group.mp full
        cases lengths with
        | nil => simp only [Uuid.cutGroups?, if_neg full, if_neg short]; rfl
        | cons next lengths => simp only [Uuid.cutGroups?, if_neg full, if_neg short]; rfl

theorem readNull?_apart (text : List Char) :
    readNull? (text ++ more) = (readNull? text).map (Reading.extend more) := by
  unfold readNull?
  rw [cutWord?_apart apart (by decide), Option.map_map, Option.map_map]
  rfl

theorem readUuid?_apart (text : List Char) :
    readUuid? (text ++ more) = (readUuid? text).map (Reading.extend more) := by
  unfold readUuid?
  rw [cutGroups?_apart apart, Option.map_map, Option.map_map]
  congr 1
  funext found
  exact valueReading_apart apart _ found.2

theorem readBool?_apart (text : List Char) :
    readBool? (text ++ more) = (readBool? text).map (Reading.extend more) := by
  unfold readBool?
  rw [cutWord?_apart apart (by decide), cutWord?_apart apart (by decide)]
  cases cutWord? (Json.boolText true) text with
  | some rest => exact congrArg some (valueReading_apart apart _ rest)
  | none =>
      simp only [Option.map_none, Option.map_map]
      congr 1
      funext rest
      exact valueReading_apart apart _ rest

theorem readRange?_apart (text : List Char) :
    readRange? (text ++ more) = (readRange? text).map (Reading.extend more) := by
  unfold readRange?
  rw [cutNumber?_apart apart]
  cases cutNumber? text with
  | none => rfl
  | some found =>
      obtain ⟨first, rest⟩ := found
      simp only [Option.map_some, extendRest]
      rcases mark_apart apart '-' (by decide) rest with
        ⟨behind, rfl, there⟩ | ⟨never, neverThere⟩
      · rw [there]
        simp only [cutNumber?_apart apart, Option.map_map]
        congr 1
        funext second
        exact valueReading_apart apart _ second.2
      · split
        · rename_i equal
          exact absurd (Prod.ext_iff.mp (Option.some.inj equal)).2 (neverThere _)
        · split
          · rename_i equal
            exact absurd (Prod.ext_iff.mp (Option.some.inj equal)).2 (never _)
          · rfl

/-- What a grammar but the last reads does not change when the text goes on behind a blank. -/
theorem Grammar.read?_apart {grammar : Grammar} (compact : grammar ≠ .string) (text : List Char) :
    grammar.read? (text ++ more) = (grammar.read? text).map (Reading.extend more) := by
  cases grammar with
  | null => exact readNull?_apart apart text
  | uuid => exact readUuid?_apart apart text
  | bool => exact readBool?_apart apart text
  | range => exact readRange?_apart apart text
  | string => exact absurd rfl compact

end Reading

/-! ## Finding before and behind a blank -/

namespace Found

def extend (more : List Char) (found : Found) : Found :=
  { found with reading := found.reading.extend more }

def behind (earlier : List Char) (found : Found) : Found :=
  { found with front := earlier ++ found.front }

def leftover (found : Found) : List Char := found.front ++ found.reading.rest

end Found

theorem termAt?_apart {grammar : Grammar} (compact : grammar ≠ .string) {more : List Char}
    (apart : Apart more) (before behind : List Char) :
    termAt? grammar before (behind ++ more) =
      (termAt? grammar before behind).map (Found.extend more) := by
  unfold termAt?
  dsimp only
  split
  · rfl
  · rw [Grammar.read?_apart apart compact, Option.map_map, Option.map_map]
    rfl

/-- Text behind a blank is searched when nothing is found before it. -/
theorem find?_apart {grammar : Grammar} (compact : grammar ≠ .string) {more : List Char}
    (apart : Apart more) (before text : List Char) :
    find? grammar before (text ++ more) =
      ((find? grammar before text).map (Found.extend more)).or
        (find? grammar (text.reverse ++ before) more) := by
  induction text generalizing before with
  | nil => simp [find?]
  | cons c rest ih =>
      have onward : (c :: rest).reverse ++ before = rest.reverse ++ (c :: before) := by simp
      rw [onward]
      simp only [List.cons_append, find?]
      split
      · rw [termAt?_apart compact apart]
        cases termAt? grammar before rest with
        | none => exact ih _
        | some found => rfl
      · exact ih _

/-- The key of a term does not reach behind a character that no key has. -/
theorem termAt?_behind {grammar : Grammar} {c : Char} (other : isKeyChar c = false)
    (before earlier behind : List Char) :
    termAt? grammar (before ++ c :: earlier) behind =
      (termAt? grammar before behind).map (Found.behind (c :: earlier).reverse) := by
  have stops : Stops isKeyChar (c :: earlier) := by
    rintro d member
    rwa [← Option.some.inj (Option.mem_def.mp member)]
  unfold termAt?
  rw [takeWhile_stop stops, dropWhile_stop stops]
  dsimp only
  split
  · rfl
  · rw [Option.map_map, List.reverse_append]
    rfl

theorem find?_behind (grammar : Grammar) {c : Char} (other : isKeyChar c = false)
    (before earlier text : List Char) :
    find? grammar (before ++ c :: earlier) text =
      (find? grammar before text).map (Found.behind (c :: earlier).reverse) := by
  induction text generalizing before with
  | nil => rfl
  | cons d rest ih =>
      have onward := ih (d :: before)
      rw [List.cons_append] at onward
      simp only [find?, termAt?_behind other]
      split
      · cases termAt? grammar before rest with
        | none => exact onward
        | some found => rfl
      · exact onward

end RelationQuery.Search
