import RelationQuery.Proofs.ByteOffsets

/-!
# Where a text is divided

The offsets at which a grammar divides the text behind a colon, and where a term is cut out.
Every part that a grammar counts by its characters is made of characters of one byte; a quoted text
and a bare word are counted by their bytes. So no offset lies inside a character, whatever else the
text is made of.
-/

namespace RelationQuery.Search

open Sql (MadeOf)

/-! ## Where a grammar divides a text -/

def endingSize (rest : List Char) : Nat :=
  if nullEnding.isPrefixOf rest then nullEnding.length else 0

/-- Where a value of some bytes ends, without its null ending and with it. -/
def valueEnds (size : Nat) (rest : List Char) : List Nat := [size, size + endingSize rest]

def numberDivisions (text : List Char) : List Nat :=
  match cutNumber? text with
  | some (numeral, _) => [(text.takeWhile Char.isDigit).length, numeral.length]
  | none => []

def secondDivisions (text : List Char) : List Nat :=
  match cutNumber? text with
  | some (second, rest) => numberDivisions text ++ valueEnds second.length rest
  | none => []

def rangeDivisions (text : List Char) : List Nat :=
  match cutNumber? text with
  | some (first, '-' :: behind) =>
      numberDivisions text ++
        (first.length + 1) :: (secondDivisions behind).map (first.length + 1 + ·)
  | _ => numberDivisions text

def quotedDivisions? : List Char → Option (List Nat)
  | '"' :: body =>
      (cutQuoted? false body).map fun found =>
        (byteSize found.1 + 1) :: valueEnds (byteSize found.1 + 2) found.2
  | _ => none

/-- The end of the line, the end of the word, and where the word is cut off. -/
def wordDivisions (text : List Char) : List Nat :=
  let (word, rest) := cutWord text
  let (kept, backslashes) := cutBackslashes word
  byteSize (text.takeWhile fun c => !isLineBreak c) :: byteSize word ::
    if rest.isEmpty then [byteSize word]
    else if backslashes.isEmpty then valueEnds (byteSize word) rest
    else [byteSize kept]

/-- The offsets at which a grammar divides what stands behind a colon. Behind the last of them comes
what it leaves. -/
def Grammar.divisions : Grammar → List Char → List Nat
  | .null, text => if (cutWord? ['n', 'u', 'l', 'l'] text).isSome then [4] else []
  | .uuid, text =>
      match Uuid.cutGroups? Uuid.groupLengths text with
      | some (_, rest) => valueEnds 36 rest
      | none => []
  | .bool, text =>
      match cutWord? (Json.boolText true) text with
      | some rest => valueEnds 4 rest
      | none =>
          match cutWord? (Json.boolText false) text with
          | some rest => valueEnds 5 rest
          | none => []
  | .range, text => rangeDivisions text
  | .string, text => (quotedDivisions? text).getD (wordDivisions text)

theorem exists_ending (value : Value) (rest : List Char) :
    ∃ ending, rest = ending ++ (valueReading value rest).rest ∧
      endingSize rest = byteSize ending := by
  unfold valueReading cutWord? endingSize
  split
  · rename_i behind cut
    split at cut
    · rename_i front
      obtain ⟨later, rfl⟩ := List.isPrefixOf_iff_prefix.mp front
      rw [List.drop_left] at cut
      cases cut
      exact ⟨nullEnding, rfl, by rw [if_pos front]; exact (byteSize_of_ascii (by decide)).symm⟩
    · cases cut
  · rename_i absent
    split at absent
    · cases absent
    · rename_i other
      exact ⟨[], rfl, if_neg other⟩

/-- Offsets between the characters of a text, the last of which stands in front of `rest`. -/
structure Divides (offsets : List Nat) (text rest : List Char) : Prop where
  boundaries : ∀ offset ∈ offsets, IsBoundary text offset
  last : ∃ taken, text = taken ++ rest ∧ offsets.getLast? = some (byteSize taken)

namespace Divides

theorem single (taken rest : List Char) : Divides [byteSize taken] (taken ++ rest) rest where
  boundaries _ member := List.mem_singleton.mp member ▸ isBoundary_byteSize _ _
  last := ⟨taken, rfl, rfl⟩

theorem append {more offsets : List Nat} {text rest : List Char}
    (early : ∀ offset ∈ more, IsBoundary text offset) (late : Divides offsets text rest) :
    Divides (more ++ offsets) text rest where
  boundaries offset member :=
    (List.mem_append.mp member).elim (early offset) (late.boundaries offset)
  last := by
    obtain ⟨taken, split, ends⟩ := late.last
    exact ⟨taken, split, by rw [List.getLast?_append, ends]; rfl⟩

theorem cons {offset : Nat} {offsets : List Nat} {text rest : List Char}
    (first : IsBoundary text offset) (late : Divides offsets text rest) :
    Divides (offset :: offsets) text rest :=
  append (List.forall_mem_singleton.mpr first) late

/-- Divisions of a text that stands behind another. -/
theorem behind {offsets : List Nat} {text rest front : List Char} {size : Nat}
    (sized : byteSize front = size) (late : Divides offsets text rest) :
    Divides (offsets.map (size + ·)) (front ++ text) rest where
  boundaries offset member := by
    obtain ⟨inner, within, rfl⟩ := List.mem_map.mp member
    exact sized ▸ (late.boundaries inner within).behind front
  last := by
    obtain ⟨taken, split, ends⟩ := late.last
    refine ⟨front ++ taken, by rw [split, List.append_assoc], ?_⟩
    rw [List.getLast?_map, ends, byteSize_append, sized]
    rfl

end Divides

theorem divides_valueEnds (value : Value) {taken : List Char} {size : Nat}
    (sized : byteSize taken = size) (rest : List Char) :
    Divides (valueEnds size rest) (taken ++ rest) (valueReading value rest).rest := by
  obtain ⟨ending, split, size⟩ := exists_ending value rest
  subst sized
  refine .cons (isBoundary_byteSize _ _) ?_
  have whole : taken ++ rest = (taken ++ ending) ++ (valueReading value rest).rest := by
    rw [List.append_assoc, ← split]
  rw [size, ← byteSize_append, whole]
  exact .single _ _

theorem isBoundary_numberDivisions (text : List Char) :
    ∀ offset ∈ numberDivisions text, IsBoundary text offset := by
  intro offset member
  unfold numberDivisions at member
  split at member
  · rename_i numeral rest cut
    rcases List.mem_cons.mp member with rfl | member
    · rw [← byteSize_of_ascii (ascii_takeWhile_digit text)]
      have split : text.takeWhile Char.isDigit ++ text.dropWhile Char.isDigit = text :=
        List.takeWhile_append_dropWhile
      exact isBoundary_iff.mpr ⟨_, _, split.symm, rfl⟩
    · rw [List.mem_singleton.mp member, ← byteSize_of_ascii (ascii_cutNumber? cut)]
      exact isBoundary_iff.mpr ⟨_, _, (cutNumber?_append cut).symm, rfl⟩
  · cases member

theorem divides_second {text : List Char} {found : List Char × List Char}
    (cut : cutNumber? text = some found) (value : Value) :
    Divides (secondDivisions text) text (valueReading value found.2).rest := by
  unfold secondDivisions
  rw [cut]
  have ends := divides_valueEnds value (byteSize_of_ascii (ascii_cutNumber? cut)) found.2
  rw [cutNumber?_append cut] at ends
  exact .append (isBoundary_numberDivisions text) ends

theorem isBoundary_secondDivisions (text : List Char) :
    ∀ offset ∈ secondDivisions text, IsBoundary text offset := by
  cases cut : cutNumber? text with
  | none =>
      intro offset member
      unfold secondDivisions at member
      rw [cut] at member
      cases member
  | some found => exact (divides_second cut .null).boundaries

/-- The first number of a range with its hyphen has a byte for each character. -/
theorem byteSize_first {text first behind : List Char}
    (cut : cutNumber? text = some (first, '-' :: behind)) :
    byteSize (first ++ ['-']) = first.length + 1 ∧ (first ++ ['-']) ++ behind = text := by
  constructor
  · have ascii :=
      Sql.madeOf_append (ascii_cutNumber? cut) (Sql.madeOf_single (c := '-') (by decide))
    rw [byteSize_of_ascii ascii, List.length_append]
    rfl
  · rw [List.append_assoc]
    exact cutNumber?_append cut

theorem isBoundary_rangeDivisions (text : List Char) :
    ∀ offset ∈ rangeDivisions text, IsBoundary text offset := by
  intro offset member
  unfold rangeDivisions at member
  split at member
  · rename_i first behind cut
    obtain ⟨sized, whole⟩ := byteSize_first cut
    rcases List.mem_append.mp member with early | member
    · exact isBoundary_numberDivisions text offset early
    rcases List.mem_cons.mp member with rfl | member
    · rw [← sized, ← whole]
      exact isBoundary_byteSize _ _
    · obtain ⟨inner, within, rfl⟩ := List.mem_map.mp member
      rw [← sized, ← whole]
      exact (isBoundary_secondDivisions behind inner within).behind _
  · exact isBoundary_numberDivisions text offset member

theorem divides_range {text : List Char} {reading : Reading}
    (read : readRange? text = some reading) : Divides (rangeDivisions text) text reading.rest := by
  unfold readRange? at read
  split at read
  · rename_i first behind cut
    obtain ⟨found, later, rfl⟩ := Option.map_eq_some_iff.mp read
    obtain ⟨sized, whole⟩ := byteSize_first cut
    have second := (divides_second later (numberValue first)).behind sized
    rw [whole] at second
    unfold rangeDivisions
    rw [cut]
    refine .append (isBoundary_numberDivisions text) (.cons ?_ second)
    rw [← sized, ← whole]
    exact isBoundary_byteSize _ _
  · cases read

theorem divides_quoted {text : List Char} {reading : Reading}
    (read : readQuoted? text = some reading) :
    ∃ offsets, quotedDivisions? text = some offsets ∧ Divides offsets text reading.rest := by
  unfold readQuoted? at read
  split at read
  · rename_i body
    obtain ⟨inner, cut, rfl⟩ := Option.map_eq_some_iff.mp read
    refine ⟨_, congrArg (Option.map _) cut, ?_⟩
    have mark : byteSize ['"'] = 1 := rfl
    have opened : byteSize ('"' :: inner.1) = byteSize inner.1 + 1 := by
      rw [byteSize_cons]
      exact Nat.add_comm 1 _
    have closed : byteSize ('"' :: inner.1 ++ ['"']) = byteSize inner.1 + 2 := by
      rw [byteSize_append, opened, mark]
    have whole : '"' :: body = ('"' :: inner.1 ++ ['"']) ++ inner.2 := by
      rw [← cutQuoted?_append cut, List.append_assoc]
      rfl
    refine .cons ?_ (whole ▸ divides_valueEnds _ closed inner.2)
    rw [whole, List.append_assoc, ← opened]
    exact isBoundary_byteSize _ _
  · cases read

theorem quotedDivisions?_of_none {text : List Char} (read : readQuoted? text = none) :
    quotedDivisions? text = none := by
  unfold readQuoted? at read
  unfold quotedDivisions?
  split
  · exact Option.map_eq_none_iff.mpr (Option.map_eq_none_iff.mp read)
  · rfl

theorem divides_word (text : List Char) :
    Divides (wordDivisions text) text (readWord text).rest := by
  have whole := cutWord_append text
  have line : IsBoundary text (byteSize (text.takeWhile fun c => !isLineBreak c)) :=
    isBoundary_iff.mpr ⟨_, _, List.takeWhile_append_dropWhile.symm, rfl⟩
  have word : IsBoundary text (byteSize (cutWord text).1) :=
    isBoundary_iff.mpr ⟨_, _, whole.symm, rfl⟩
  unfold wordDivisions readWord
  dsimp only
  refine .cons line (.cons word ?_)
  split
  · rename_i last
    rw [List.isEmpty_iff.mp last] at whole
    have ends := Divides.single (cutWord text).1 []
    rwa [whole] at ends
  · split
    · have ends := divides_valueEnds (.text (String.ofList (cutWord text).1))
        (Eq.refl (byteSize (cutWord text).1)) (cutWord text).2
      rwa [whole] at ends
    · have ends := Divides.single (cutBackslashes (cutWord text).1).1
        ((cutBackslashes (cutWord text).1).2 ++ (cutWord text).2)
      rwa [← List.append_assoc, cutBackslashes_append, whole] at ends

/-- The divisions of a grammar that reads something: the last of them is the end of its reading. -/
theorem Grammar.divides {grammar : Grammar} {text : List Char} {reading : Reading}
    (read : grammar.read? text = some reading) :
    Divides (grammar.divisions text) text reading.rest := by
  cases grammar with
  | null =>
      obtain ⟨rest, cut, rfl⟩ := Option.map_eq_some_iff.mp read
      simp only [divisions, cut, Option.isSome_some, if_true]
      obtain rfl := cutWord?_eq_some_iff.mp cut
      exact .single ['n', 'u', 'l', 'l'] rest
  | uuid =>
      obtain ⟨found, cut, rfl⟩ := Option.map_eq_some_iff.mp read
      have sized : byteSize found.1 = 36 := by
        rw [byteSize_of_ascii (ascii_cutGroups? cut), length_cutGroups?_fst cut]
        rfl
      simp only [divisions, cut]
      have ends := divides_valueEnds (.text (String.ofList found.1)) sized found.2
      rwa [cutGroups?_append cut] at ends
  | bool =>
      simp only [read?, readBool?] at read
      split at read
      · rename_i rest cut
        cases read
        simp only [divisions, cut]
        obtain rfl := cutWord?_eq_some_iff.mp cut
        have size : byteSize (Json.boolText true) = 4 := rfl
        exact divides_valueEnds (.bool true) size rest
      · rename_i other
        obtain ⟨rest, cut, rfl⟩ := Option.map_eq_some_iff.mp read
        simp only [divisions, other, cut]
        obtain rfl := cutWord?_eq_some_iff.mp cut
        have size : byteSize (Json.boolText false) = 5 := rfl
        exact divides_valueEnds (.bool false) size rest
  | range => exact divides_range read
  | string =>
      cases read
      cases quoted : readQuoted? text with
      | none =>
          simp only [divisions, quotedDivisions?_of_none quoted]
          exact divides_word text
      | some found =>
          obtain ⟨offsets, known, ends⟩ := divides_quoted quoted
          simp only [divisions, known]
          exact ends

/-- No grammar divides a character, whether it reads something or not. -/
theorem Grammar.isBoundary_divisions (grammar : Grammar) (text : List Char) :
    ∀ offset ∈ grammar.divisions text, IsBoundary text offset := by
  cases read : grammar.read? text with
  | some reading => exact (Grammar.divides read).boundaries
  | none =>
      cases grammar with
      | null =>
          have absent := Option.map_eq_none_iff.mp read
          simp only [divisions, absent]
          exact fun _ member => nomatch member
      | uuid =>
          have absent := Option.map_eq_none_iff.mp read
          simp only [divisions, absent]
          exact fun _ member => nomatch member
      | bool =>
          simp only [read?, readBool?] at read
          split at read
          · cases read
          · rename_i other
            have absent := Option.map_eq_none_iff.mp read
            simp only [divisions, other, absent]
            exact fun _ member => nomatch member
      | range => exact isBoundary_rangeDivisions text
      | string => cases read

/-! ## Where a term is cut out -/

/-- The offsets at which a text is divided at one of its colons: in front of the key and behind it,
behind the colon, and where a grammar divides what follows. A key is counted by its characters. -/
def divisionsAt (grammar : Grammar) (passed behind : List Char) : List Nat :=
  let colon := byteSize passed
  [colon - (passed.reverse.takeWhile isKeyChar).length, colon] ++
    (0 :: grammar.divisions behind).map (colon + 1 + ·)

theorem byteSize_colon (passed : List Char) : byteSize (passed ++ [':']) = byteSize passed + 1 :=
  byteSize_append _ _

/-- In front of a colon stand a front and a key. -/
theorem front_append_key (passed : List Char) : passed =
    (passed.reverse.dropWhile isKeyChar).reverse ++
      (passed.reverse.takeWhile isKeyChar).reverse := by
  rw [← List.reverse_append, List.takeWhile_append_dropWhile, List.reverse_reverse]

/-- The key has a byte for each of its characters. -/
theorem byteSize_front (passed : List Char) :
    byteSize passed - (passed.reverse.takeWhile isKeyChar).length =
      byteSize (passed.reverse.dropWhile isKeyChar).reverse := by
  have key : MadeOf isKeyChar (passed.reverse.takeWhile isKeyChar).reverse := fun c member =>
    List.all_eq_true.mp List.all_takeWhile c (List.mem_reverse.mp member)
  have sizes := congrArg byteSize (front_append_key passed)
  rw [byteSize_append, byteSize_of_ascii (ascii_of_keyChars key), List.length_reverse] at sizes
  omega

/-- At no colon of any text is a character divided. -/
theorem isBoundary_divisionsAt (grammar : Grammar) (passed behind : List Char) :
    ∀ offset ∈ divisionsAt grammar passed behind, IsBoundary (passed ++ ':' :: behind) offset := by
  have whole : passed ++ ':' :: behind = (passed ++ [':']) ++ behind :=
    (List.append_assoc passed [':'] behind).symm
  intro offset member
  unfold divisionsAt at member
  rcases List.mem_append.mp member with key | later
  · rcases List.mem_cons.mp key with rfl | colon
    · rw [byteSize_front]
      refine isBoundary_iff.mpr ⟨_, (passed.reverse.takeWhile isKeyChar).reverse ++ ':' :: behind,
        ?_, rfl⟩
      rw [← List.append_assoc, ← front_append_key]
    · rw [List.mem_singleton.mp colon]
      exact isBoundary_byteSize _ _
  · obtain ⟨inner, within, rfl⟩ := List.mem_map.mp later
    rw [← byteSize_colon, whole]
    refine IsBoundary.behind ?_ _
    rcases List.mem_cons.mp within with rfl | divided
    · exact isBoundary_byteSize [] behind
    · exact grammar.isBoundary_divisions behind inner divided

/-- A term is cut out between the first and the last of the divisions at its colon, and what it
leaves is shorter. -/
structure Found.CutOut (found : Found) (grammar : Grammar) (text : List Char) : Prop where
  piece : ∃ passed behind taken, text = passed ++ ':' :: behind ∧
    text = found.front ++ taken ++ found.reading.rest ∧
    (divisionsAt grammar passed behind).head? = some (byteSize found.front) ∧
    (divisionsAt grammar passed behind).getLast? = some (byteSize (found.front ++ taken))
  shorter : found.remainder.length < text.length

theorem Found.StandsIn.dropWhile_key {found : Found} {grammar : Grammar} {text behind : List Char}
    (stands : found.StandsIn grammar text behind) :
    (found.front ++ found.key).reverse.dropWhile isKeyChar = found.front.reverse := by
  rw [List.reverse_append, List.dropWhile_append_of_pos fun c member =>
    stands.keyChars c (List.mem_reverse.mp member)]
  cases last : found.front.reverse with
  | nil => rfl
  | cons c rest =>
      apply List.dropWhile_cons_of_neg
      have isLast : c ∈ found.front.getLast? := by
        rw [← List.head?_reverse, last]
        rfl
      simp [stands.bounded c isLast]

theorem Found.cutOut_of_find? {grammar : Grammar} {text : List Char} {found : Found}
    (read : find? grammar [] text = some found) : found.CutOut grammar text := by
  obtain ⟨behind, stands⟩ := exists_standsIn_of_find? read
  refine ⟨?_, Found.length_remainder_lt read⟩
  obtain ⟨taken, split, ends⟩ := (Grammar.divides stands.read).last
  refine ⟨found.front ++ found.key, behind, found.key ++ ':' :: taken, stands.split, ?_, ?_, ?_⟩
  · rw [stands.split, split]
    simp only [List.append_assoc, List.cons_append]
  · change some (byteSize (found.front ++ found.key) - _) = _
    rw [byteSize_front, stands.dropWhile_key, List.reverse_reverse]
  · have sized : byteSize (found.front ++ (found.key ++ ':' :: taken)) =
        byteSize (found.front ++ found.key) + 1 + byteSize taken := by
      rw [← byteSize_colon, ← byteSize_append]
      simp only [List.append_assoc, List.singleton_append]
    unfold divisionsAt
    rw [List.getLast?_append, List.getLast?_map, List.getLast?_cons, ends, sized]
    rfl

end RelationQuery.Search
