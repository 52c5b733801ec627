import RelationQuery.Proofs.Trimming
import RelationQuery.Search.Lexer

/-!
# When a search text has terms

A colon right behind a character of a key is where a term begins. The last grammar reads any text
behind such a colon, and no grammar begins elsewhere, so a search text has a term exactly when it
has such a colon; neither trimming nor cutting out terms changes whether there is a first one.
-/

namespace RelationQuery.Search

open Text (not_blank_of_bounds)

/-- A colon stands directly behind a character of a key. -/
def HasKey (text : List Char) : Prop := ∃ c, isKeyChar c = true ∧ [c, ':'] <:+: text

/-! ## Where terms begin -/

theorem key_of_termAt? {grammar : Grammar} {before behind : List Char} {found : Found}
    (read : termAt? grammar before behind = some found) :
    ∃ c rest, before = c :: rest ∧ isKeyChar c = true := by
  cases before with
  | nil => cases read
  | cons c rest =>
      refine ⟨c, rest, rfl, ?_⟩
      cases isKey : isKeyChar c with
      | true => rfl
      | false =>
          have none : (c :: rest).takeWhile isKeyChar = [] :=
            List.takeWhile_cons_of_neg (by simp [isKey])
          unfold termAt? at read
          rw [none] at read
          cases read

/-- The last grammar reads a term behind every character of a key. -/
theorem termAt?_string {c : Char} (isKey : isKeyChar c = true) (rest behind : List Char) :
    termAt? .string (c :: rest) behind ≠ none := by
  have some : (c :: rest).takeWhile isKeyChar = c :: rest.takeWhile isKeyChar :=
    List.takeWhile_cons_of_pos isKey
  unfold termAt?
  rw [some]
  exact fun same => nomatch same

theorem hasKey_of_find? {grammar : Grammar} {before text : List Char} {found : Found}
    (read : find? grammar before text = some found) : HasKey (before.reverse ++ text) := by
  induction text generalizing before with
  | nil => cases read
  | cons c rest ih =>
      have onward (later : find? grammar (c :: before) rest = some found) :
          HasKey (before.reverse ++ c :: rest) := by
        have key := ih later
        rwa [List.reverse_cons, List.append_assoc] at key
      unfold find? at read
      split at read
      · rename_i colon
        split at read
        · rename_i term here
          obtain ⟨d, more, rfl, isKey⟩ := key_of_termAt? here
          subst colon
          refine ⟨d, isKey, more.reverse, rest, ?_⟩
          rw [List.reverse_cons, List.append_assoc, List.append_assoc]
          rfl
        · exact onward read
      · exact onward read

/-- Where the last grammar finds nothing, no key stands that was not passed before. -/
theorem key_of_find?_string {before text : List Char} (read : find? .string before text = none)
    {c : Char} (isKey : isKeyChar c = true) (member : [c, ':'] <:+: before.reverse ++ text) :
    [c, ':'] <:+: before.reverse := by
  induction text generalizing before with
  | nil => rwa [List.append_nil] at member
  | cons d rest ih =>
      have later : find? .string (d :: before) rest = none := by
        unfold find? at read
        split at read
        · split at read
          · cases read
          · exact read
        · exact read
      have passed : [c, ':'] <:+: before.reverse ++ [d] := by
        have inner := ih later
        rw [List.reverse_cons, List.append_assoc] at inner
        exact inner member
      rcases List.infix_concat_iff.mp passed with ends | early
      · have front : [':', c] <+: d :: before := by
          have turned := List.reverse_prefix.mpr ends
          rwa [List.reverse_append, List.reverse_reverse] at turned
        obtain ⟨rfl, more, rfl⟩ := List.cons_prefix_cons.mp front
        unfold find? at read
        rw [if_pos rfl] at read
        split at read
        · cases read
        · rename_i none
          exact absurd none (termAt?_string isKey more rest)
      · exact early

theorem find?_string_eq_none_iff {text : List Char} :
    find? .string [] text = none ↔ ¬ HasKey text := by
  constructor
  · rintro read ⟨c, isKey, member⟩
    have none := key_of_find?_string read isKey member
    cases List.infix_nil.mp none
  · intro absent
    cases read : find? .string [] text with
    | none => rfl
    | some found => exact absurd (hasKey_of_find? read) absent

/-! ## Running the grammars -/

theorem exhaust_of_none {grammar : Grammar} {text : List Char}
    (read : find? grammar [] text = none) : exhaust grammar text = ([], text) := by
  unfold exhaust
  split
  · rfl
  · rename_i found here
    rw [read] at here
    cases here

theorem exhaust_of_find? {grammar : Grammar} {text : List Char} {found : Found}
    (read : find? grammar [] text = some found) :
    exhaust grammar text =
      (found.term :: (exhaust grammar found.remainder).1, (exhaust grammar found.remainder).2) := by
  rw [exhaust]
  split
  · rename_i none
    rw [read] at none
    cases none
  · rename_i other same
    rw [read] at same
    cases same
    rfl

/-- A grammar that finds nothing leaves the text as it is, so the grammars find no term exactly when
none of them finds one in the whole text. -/
theorem exhaustAll_eq_nil_iff {grammars : List Grammar} {text : List Char} :
    (exhaustAll grammars text).1 = [] ↔ ∀ grammar ∈ grammars, find? grammar [] text = none := by
  induction grammars with
  | nil => exact ⟨fun _ _ member => (nomatch member), fun _ => rfl⟩
  | cons grammar later ih =>
      change (exhaust grammar text).1 ++ (exhaustAll later (exhaust grammar text).2).1 = [] ↔ _
      rw [List.append_eq_nil_iff]
      cases read : find? grammar [] text with
      | none =>
          rw [exhaust_of_none read, ih]
          constructor
          · rintro ⟨_, rest⟩ other member
            rcases List.mem_cons.mp member with rfl | member
            · exact read
            · exact rest other member
          · exact fun all => ⟨rfl, fun other member => all other (List.mem_cons_of_mem _ member)⟩
      | some found =>
          constructor
          · rw [exhaust_of_find? read]
            exact fun both => absurd both.1 (List.cons_ne_nil _ _)
          · intro all
            have none := all grammar List.mem_cons_self
            rw [read] at none
            cases none

/-! ## Trimming -/

theorem infix_dropWhile {drop : Char → Bool} {c : Char} (kept : drop c = false)
    {tail text : List Char} (member : c :: tail <:+: text) :
    c :: tail <:+: text.dropWhile drop := by
  induction text with
  | nil => exact member
  | cons d rest ih =>
      rcases List.infix_cons_iff.mp member with front | later
      · obtain ⟨rfl, _⟩ := List.cons_prefix_cons.mp front
        rw [List.dropWhile_cons_of_neg (by simp [kept])]
        exact member
      · by_cases dropped : drop d = true
        · rw [List.dropWhile_cons_of_pos dropped]
          exact ih later
        · rw [List.dropWhile_cons_of_neg dropped]
          exact member

theorem infix_trim {c d : Char} (front : Text.isBlank c = false) (back : Text.isBlank d = false)
    {text : List Char} (member : [c, d] <:+: text) : [c, d] <:+: Text.trim text := by
  have left : [c, d] <:+: Text.trimLeft text := infix_dropWhile front member
  have turned : [d, c] <:+: (Text.trimLeft text).reverse := List.reverse_infix.mpr left
  exact List.reverse_infix.mp (by
    rw [Text.trim, Text.trimRight, List.reverse_reverse]
    exact infix_dropWhile back turned)

theorem infix_of_trim (text : List Char) : Text.trim text <:+: text := by
  have left : Text.trimLeft text <:+: text := (List.dropWhile_suffix Text.isBlank).isInfix
  have right : Text.trim text <:+: Text.trimLeft text := by
    apply List.reverse_infix.mp
    rw [Text.trim, Text.trimRight, List.reverse_reverse]
    exact (List.dropWhile_suffix Text.isBlank).isInfix
  exact right.trans left

theorem bounds_of_keyChar {c : Char} (isKey : isKeyChar c = true) :
    33 ≤ c.toNat ∧ c.toNat ≤ 126 := by
  rcases Bool.or_eq_true_iff.mp isKey with rest | hyphen
  · rcases Bool.or_eq_true_iff.mp rest with alphanumeric | brace
    · rcases Bool.or_eq_true_iff.mp alphanumeric with letter | digit
      · have bounds := Sql.bounds_of_letter letter
        omega
      · have bounds := Sql.bounds_of_digit digit
        omega
    · rw [beq_iff_eq.mp brace]
      decide
  · rw [beq_iff_eq.mp hyphen]
    decide

theorem bounds_of_lowerHex {c : Char} (hex : Uuid.isLowerHex c = true) :
    48 ≤ c.toNat ∧ c.toNat ≤ 102 := by
  rcases Bool.or_eq_true_iff.mp hex with digit | letter
  · have bounds := Sql.bounds_of_digit digit
    omega
  · obtain ⟨least, most⟩ := (Bool.and_eq_true _ _).mp letter
    have least : 97 ≤ c.toNat := UInt32.le_iff_toNat_le.mp (of_decide_eq_true least)
    have most : c.toNat ≤ 102 := UInt32.le_iff_toNat_le.mp (of_decide_eq_true most)
    omega

theorem not_blank_of_keyChar {c : Char} (isKey : isKeyChar c = true) : Text.isBlank c = false :=
  not_blank_of_bounds (bounds_of_keyChar isKey)

theorem hasKey_trim_iff (text : List Char) : HasKey (Text.trim text) ↔ HasKey text := by
  constructor
  · rintro ⟨c, isKey, member⟩
    exact ⟨c, isKey, member.trans (infix_of_trim text)⟩
  · rintro ⟨c, isKey, member⟩
    exact ⟨c, isKey, infix_trim (not_blank_of_keyChar isKey) (by decide) member⟩

/-- A search text has terms exactly when a colon stands behind a character of a key. -/
theorem terms_eq_nil_iff (text : String) : (lex text).terms = [] ↔ ¬ HasKey text.toList := by
  rw [← hasKey_trim_iff, ← find?_string_eq_none_iff]
  change (exhaustAll Grammar.all (Text.trim text.toList)).1 = [] ↔ _
  rw [exhaustAll_eq_nil_iff]
  constructor
  · exact fun all => all .string (by decide)
  · intro none grammar _
    cases read : find? grammar [] (Text.trim text.toList) with
    | none => rfl
    | some found =>
        exact absurd (hasKey_of_find? read) (find?_string_eq_none_iff.mp none)

/-! ## The characters of a key -/

theorem keyChar_of_find? {grammar : Grammar} {before text : List Char} {found : Found}
    (read : find? grammar before text = some found) : Sql.MadeOf isKeyChar found.key := by
  induction text generalizing before with
  | nil => cases read
  | cons c rest ih =>
      unfold find? at read
      split at read
      · split at read
        · rename_i here
          cases read
          unfold termAt? at here
          dsimp only at here
          split at here
          · cases here
          · obtain ⟨_, _, rfl⟩ := Option.map_eq_some_iff.mp here
            intro d member
            exact List.all_eq_true.mp List.all_takeWhile d (List.mem_reverse.mp member)
        · exact ih read
      · exact ih read

theorem keyChar_of_exhaust {grammar : Grammar} {text : List Char} {term : Term}
    (member : term ∈ (exhaust grammar text).1) : Sql.MadeOf isKeyChar term.key.toList := by
  fun_induction exhaust grammar text with
  | case1 => cases member
  | case2 text found read later ih =>
      rcases List.mem_cons.mp member with rfl | behind
      · change Sql.MadeOf isKeyChar (String.ofList found.key).toList
        rw [String.toList_ofList]
        exact keyChar_of_find? read
      · exact ih behind

theorem keyChar_of_exhaustAll {grammars : List Grammar} {text : List Char} {term : Term}
    (member : term ∈ (exhaustAll grammars text).1) : Sql.MadeOf isKeyChar term.key.toList := by
  induction grammars generalizing text with
  | nil => cases member
  | cons grammar later ih =>
      rcases List.mem_append.mp member with here | behind
      · exact keyChar_of_exhaust here
      · exact ih behind

/-- The keys of terms are made of the characters of keys. -/
theorem keyChar_of_lex {text : String} {term : Term} (member : term ∈ (lex text).terms) :
    Sql.MadeOf isKeyChar term.key.toList :=
  keyChar_of_exhaustAll member

end RelationQuery.Search
