import RelationQuery.Proofs.Divisions
import RelationQuery.Proofs.Trimming

/-!
# Lexing leaves nothing to find

Each term takes a colon out of the text, so the grammars come to an end, whatever the text is. The
last of them reads something behind every key, so no key is left when it has run; what is left is a
part of the text, and lexing it again changes nothing.
-/

namespace RelationQuery.Search

/-! ## One grammar -/

/-- What a grammar leaves has nothing more for it. -/
theorem find?_exhaust (grammar : Grammar) (text : List Char) :
    find? grammar [] (exhaust grammar text).2 = none := by
  fun_induction exhaust grammar text with
  | case1 text none => exact none
  | case2 text found read later ih => exact ih

theorem sublist_exhaust (grammar : Grammar) (text : List Char) :
    (exhaust grammar text).2.Sublist text := by
  fun_induction exhaust grammar text with
  | case1 text none => exact List.Sublist.refl text
  | case2 text found read later ih =>
      obtain ⟨behind, stands⟩ := exists_standsIn_of_find? read
      exact ih.trans stands.sublist_remainder

/-- Every term has taken a colon. -/
theorem length_exhaust_le (grammar : Grammar) (text : List Char) :
    (exhaust grammar text).1.length + (exhaust grammar text).2.count ':' ≤ text.count ':' := by
  fun_induction exhaust grammar text with
  | case1 text none => exact Nat.le_of_eq (Nat.zero_add _)
  | case2 text found read later ih =>
      obtain ⟨behind, stands⟩ := exists_standsIn_of_find? read
      have taken := stands.count_remainder_lt
      have onward : later.1.length + later.2.count ':' ≤ found.remainder.count ':' := ih
      simp only [List.length_cons]
      omega

theorem trim_exhaust {grammar : Grammar} {text : List Char} (trimmed : Text.trim text = text) :
    Text.trim (exhaust grammar text).2 = (exhaust grammar text).2 := by
  fun_induction exhaust grammar text with
  | case1 text none => exact trimmed
  | case2 text found read later ih => exact ih (Text.trim_trim _)

/-! ## All grammars -/

theorem exhaustAll_append (first second : List Grammar) (text : List Char) :
    exhaustAll (first ++ second) text =
      ((exhaustAll first text).1 ++ (exhaustAll second (exhaustAll first text).2).1,
        (exhaustAll second (exhaustAll first text).2).2) := by
  induction first generalizing text with
  | nil => rfl
  | cons grammar later ih =>
      simp only [List.cons_append, exhaustAll, ih, List.append_assoc]

theorem sublist_exhaustAll (grammars : List Grammar) (text : List Char) :
    (exhaustAll grammars text).2.Sublist text := by
  induction grammars generalizing text with
  | nil => exact List.Sublist.refl text
  | cons grammar later ih => exact (ih _).trans (sublist_exhaust grammar text)

theorem length_exhaustAll_le (grammars : List Grammar) (text : List Char) :
    (exhaustAll grammars text).1.length + (exhaustAll grammars text).2.count ':' ≤
      text.count ':' := by
  induction grammars generalizing text with
  | nil => exact Nat.le_of_eq (Nat.zero_add _)
  | cons grammar later ih =>
      have here := length_exhaust_le grammar text
      have behind := ih (exhaust grammar text).2
      simp only [exhaustAll, List.length_append]
      omega

theorem trim_exhaustAll {grammars : List Grammar} {text : List Char}
    (trimmed : Text.trim text = text) :
    Text.trim (exhaustAll grammars text).2 = (exhaustAll grammars text).2 := by
  induction grammars generalizing text with
  | nil => exact trimmed
  | cons grammar later ih => exact ih (trim_exhaust trimmed)

theorem exhaustAll_of_none {grammars : List Grammar} {text : List Char}
    (none : ∀ grammar ∈ grammars, find? grammar [] text = none) :
    exhaustAll grammars text = ([], text) := by
  induction grammars with
  | nil => rfl
  | cons grammar later ih =>
      have here := none grammar List.mem_cons_self
      have behind := ih fun other member => none other (List.mem_cons_of_mem _ member)
      simp only [exhaustAll, exhaust_of_none here, behind, List.append_nil]

/-- Where no key is, no grammar finds anything. -/
theorem exhaustAll_of_keyless (grammars : List Grammar) {text : List Char}
    (keyless : ¬ HasKey text) : exhaustAll grammars text = ([], text) := by
  apply exhaustAll_of_none
  intro grammar _
  cases read : find? grammar [] text with
  | none => rfl
  | some found => exact absurd (hasKey_of_find? read) keyless

def compactGrammars : List Grammar := [.null, .uuid, .bool, .range]

/-- The last grammar runs on what the others have left. -/
theorem exhaustAll_all (text : List Char) : exhaustAll Grammar.all text =
    ((exhaustAll compactGrammars text).1 ++ (exhaust .string (exhaustAll compactGrammars text).2).1,
      (exhaust .string (exhaustAll compactGrammars text).2).2) := by
  have last := exhaustAll_append compactGrammars [.string] text
  simp only [exhaustAll, List.append_nil] at last ⊢
  exact last

/-! ## Search texts -/

/-- What lexing makes of a text: no more terms than there are colons, and a residual that is a
trimmed part of the text, without keys, from which lexing it again takes nothing. -/
structure Lexed.Exhausts (lexed : Lexed) (text : String) : Prop where
  terms_le : lexed.terms.length ≤ text.toList.count ':'
  trimmed : Text.trim lexed.residual.toList = lexed.residual.toList
  part : lexed.residual.toList.Sublist text.toList
  keyless : ¬ HasKey lexed.residual.toList
  again : lex lexed.residual = ⟨[], lexed.residual⟩
  terms_eq_nil_iff : lexed.terms = [] ↔ ¬ HasKey text.toList

theorem toList_residual (text : String) :
    (lex text).residual.toList = (exhaustAll Grammar.all (Text.trim text.toList)).2 :=
  String.toList_ofList

theorem keyless_residual (text : String) : ¬ HasKey (lex text).residual.toList := by
  rw [toList_residual, exhaustAll_all, ← find?_string_eq_none_iff]
  exact find?_exhaust _ _

theorem trim_residual (text : String) :
    Text.trim (lex text).residual.toList = (lex text).residual.toList := by
  rw [toList_residual]
  exact trim_exhaustAll (Text.trim_trim _)

theorem lex_of_keyless {text : String} (trimmed : Text.trim text.toList = text.toList)
    (keyless : ¬ HasKey text.toList) : lex text = ⟨[], text⟩ := by
  unfold lex
  rw [trimmed, exhaustAll_of_keyless _ keyless]
  exact congrArg (Lexed.mk []) String.ofList_toList

theorem exhausts_lex (text : String) : (lex text).Exhausts text where
  terms_le := by
    have colons := length_exhaustAll_le Grammar.all (Text.trim text.toList)
    have fewer := (Text.trim_sublist text.toList).count_le ':'
    change (exhaustAll Grammar.all (Text.trim text.toList)).1.length ≤ _
    omega
  trimmed := trim_residual text
  part := by
    rw [toList_residual]
    exact (sublist_exhaustAll _ _).trans (Text.trim_sublist _)
  keyless := keyless_residual text
  again := lex_of_keyless (trim_residual text) (keyless_residual text)
  terms_eq_nil_iff := Search.terms_eq_nil_iff text

/-- Lexing comes to an end at every text, dividing no character on the way: at any colon, of a
search text or of what is left of it, the text is divided between characters only; a term is cut out
between two such places and leaves a shorter text; and in the end nothing is left to find. -/
theorem lexing_exhausts :
    (∀ (grammar : Grammar) (passed behind : List Char),
      ∀ offset ∈ divisionsAt grammar passed behind,
        IsBoundary (passed ++ ':' :: behind) offset) ∧
    (∀ (grammar : Grammar) (text : List Char) (found : Found),
      find? grammar [] text = some found → found.CutOut grammar text) ∧
    ∀ text : String, (lex text).Exhausts text :=
  ⟨isBoundary_divisionsAt, fun _ _ _ => Found.cutOut_of_find?, exhausts_lex⟩

/-- A key, a colon and a quotation behind and around characters of two bytes. -/
theorem exhausts_several_bytes : ∃ found,
    IsBoundary "älter:\"größer\"||null ü".toList 16 ∧
      find? .string [] "älter:\"größer\"||null ü".toList = some found ∧
      found.CutOut .string "älter:\"größer\"||null ü".toList ∧
      (lex "älter:\"größer\"||null ü").Exhausts "älter:\"größer\"||null ü" := by
  refine ⟨_, ?_, rfl, lexing_exhausts.2.1 _ _ _ rfl, lexing_exhausts.2.2 _⟩
  exact lexing_exhausts.1 .string "älter".toList "\"größer\"||null ü".toList 16 (by decide)

end RelationQuery.Search
