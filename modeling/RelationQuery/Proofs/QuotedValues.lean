import RelationQuery.Proofs.PrintedTerms
import RelationQuery.Proofs.ValueWords

/-!
# Quotations

A quotation keeps its text from the last grammar only. The grammars before it look for their words
at every colon, inside quotation marks as well; neither these marks nor the backslashes before those
of the text hide such a word from them or make one.
-/

namespace RelationQuery.Search

/-- A key, a colon and a text in quotation marks, which may let null pass as well. -/
def quotedTerm (key : Key) (text : String) (orNull : Bool) : String :=
  String.ofList (key.chars ++ ':' :: '"' :: (escape text.toList ++ '"' :: ending orNull))

/-! ## Escaping -/

/-- Escaping leaves the front of a text, up to the first mark. -/
theorem prefix_escape_iff {piece : List Char} (unquoted : '"' ∉ piece) (unescaped : '\\' ∉ piece)
    {text : List Char} : piece <+: escape text ↔ piece <+: text := by
  induction piece generalizing text with
  | nil => exact iff_of_true List.nil_prefix List.nil_prefix
  | cons d piece ih =>
      have notMark : d ≠ '"' := fun same => unquoted (same ▸ List.mem_cons_self)
      have notSlash : d ≠ '\\' := fun same => unescaped (same ▸ List.mem_cons_self)
      cases text with
      | nil => exact Iff.rfl
      | cons c rest =>
          by_cases mark : c = '"'
          · subst mark
            rw [escape_mark, List.cons_prefix_cons, List.cons_prefix_cons]
            exact iff_of_false (fun both => notSlash both.1) fun both => notMark both.1
          · rw [escape_cons mark, List.cons_prefix_cons, List.cons_prefix_cons,
              ih (fun member => unquoted (List.mem_cons_of_mem _ member))
                fun member => unescaped (List.mem_cons_of_mem _ member)]

theorem infix_escape_iff {piece : List Char} (unquoted : '"' ∉ piece) (unescaped : '\\' ∉ piece)
    {text : List Char} : piece <:+: escape text ↔ piece <:+: text := by
  induction text with
  | nil => exact Iff.rfl
  | cons c rest ih =>
      by_cases mark : c = '"'
      · subst mark
        have slash := infix_append_cons_iff unescaped [] ('"' :: escape rest)
        have quote := infix_append_cons_iff unquoted [] (escape rest)
        have plain := infix_append_cons_iff unquoted [] rest
        rw [List.nil_append] at slash quote plain
        rw [escape_mark, slash, quote, plain, ih, ← or_assoc, or_self]
      · rw [escape_cons mark, List.infix_cons_iff, List.infix_cons_iff, ih,
          ← escape_cons mark, prefix_escape_iff unquoted unescaped]

theorem foreign_quote : Foreign '"' := ⟨by decide, by decide, by decide⟩

theorem foreign_backslash : Foreign '\\' := ⟨by decide, by decide, by decide⟩

/-- Escaping neither hides a word that names a value nor makes one. -/
theorem holdsValue_escape_iff {text : List Char} : HoldsValue (escape text) ↔ HoldsValue text := by
  unfold HoldsValue
  refine exists_congr fun c => exists_congr fun word => and_congr_right fun isKey =>
    and_congr_right fun names => ?_
  exact infix_escape_iff (foreign_quote.not_mem isKey names)
    (foreign_backslash.not_mem isKey names)

/-- A quoted term holds the values of its text. -/
theorem holdsValue_quotation_iff (key : Key) {text : List Char} (orNull : Bool) :
    HoldsValue (key.chars ++ ':' :: '"' :: (escape text ++ '"' :: ending orNull)) ↔
      HoldsValue text := by
  have opening : ¬BeginsValue ('"' :: (escape text ++ '"' :: ending orNull)) := fun begins =>
    absurd begins.head (by simp [foreign_quote.notWord])
  have closing : ¬HoldsValue (ending orNull) := fun holds =>
    colonless_ending orNull holds.colon_mem
  have start := holdsValue_append_cons_iff foreign_quote []
    (escape text ++ '"' :: ending orNull)
  rw [List.nil_append] at start
  rw [holdsValue_key_iff, or_iff_right opening, start, or_iff_right fun holds =>
    List.not_mem_nil holds.colon_mem, holdsValue_append_cons_iff foreign_quote,
    or_iff_left closing, holdsValue_escape_iff]

/-! ## Lexing a quotation -/

/-- The last grammar reads a quotation to its end. -/
theorem find?_quotation (key : Key) {text : List Char}
    (oneLine : ∀ c ∈ text, isLineBreak c = false) (unescaped : '\\' ∉ text) (orNull : Bool) :
    find? .string [] (key.chars ++ ':' :: '"' :: (escape text ++ '"' :: ending orNull)) =
      some ⟨[], key.chars, ⟨.equals (.text (String.ofList text)) orNull, []⟩⟩ := by
  have read : Grammar.string.read? ('"' :: (escape text ++ '"' :: ending orNull)) =
      some ⟨.equals (.text (String.ofList text)) orNull, []⟩ := by
    rw [Grammar.read?, readQuoted?_escape oneLine unescaped]
    rfl
  rw [find?_key, read]
  rfl

theorem lex_quotedTerm (key : Key) {text : String}
    (oneLine : ∀ c ∈ text.toList, isLineBreak c = false) (unescaped : '\\' ∉ text.toList)
    (orNull : Bool) (valueless : ¬HoldsValue text.toList) :
    lex (quotedTerm key text orNull) =
      ⟨[⟨String.ofList key.chars, .equals (.text text) orNull⟩], ""⟩ := by
  have nothing : exhaust .string [] = ([], []) := exhaust_of_none rfl
  have without := (not_congr (holdsValue_quotation_iff key orNull)).mpr valueless
  rw [quotedTerm, lex_of_valueless without, trim_quotation,
    exhaust_of_find? (find?_quotation key oneLine unescaped orNull)]
  change Lexed.mk (_ :: (exhaust .string []).1) (String.ofList (exhaust .string []).2) = _
  rw [nothing, Found.term, String.ofList_toList]

/-- A quotation protects its text, to be read back as the one term and all there is, exactly when
the text has no word that names a value behind a key and a colon. -/
theorem quotation_protects_iff (key : Key) {text : String}
    (oneLine : ∀ c ∈ text.toList, isLineBreak c = false) (unescaped : '\\' ∉ text.toList)
    (orNull : Bool) :
    lex (quotedTerm key text orNull) =
        ⟨[⟨String.ofList key.chars, .equals (.text text) orNull⟩], ""⟩ ↔
      ¬HoldsValue text.toList := by
  constructor
  · intro whole holds
    -- The first term is that of a word; the text has a colon, and no such word has one.
    obtain ⟨term, first, colonless⟩ := head?_lex_of_holdsValue
      ((holdsValue_quotation_iff key orNull).mpr holds)
    rw [← quotedTerm, whole] at first
    cases first
    exact colonless text orNull rfl holds.colon_mem
  · exact lex_quotedTerm key oneLine unescaped orNull

theorem quotation_protects_times :
    lex (quotedTerm ⟨['a', 't'], by decide, by decide⟩ "12:30 \"noon\"" true) =
        ⟨[⟨"at", .equals (.text "12:30 \"noon\"") true⟩], ""⟩ ∧
      lex (quotedTerm ⟨['a', 't'], by decide, by decide⟩ "12:30-40" true) ≠
        ⟨[⟨"at", .equals (.text "12:30-40") true⟩], ""⟩ := by
  constructor
  · exact (quotation_protects_iff ⟨['a', 't'], by decide, by decide⟩
      (by simp [isLineBreak]) (by decide) true).mpr (by decide)
  · exact fun whole => (quotation_protects_iff ⟨['a', 't'], by decide, by decide⟩
      (by simp [isLineBreak]) (by decide) true).mp whole (by decide)

end RelationQuery.Search
