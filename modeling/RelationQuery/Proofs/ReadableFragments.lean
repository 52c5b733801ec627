import RelationQuery.Proofs.QuotedRegions

/-!
# Fragments without numbers

A reader meets no number in a fragment when no digit stands behind a dollar sign outside quotes.
Such a fragment keeps its footing once its placeholders are slots, provided that it closes its
quotes; a target without quotation marks leaves the quoting as it is.
-/

namespace RelationQuery.Sql

open Template (aim isQuote)

/-! ## Quoting of aimed fragments -/

theorem openQuote_eq_foldl (quote : Option Char) (text : List Char) :
    openQuote quote text = text.foldl (fun quote c => openQuote quote [c]) quote := by
  induction text generalizing quote with
  | nil => cases quote <;> rfl
  | cons c rest ih =>
      rw [List.foldl_cons, ← ih]
      cases quote <;> rfl

def SoundQuote (quote : Option Char) : Prop := ∀ mark ∈ quote, isQuote mark = true

theorem soundQuote_none : SoundQuote none := fun _ member => nomatch member

theorem soundQuote_step (quote : Option Char) (c : Char) (sound : SoundQuote quote) :
    SoundQuote (openQuote quote [c]) := by
  cases quote with
  | none =>
      change SoundQuote (if isQuote c then some c else none)
      split
      · rintro _ ⟨⟩
        assumption
      · exact soundQuote_none
  | some mark =>
      change SoundQuote (if c == mark then none else some mark)
      split
      · exact soundQuote_none
      · exact sound

theorem openQuote_unquoted {quote : Option Char} (sound : SoundQuote quote) {text : List Char}
    (unquoted : Unquoted text) : openQuote quote text = quote := by
  induction text with
  | nil => cases quote <;> rfl
  | cons c rest ih =>
      obtain ⟨here, later⟩ := List.forall_mem_cons.mp unquoted
      have same : openQuote quote [c] = quote := by
        cases quote with
        | none => simp [openQuote, here]
        | some mark =>
            have other : c ≠ mark := by
              rintro rfl
              exact absurd (here.symm.trans (sound c rfl)) Bool.false_ne_true
            simp [openQuote, other]
      rw [openQuote_eq_foldl, List.foldl_cons, ← openQuote_eq_foldl, same]
      exact ih later

theorem openQuote_replace {word substitute : List Char} (nonempty : word ≠ [])
    (plainWord : Unquoted word) (plain : Unquoted substitute) (text : List Char) :
    openQuote none (Text.replace word substitute text) = openQuote none text := by
  rw [openQuote_eq_foldl, openQuote_eq_foldl none text]
  apply Text.foldl_replace soundQuote_step _ nonempty text soundQuote_none
  intro quote sound
  rw [← openQuote_eq_foldl, ← openQuote_eq_foldl, openQuote_unquoted sound plain,
    openQuote_unquoted sound plainWord]

/-- A target without quotation marks leaves the quoting of a fragment as it is. -/
theorem openQuote_aim {target : Option Relation} (unquoted : UnquotedTarget target)
    (text : List Char) : openQuote none (aim target text) = openQuote none text := by
  have scheme : Unquoted Template.schemeToken.toList := by decide
  have table : Unquoted Template.tableToken.toList := by decide
  cases target with
  | none => rfl
  | some relation =>
      obtain ⟨plainScheme, plainTable⟩ := unquoted relation rfl
      rw [aim_eq, openQuote_replace (by decide) table plainTable,
        openQuote_replace (by decide) scheme plainScheme]

/-! ## Fragments that a reader passes -/

theorem places_append (front back : List Token) :
    places (front ++ back) = places front ++ places back := List.filterMap_append

theorem places_passed (c : Char) : places (Reader.passed c) = [] := by
  unfold Reader.passed
  split <;> rfl

/-- Digits behind a dollar sign are a placeholder, however the text goes on. -/
theorem places_read_number (digits text : List Char) :
    places (Reader.read (.number digits) text) ≠ [] := by
  induction text generalizing digits with
  | nil => simp [Reader.read, places, Token.place?]
  | cons c rest ih =>
      rw [Reader.read]
      split
      · exact ih _
      · simp [places, Token.place?]

/-- Text in which a reader meets no placeholder ends where its quotes say. -/
theorem Footing.ends_of_places {reader : Reader} {footing : Footing} (on : reader.On footing)
    {quote : Option Char} (here : footing.Ends quote) {text : List Char}
    (unnumbered : places (reader.read text) = []) :
    (footing.run (chars text)).Ends (openQuote quote text) := by
  induction text generalizing reader footing quote with
  | nil => cases quote <;> exact here
  | cons c rest ih =>
      have passed {later : Reader} (read : places (Reader.passed c ++ later.read rest) = []) :
          places (later.read rest) = [] := by
        rwa [places_append, places_passed] at read
      cases on with
      | outside =>
          cases quote with
          | none => exact ih (.after c) (Footing.ends_after c) (passed unnumbered)
          | some mark => exact absurd here (fun same => nomatch same)
      | quoted inner =>
          cases quote with
          | none => exact absurd here (by rintro (same | same) <;> cases same)
          | some mark =>
              cases here
              exact ih (.closing inner c) (Footing.ends_closing inner c) unnumbered
      | dollar =>
          cases quote with
          | some mark => exact absurd here (fun same => nomatch same)
          | none =>
              rw [Reader.read] at unnumbered
              cases digit : c.isDigit with
              | true =>
                  rw [if_pos digit] at unnumbered
                  exact absurd unnumbered (places_read_number [c] rest)
              | false =>
                  rw [if_neg (by simp [digit])] at unnumbered
                  change ((Footing.loose.step (.char c)).run (chars rest)).Ends _
                  rw [Footing.step_of_outside here fun _ => digit]
                  exact ih (.after c) (Footing.ends_after c) (passed unnumbered)
      | number digits => exact absurd unnumbered (places_read_number digits (c :: rest))

/-- A fragment that closes its quotes and, once aimed, has no number outside them. -/
structure Readable (target : Option Relation) (template : String) : Prop where
  closed : openQuote none template.toList = none
  unnumbered : places (Reader.outside.read (aim target template.toList)) = []

theorem settled_readable {target : Option Relation} (unquoted : UnquotedTarget target)
    {template : String} (readable : Readable target template) :
    Settled (Template.pieces target template) := by
  have outside : Footing.firm.Ends none := .inl rfl
  have ended := Footing.ends_of_places .outside outside readable.unnumbered
  rw [openQuote_aim unquoted, readable.closed] at ended
  exact Footing.run_scan (.outside (.inl rfl)) ended

end RelationQuery.Sql
