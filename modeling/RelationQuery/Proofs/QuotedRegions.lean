import RelationQuery.Proofs.Targets

/-!
# Quoted regions of fragments

A text is cut at its quotation marks into regions, by turns outside and inside quotes. Numbering
copies what stands inside. The tokens of the target give way there as everywhere else, one region at
a time, as long as the names of the target hold no quotation marks themselves.
-/

namespace RelationQuery.Sql

open Template (aim isQuote scan Scan written)

/-- A part of a text outside quotes, or inside them with the marks around it. -/
structure Region where
  quoted : Bool
  text : List Char
  deriving DecidableEq, Repr

/-- The regions of the rest of a text, the first of which begins with what is read of it. -/
def regionsFrom : Option Char → List Char → List Char → List Region
  | none, read, [] => [⟨false, read⟩]
  | some _, read, [] => [⟨true, read⟩]
  | none, read, c :: rest =>
      if isQuote c then ⟨false, read⟩ :: regionsFrom (some c) [c] rest
      else regionsFrom none (read ++ [c]) rest
  | some mark, read, c :: rest =>
      if c == mark then ⟨true, read ++ [c]⟩ :: regionsFrom none [] rest
      else regionsFrom (some mark) (read ++ [c]) rest

def regions (text : List Char) : List Region := regionsFrom none [] text

/-! ## Where a region ends -/

def Unquoted (text : List Char) : Prop := ∀ c ∈ text, isQuote c = false

instance (text : List Char) : Decidable (Unquoted text) :=
  List.decidableBAll (isQuote · = false) text

theorem unquoted_or_split (text : List Char) :
    Unquoted text ∨ ∃ front mark back,
      text = front ++ mark :: back ∧ Unquoted front ∧ isQuote mark = true := by
  induction text with
  | nil => exact .inl fun c member => nomatch member
  | cons c rest ih =>
      cases quote : isQuote c with
      | true => exact .inr ⟨[], c, rest, rfl, List.forall_mem_nil _, quote⟩
      | false =>
          rcases ih with unquoted | ⟨front, mark, back, rfl, unquoted, opens⟩
          · exact .inl (List.forall_mem_cons.mpr ⟨quote, unquoted⟩)
          · exact .inr ⟨c :: front, mark, back, rfl, List.forall_mem_cons.mpr ⟨quote, unquoted⟩,
              opens⟩

theorem regionsFrom_none {front : List Char} (unquoted : Unquoted front) (read rest : List Char) :
    regionsFrom none read (front ++ rest) = regionsFrom none (read ++ front) rest := by
  induction front generalizing read with
  | nil => simp
  | cons c front ih =>
      obtain ⟨here, later⟩ := List.forall_mem_cons.mp unquoted
      have onward := ih later (read ++ [c])
      simpa [regionsFrom, here] using onward

theorem regionsFrom_some {mark : Char} {front : List Char} (absent : mark ∉ front)
    (read rest : List Char) :
    regionsFrom (some mark) read (front ++ rest) =
      regionsFrom (some mark) (read ++ front) rest := by
  induction front generalizing read with
  | nil => simp
  | cons c front ih =>
      obtain ⟨here, later⟩ := not_or.mp (List.mem_cons.not.mp absent)
      have onward := ih later (read ++ [c])
      simpa [regionsFrom, Ne.symm here] using onward

theorem regions_of_unquoted {text : List Char} (unquoted : Unquoted text) :
    regions text = [⟨false, text⟩] := by
  have whole := regionsFrom_none unquoted [] []
  simpa [regions, regionsFrom] using whole

theorem regions_split {front : List Char} (unquoted : Unquoted front) {mark : Char}
    (opens : isQuote mark = true) (back : List Char) :
    regions (front ++ mark :: back) =
      ⟨false, front⟩ :: regionsFrom (some mark) [mark] back := by
  have before := regionsFrom_none unquoted [] (mark :: back)
  simpa [regions, regionsFrom, opens] using before

theorem regionsFrom_some_of_not_mem {mark : Char} {text : List Char} (absent : mark ∉ text) :
    regionsFrom (some mark) [mark] text = [⟨true, mark :: text⟩] := by
  have whole := regionsFrom_some absent [mark] []
  simpa [regionsFrom] using whole

theorem regionsFrom_some_split {mark : Char} {front : List Char} (absent : mark ∉ front)
    (back : List Char) :
    regionsFrom (some mark) [mark] (front ++ mark :: back) =
      ⟨true, mark :: (front ++ [mark])⟩ :: regions back := by
  have before := regionsFrom_some absent [mark] (mark :: back)
  simpa [regions, regionsFrom] using before

/-! ## Numbering -/

/-- The pieces of a region: inside quotes its characters, outside them what a scan reads there. -/
def Region.pieces (region : Region) : List Piece :=
  if region.quoted then chars region.text else scan .outside region.text

theorem scan_quoted {mark : Char} {front : List Char} (absent : mark ∉ front) (rest : List Char) :
    scan (.quoted mark) (front ++ rest) = chars front ++ scan (.quoted mark) rest := by
  induction front with
  | nil => rfl
  | cons c front ih =>
      obtain ⟨here, later⟩ := not_or.mp (List.mem_cons.not.mp absent)
      simp [scan, chars, Ne.symm here, ih later]

/-- A quotation mark ends what a scan outside quotes holds. -/
theorem scan_mark {mark : Char} (opens : isQuote mark = true) {state : Scan}
    (outside : ∀ inner, state ≠ .quoted inner) (back : List Char) :
    scan state (mark :: back) = scan state [] ++ .char mark :: scan (.quoted mark) back := by
  have other : mark ≠ ':' := by
    rintro rfl
    exact absurd opens (by decide)
  have notName (test : Char → Bool) (refuses : test '\'' = false ∧ test '"' = false) :
      test mark = false := by
    rcases Bool.or_eq_true_iff.mp opens with single | double
    · rw [beq_iff_eq.mp single]
      exact refuses.1
    · rw [beq_iff_eq.mp double]
      exact refuses.2
  have start := notName Template.isNameStart (by decide)
  have inside := notName Template.isNameChar (by decide)
  cases state with
  | outside => simp [scan, Scan.after, written, opens, other]
  | quoted inner => exact absurd rfl (outside inner)
  | colon => simp [scan, Scan.after, written, opens, other, start]
  | name read => simp [scan, Scan.after, written, opens, other, inside]

/-- Outside quotes a scan never leads inside without a mark. -/
theorem scan_split {front : List Char} (unquoted : Unquoted front) {mark : Char}
    (opens : isQuote mark = true) {state : Scan} (outside : ∀ inner, state ≠ .quoted inner)
    (back : List Char) :
    scan state (front ++ mark :: back) =
      scan state front ++ .char mark :: scan (.quoted mark) back := by
  have after_outside {c : Char} (plain : isQuote c = false) (inner : Char) :
      Scan.after c ≠ .quoted inner := by
    unfold Scan.after
    split <;> simp_all
    split <;> simp
  induction front generalizing state with
  | nil => exact scan_mark opens outside back
  | cons c front ih =>
      obtain ⟨here, later⟩ := List.forall_mem_cons.mp unquoted
      have onward := ih later (after_outside here)
      cases state with
      | outside => simp [scan, onward]
      | quoted inner => exact absurd rfl (outside inner)
      | colon =>
          have behindCast := @ih later .outside (fun inner => by simp)
          have behindStart := @ih later (.name [c]) (fun inner => by simp)
          simp only [List.cons_append, scan]
          split
          · simp [behindCast]
          · split
            · exact behindStart
            · simp [onward]
      | name read =>
          have behindName := @ih later (.name (read ++ [c])) (fun inner => by simp)
          simp only [List.cons_append, scan]
          split
          · exact behindName
          · simp [onward]

mutual

/-- A scan reads the regions of a text one by one. -/
theorem scan_regions (text : List Char) :
    scan .outside text = (regions text).flatMap Region.pieces := by
  rcases unquoted_or_split text with unquoted | ⟨front, mark, back, rfl, unquoted, opens⟩
  · simp [regions_of_unquoted unquoted, Region.pieces]
  · rw [scan_split unquoted opens (fun inner => by simp), regions_split unquoted opens,
      List.flatMap_cons, ← scan_regionsFrom mark back]
    rfl
termination_by text.length
decreasing_by subst_vars; simp; omega

theorem scan_regionsFrom (mark : Char) (text : List Char) :
    .char mark :: scan (.quoted mark) text =
      (regionsFrom (some mark) [mark] text).flatMap Region.pieces := by
  by_cases present : mark ∈ text
  · obtain ⟨front, back, rfl, absent⟩ := List.eq_append_cons_of_mem present
    rw [regionsFrom_some_split absent, List.flatMap_cons, ← scan_regions back, scan_quoted absent]
    simp [scan, Region.pieces, chars]
  · have copied := scan_quoted present []
    rw [List.append_nil] at copied
    simp [regionsFrom_some_of_not_mem present, copied, scan, Region.pieces, chars]
termination_by text.length
decreasing_by subst_vars; simp; omega

end

def Region.rendered (names : List String) (region : Region) : List Char :=
  if region.quoted then region.text else textOf names (scan .outside region.text)

theorem textOf_chars (names : List String) (text : List Char) :
    textOf names (chars text) = text := by
  have copied := textOf_literal names (String.ofList text)
  rwa [literal_eq, String.toList_ofList] at copied

theorem Region.textOf_pieces (names : List String) (region : Region) :
    textOf names region.pieces = region.rendered names := by
  unfold pieces rendered
  split
  · exact textOf_chars names region.text
  · rfl

/-! ## Aiming -/

def Region.aimed (target : Option Relation) (region : Region) : Region :=
  { region with text := aim target region.text }

def UnquotedTarget (target : Option Relation) : Prop :=
  ∀ relation ∈ target, Unquoted relation.scheme.toList ∧ Unquoted relation.table.toList

/-- A text that names neither the scheme nor the table of its target. -/
def Tokenless (text : List Char) : Prop :=
  ¬ Template.schemeToken.toList <:+: text ∧ ¬ Template.tableToken.toList <:+: text

theorem replace_of_not_infix {word : List Char} (substitute : List Char) {text : List Char}
    (absent : ¬ word <:+: text) : Text.replace word substitute text = text := by
  induction text with
  | nil => rfl
  | cons c rest ih =>
      have differs : word.isPrefixOf (c :: rest) = false := by
        rw [← Bool.not_eq_true, List.isPrefixOf_iff_prefix]
        exact fun front => absent front.isInfix
      rw [Text.replace_cons_of_differs differs,
        ih fun inside => absent (inside.trans (List.suffix_cons c rest).isInfix)]

theorem aim_of_tokenless (target : Option Relation) {text : List Char}
    (tokenless : Tokenless text) : aim target text = text := by
  cases target with
  | none => rfl
  | some relation =>
      rw [aim_eq, replace_of_not_infix _ tokenless.1, replace_of_not_infix _ tokenless.2]

section Targets

variable {target : Option Relation}

theorem aim_append_mark {mark : Char} (quote : isQuote mark = true) (front back : List Char) :
    aim target (front ++ mark :: back) = aim target front ++ mark :: aim target back := by
  cases target with
  | none => rfl
  | some relation =>
      apply aim_append_cons
      rcases Bool.or_eq_true_iff.mp quote with single | double
      · rw [beq_iff_eq.mp single]
        decide
      · rw [beq_iff_eq.mp double]
        decide

theorem aim_cons_mark {mark : Char} (quote : isQuote mark = true) (rest : List Char) :
    aim target (mark :: rest) = mark :: aim target rest := by
  have alone : aim target ([] ++ mark :: rest) = aim target [] ++ mark :: aim target rest :=
    aim_append_mark quote [] rest
  cases target <;> exact alone

variable (unquoted : UnquotedTarget target)

include unquoted

theorem not_mem_aim {mark : Char} (quote : isQuote mark = true) {text : List Char}
    (absent : mark ∉ text) : mark ∉ aim target text := by
  cases target with
  | none => exact absent
  | some relation =>
      obtain ⟨scheme, table⟩ := unquoted relation rfl
      intro member
      rcases mem_aim member with inScheme | inTable | inText
      · exact absurd (quote.symm.trans (scheme mark inScheme)) (by decide)
      · exact absurd (quote.symm.trans (table mark inTable)) (by decide)
      · exact absent inText

theorem unquoted_aim {text : List Char} (plain : Unquoted text) : Unquoted (aim target text) := by
  intro c member
  by_contra other
  have quote : isQuote c = true := by simpa using other
  refine not_mem_aim unquoted quote (fun inText => ?_) member
  exact other (plain c inText)

mutual

/-- The regions of an aimed text are those of the text, each of them aimed. -/
theorem regions_aim (text : List Char) :
    regions (aim target text) = (regions text).map (Region.aimed target) := by
  rcases unquoted_or_split text with plain | ⟨front, mark, back, rfl, plain, opens⟩
  · rw [regions_of_unquoted plain, regions_of_unquoted (unquoted_aim unquoted plain)]
    rfl
  · rw [aim_append_mark opens, regions_split (unquoted_aim unquoted plain) opens,
      regions_split plain opens, List.map_cons, ← regionsFrom_aim opens back]
    rfl
termination_by text.length
decreasing_by subst_vars; simp; omega

theorem regionsFrom_aim {mark : Char} (quote : isQuote mark = true) (text : List Char) :
    regionsFrom (some mark) [mark] (aim target text) =
      (regionsFrom (some mark) [mark] text).map (Region.aimed target) := by
  by_cases present : mark ∈ text
  · obtain ⟨front, back, rfl, absent⟩ := List.eq_append_cons_of_mem present
    have around : aim target (mark :: (front ++ [mark])) =
        mark :: (aim target front ++ mark :: aim target []) := by
      rw [aim_cons_mark quote, aim_append_mark quote]
    have nothing : aim target [] = [] := by cases target <;> rfl
    rw [aim_append_mark quote, regionsFrom_some_split (not_mem_aim unquoted quote absent),
      regionsFrom_some_split absent, List.map_cons, ← regions_aim back]
    simp [Region.aimed, around, nothing]
  · rw [regionsFrom_some_of_not_mem present,
      regionsFrom_some_of_not_mem (not_mem_aim unquoted quote present)]
    simp [Region.aimed, aim_cons_mark quote]
termination_by text.length
decreasing_by subst_vars; simp; omega

end

end Targets

/-! ## Rendered fragments -/

/-- A rendered fragment is made of the regions of its aimed template, those inside quotes copied.
Under a target whose names hold no quotation marks these are the regions of the template, each of
them aimed; so a quoted region that names no token stands as it is in its place. -/
theorem quoted_regions_rendered (names : List String) (target : Option Relation)
    (template : String) :
    (number names (Template.pieces target template)).2 =
        (regions (aim target template.toList)).flatMap
          (Region.rendered (number names (Template.pieces target template)).1) ∧
      (UnquotedTarget target →
        regions (aim target template.toList) =
          (regions template.toList).map (Region.aimed target)) ∧
      ∀ (known : List String) (region : Region), region.quoted = true → Tokenless region.text →
        (region.aimed target).rendered known = region.text := by
  refine ⟨?_, fun unquoted => regions_aim unquoted template.toList, ?_⟩
  · rw [snd_number, Template.pieces, scan_regions, textOf_flatMap]
    congr 1
    funext region
    exact region.textOf_pieces _
  · intro known region quoted tokenless
    have copied : (region.aimed target).rendered known = aim target region.text := if_pos quoted
    rw [copied, aim_of_tokenless target tokenless]

def notedRows : String := "$table.note <> ':no' AND x = :v"

theorem regions_notedRows : regions notedRows.toList =
    [⟨false, "$table.note <> ".toList⟩, ⟨true, "':no'".toList⟩, ⟨false, " AND x = :v".toList⟩] := by
  rfl

theorem literal_of_notedRows :
    UnquotedTarget (some ⟨"app", "users"⟩) ∧
      regions (aim (some ⟨"app", "users"⟩) notedRows.toList) =
        (regions notedRows.toList).map (Region.aimed (some ⟨"app", "users"⟩)) ∧
      ⟨true, "':no'".toList⟩ ∈ regions notedRows.toList ∧
      (Region.aimed (some ⟨"app", "users"⟩) ⟨true, "':no'".toList⟩).rendered ["v"] =
        "':no'".toList := by
  obtain ⟨-, aimed, copied⟩ := quoted_regions_rendered [] (some ⟨"app", "users"⟩) notedRows
  have unquoted : UnquotedTarget (some ⟨"app", "users"⟩) := by
    rintro _ ⟨⟩
    exact ⟨by decide, by decide⟩
  have tokenless : Tokenless "':no'".toList := ⟨by decide, by decide⟩
  have present : ⟨true, "':no'".toList⟩ ∈ regions notedRows.toList := by
    rw [regions_notedRows]
    exact List.mem_cons_of_mem _ List.mem_cons_self
  exact ⟨unquoted, aimed unquoted, present, copied _ _ rfl tokenless⟩

/-- A token inside quotes gives way too: the literal of this template is not in what is rendered. -/
theorem quoted_token_gives_way :
    ⟨true, "'$table'".toList⟩ ∈ regions "name = '$table'".toList ∧
      ¬ "'$table'".toList <:+:
        (number [] (Template.pieces (some ⟨"app", "users"⟩) "name = '$table'")).2 := by
  have cut : regions "name = '$table'".toList =
      [⟨false, "name = ".toList⟩, ⟨true, "'$table'".toList⟩, ⟨false, []⟩] := by rfl
  have rendered : (number [] (Template.pieces (some ⟨"app", "users"⟩) "name = '$table'")).2 =
      "name = 'users'".toList := by rfl
  rw [cut, rendered]
  refine ⟨List.mem_cons_of_mem _ List.mem_cons_self, fun inside => ?_⟩
  have dollar : '$' ∈ "name = 'users'".toList := inside.subset (by decide)
  exact absurd dollar (by decide)

end RelationQuery.Sql
