import RelationQuery.Proofs.AdjacentMarks
import RelationQuery.Proofs.Conditions
import RelationQuery.Proofs.Sense

/-!
# Hyphens of columns

A key may hold hyphens, and only the first of them becomes an underscore. Its column stands in a
condition or in the order as it is; everything else that is written there has no hyphen, so adjacent
hyphens stand there exactly when the column has them.
-/

namespace RelationQuery

open Sql (Relation Piece Expr Sealed Unhyphened hyphen literal unhyphened_literal)
open Sql.Template (aim)

/-! ## Columns of keys -/

/-- The column of a key keeps adjacent hyphens: no mapping names it, and the key has adjacent
hyphens behind its first one. -/
def LeavesHyphens (mapping : Option KeyMapping) (key : String) : Prop :=
  mapping.bind (·.get? key) = none ∧ ∃ front rest, key.toList = front ++ '-' :: rest ∧
    '-' ∉ front ∧ Adjacent '-' rest

def MapsToUnhyphened (mapping : Option KeyMapping) : Prop :=
  ∀ entries, mapping = some entries → ∀ entry ∈ entries.entries, '-' ∉ entry.2.toList

theorem adjacent_underscoreFirstHyphen (text : List Char) :
    Adjacent '-' (underscoreFirstHyphen text) ↔ ∃ front rest, text = front ++ '-' :: rest ∧
      '-' ∉ front ∧ Adjacent '-' rest := by
  fun_induction underscoreFirstHyphen text with
  | case1 => simp
  | case2 rest =>
      rw [adjacent_cons_of_ne (by decide)]
      constructor
      · exact fun inside => ⟨[], rest, rfl, List.not_mem_nil, inside⟩
      · rintro ⟨front, behind, split, absent, inside⟩
        cases front with
        | nil =>
            cases split
            exact inside
        | cons c front =>
            cases split
            exact absurd List.mem_cons_self absent
  | case3 c rest other ih =>
      rw [adjacent_cons_of_ne other, ih]
      constructor
      · rintro ⟨front, behind, rfl, absent, inside⟩
        exact ⟨c :: front, behind, rfl, by simp [absent, Ne.symm other], inside⟩
      · rintro ⟨front, behind, split, absent, inside⟩
        cases front with
        | nil =>
            cases split
            exact absurd rfl other
        | cons d front =>
            cases split
            exact ⟨front, behind, rfl, fun member => absent (List.mem_cons_of_mem _ member), inside⟩

theorem mem_underscoreFirstHyphen {c : Char} {text : List Char}
    (member : c ∈ underscoreFirstHyphen text) : c = '_' ∨ c ∈ text := by
  fun_induction underscoreFirstHyphen text with
  | case1 => cases member
  | case2 rest => exact (List.mem_cons.mp member).imp_right (List.mem_cons_of_mem _)
  | case3 d rest other ih =>
      rcases List.mem_cons.mp member with rfl | later
      · exact .inr List.mem_cons_self
      · exact (ih later).imp_right (List.mem_cons_of_mem d)

/-- The column of a key that a mapping names is one of its columns. -/
theorem mem_of_mapped {mapping : Option KeyMapping} {key column : String}
    (named : mapping.bind (·.get? key) = some column) :
    ∃ entries, mapping = some entries ∧ (key, column) ∈ entries.entries := by
  obtain ⟨entries, rfl, found⟩ := Option.bind_eq_some_iff.mp named
  obtain ⟨before, behind, whole, _⟩ := List.lookup_eq_some_iff.mp found
  exact ⟨entries, rfl, by rw [whole]; simp⟩

theorem adjacent_mapKey {mapping : Option KeyMapping} (unhyphened : MapsToUnhyphened mapping)
    (key : String) : Adjacent '-' (mapKey mapping key).toList ↔ LeavesHyphens mapping key := by
  unfold mapKey LeavesHyphens
  cases named : mapping.bind (·.get? key) with
  | none =>
      rw [String.toList_ofList, adjacent_underscoreFirstHyphen]
      simp
  | some column =>
      obtain ⟨entries, known, member⟩ := mem_of_mapped named
      have absent := unhyphened entries known _ member
      simp [not_adjacent_of_not_mem absent]

/-- Hyphens stay where they are when the text is aimed, as there are none, or no tokens. -/
def KeepsHyphens (text : String) : Prop := '-' ∉ text.toList ∨ '$' ∉ text.toList

theorem keepsHyphens_mapKey {mapping : Option KeyMapping} (unhyphened : MapsToUnhyphened mapping)
    {key : String} (keeps : KeepsHyphens key) : KeepsHyphens (mapKey mapping key) := by
  have absent {c : Char} (other : c ≠ '_') (outside : c ∉ key.toList) :
      c ∉ (String.ofList (underscoreFirstHyphen key.toList)).toList := by
    rw [String.toList_ofList]
    exact fun member => (mem_underscoreFirstHyphen member).elim other outside
  unfold mapKey
  cases named : mapping.bind (·.get? key) with
  | none => exact keeps.imp (absent (by decide)) (absent (by decide))
  | some column =>
      obtain ⟨entries, known, member⟩ := mem_of_mapped named
      exact .inl (unhyphened entries known _ member)

/-! ## Parts without hyphens -/

structure Sql.Relation.Unhyphened (relation : Relation) : Prop where
  scheme : '-' ∉ relation.scheme.toList
  table : '-' ∉ relation.table.toList

theorem hyphen_not_mem_of_isPlainColumn {key : String} (plain : isPlainColumn key = true) :
    '-' ∉ key.toList := by
  unfold isPlainColumn at plain
  split at plain
  · cases plain
  · rename_i first rest spelled
    obtain ⟨start, others⟩ := (Bool.and_eq_true _ _).mp plain
    rw [spelled]
    intro member
    rcases List.mem_cons.mp member with rfl | later
    · cases start
    · cases List.all_eq_true.mp others '-' later

section Parts

variable {relation : Relation} (unhyphened : relation.Unhyphened)

include unhyphened

theorem hyphen_not_mem_aim {text : List Char} (absent : '-' ∉ text) :
    '-' ∉ aim (some relation) text := by
  intro member
  rcases Sql.mem_aim member with scheme | table | own
  · exact unhyphened.scheme scheme
  · exact unhyphened.table table
  · exact absent own

theorem unhyphened_fragment {template : String} (absent : '-' ∉ template.toList) :
    Unhyphened (Sql.Template.pieces (some relation) template) := by
  refine fun member => hyphen_not_mem_aim unhyphened absent ?_
  have read : Sql.named (Sql.Template.pieces (some relation) template) =
      aim (some relation) template.toList := Sql.Template.named_scan .outside _
  rw [← read, Sql.named_eq_flatMap]
  exact List.mem_flatMap.mpr ⟨hyphen, member, by decide⟩

theorem unhyphened_relation : '-' ∉ relation.qualified.toList := by
  simp [Relation.qualified, unhyphened.scheme, unhyphened.table]

theorem unhyphened_qualified {name : String} (absent : '-' ∉ name.toList) :
    Unhyphened ((Expr.qualified relation name).pieces (some relation)) := by
  rw [pieces_qualified]
  refine unhyphened_literal ?_
  simp [Relation.column, unhyphened_relation unhyphened, absent]

theorem unhyphened_columnOrFragment {key : String} (absent : '-' ∉ key.toList) :
    Unhyphened ((columnOrFragment relation key).pieces (some relation)) := by
  unfold columnOrFragment
  split
  · exact unhyphened_qualified unhyphened absent
  · exact unhyphened_fragment unhyphened absent

theorem unhyphened_join {join : Sql.Join} (source : '-' ∉ join.source.toList)
    (on : '-' ∉ join.on.toList) : Unhyphened (join.pieces (some relation)) := by
  have kind : Unhyphened (literal join.kind.words) :=
    unhyphened_literal (by cases join.kind <;> decide)
  have blank : Unhyphened [.char ' '] := by decide
  have target := blank.append (unhyphened_fragment unhyphened source)
  unfold Sql.Join.pieces
  refine ((blank.append kind).append target).append ?_
  split
  · exact List.not_mem_nil
  · exact (unhyphened_literal (by decide)).append (unhyphened_fragment unhyphened on)

theorem unhyphened_idConditions (id : Option Value) :
    ∀ expr ∈ idConditions relation id, Unhyphened (expr.pieces (some relation)) := by
  intro expr member
  unfold idConditions at member
  split at member
  · rw [List.mem_singleton.mp member]
    change Unhyphened (_ ++ .char ' ' :: literal "=" ++ .char ' ' :: [.slot "id"])
    exact ((unhyphened_qualified unhyphened (by decide)).append (by decide)).append (by decide)
  · cases member

theorem unhyphened_condition {predicate : Predicate} (absent : '-' ∉ predicate.template.toList) :
    Unhyphened (predicate.condition.pieces (some relation)) := by
  change Unhyphened (.char '(' :: Sql.Template.pieces (some relation) predicate.template ++
    [.char ')'])
  have opening : Unhyphened [.char '('] := by decide
  exact (opening.append (unhyphened_fragment unhyphened absent)).append (by decide)

/-! ## Parts that a key writes -/

/-- Aiming a column neither takes its hyphens away nor adds to them. -/
theorem adjacent_aim {text : String} (keeps : KeepsHyphens text) :
    Adjacent '-' (aim (some relation) text.toList) ↔ Adjacent '-' text.toList := by
  rcases keeps with absent | tokenless
  · exact iff_of_false (not_adjacent_of_not_mem (hyphen_not_mem_aim unhyphened absent))
      (not_adjacent_of_not_mem absent)
  · have copied := Sql.aim_append relation tokenless []
    rw [List.append_nil, Sql.aim_nil, List.append_nil] at copied
    rw [copied]

/-- A column of the target brings its own hyphens, and what stands behind a blank brings others. -/
theorem adjacent_targetColumn {column : String} (keeps : KeepsHyphens column)
    (rest : List Char) :
    Adjacent '-' (aim (some relation) ((targetColumn column).toList ++ ' ' :: rest)) ↔
      Adjacent '-' column.toList ∨ Adjacent '-' (aim (some relation) rest) := by
  have spelled : (targetColumn column).toList ++ ' ' :: rest = "$scheme".toList ++ '.' ::
      ("$table".toList ++ '.' :: (column.toList ++ ' ' :: rest)) := by
    change ("$scheme.$table." ++ column).toList ++ _ = _
    rw [String.toList_append, Sql.target_spelled]
    simp [Sql.Template.schemeToken, Sql.Template.tableToken]
  have point := Sql.aim_append_cons relation (show '.' ∉ _ ∧ '.' ∉ _ by decide)
  rw [spelled, point, point, Sql.aim_append_cons relation (show ' ' ∉ _ ∧ ' ' ∉ _ by decide),
    adjacent_append_of_not_mem (hyphen_not_mem_aim unhyphened (by decide)),
    adjacent_cons_of_ne (by decide),
    adjacent_append_of_not_mem (hyphen_not_mem_aim unhyphened (by decide)),
    adjacent_cons_of_ne (by decide), adjacent_append_cons (by decide),
    adjacent_aim unhyphened keeps]

/-- A condition of a column and words has adjacent hyphens where the column has them. -/
theorem sealed_condition {column : String} (keeps : KeepsHyphens column) {predicate : Predicate}
    {words : String} (written : predicate.template = targetColumn column ++ words)
    {rest : List Char} (spelled : words.toList = ' ' :: rest)
    (alike : Adjacent '-' (aim (some relation) rest) → Adjacent '-' column.toList) :
    Sealed (predicate.condition.pieces (some relation)) (Adjacent '-' column.toList) := by
  change Sealed ([.char '('] ++ (Sql.Template.pieces (some relation) predicate.template ++
    [.char ')'])) _
  refine .between (by decide) ?_ (by decide) (List.cons_ne_nil _ _)
  rw [Sql.adjacent_fragment, written, String.toList_append, spelled,
    adjacent_targetColumn unhyphened keeps]
  exact ⟨fun either => either.elim id alike, .inl⟩

/-- Words that bring no hyphen of their own. -/
theorem sealed_columnWords {column : String} (keeps : KeepsHyphens column) {predicate : Predicate}
    {words : String} (written : predicate.template = targetColumn column ++ words)
    {rest : List Char} (spelled : words.toList = ' ' :: rest) (absent : '-' ∉ rest) :
    Sealed (predicate.condition.pieces (some relation)) (Adjacent '-' column.toList) :=
  sealed_condition unhyphened keeps written spelled fun inside =>
    absurd inside (not_adjacent_of_not_mem (hyphen_not_mem_aim unhyphened absent))

omit unhyphened in
theorem hyphen_not_mem_nextName (counts : NameCounts) : '-' ∉ counts.nextName.toList :=
  Sql.not_mem_of_isIdentifier (isIdentifier_generatedName .filter _) rfl

theorem sealed_equation {column : String} (keeps : KeepsHyphens column) (counts : NameCounts)
    {predicate : Predicate}
    (written : predicate.template = targetColumn column ++ " = :" ++ counts.nextName) :
    Sealed (predicate.condition.pieces (some relation)) (Adjacent '-' column.toList) := by
  rw [String.append_assoc] at written
  have spelled : (" = :" ++ counts.nextName).toList =
      ' ' :: ("= :".toList ++ counts.nextName.toList) := String.toList_append
  refine sealed_columnWords unhyphened keeps written spelled ?_
  simp [hyphen_not_mem_nextName counts]

theorem sealed_entryPredicate {column : String} (keeps : KeepsHyphens column)
    (counts : NameCounts) (value : FilterValue) :
    Sealed ((entryPredicate counts column value).1.condition.pieces (some relation))
      (Adjacent '-' column.toList) := by
  cases value with
  | null => exact sealed_columnWords unhyphened keeps rfl rfl (by decide)
  | notNull => exact sealed_columnWords unhyphened keeps rfl rfl (by decide)
  | scalar value => exact sealed_equation unhyphened keeps counts rfl
  | list items =>
      have written : (entryPredicate counts column (.list items)).1.template =
          targetColumn column ++ (" = ANY(:" ++ counts.nextName ++ ")") := by
        rw [← String.append_assoc, ← String.append_assoc]
        rfl
      have spelled : (" = ANY(:" ++ counts.nextName ++ ")").toList =
          ' ' :: ("= ANY(:".toList ++ counts.nextName.toList ++ ")".toList) := by
        rw [String.toList_append, String.toList_append]
        rfl
      refine sealed_columnWords unhyphened keeps written spelled ?_
      simp [hyphen_not_mem_nextName counts]

theorem sealed_termPredicate {column : String} (keeps : KeepsHyphens column)
    (counts : NameCounts) (content : Search.Content) :
    Sealed ((termPredicate counts column content).1.condition.pieces (some relation))
      (Adjacent '-' column.toList) := by
  cases content with
  | isNull => exact sealed_columnWords unhyphened keeps rfl rfl (by decide)
  | equals value orNull =>
      cases orNull with
      | false => exact sealed_equation unhyphened keeps counts rfl
      | true =>
          -- The column stands here twice, so its hyphens do too.
          have written : (termPredicate counts column (.equals value true)).1.template =
              targetColumn column ++ (" = :" ++ counts.nextName ++ " OR " ++
                targetColumn column ++ " IS NULL") := by
            simp only [← String.append_assoc]
            rfl
          have spelled : (" = :" ++ counts.nextName ++ " OR " ++ targetColumn column ++
              " IS NULL").toList =
                ' ' :: (("= :".toList ++ counts.nextName.toList ++ " OR".toList) ++
                  ' ' :: ((targetColumn column).toList ++ ' ' :: "IS NULL".toList)) := by
            simp only [String.toList_append, List.append_assoc]
            rfl
          have name : '-' ∉ "= :".toList ++ counts.nextName.toList ++ " OR".toList := by
            simp [hyphen_not_mem_nextName counts]
          refine sealed_condition unhyphened keeps written spelled fun inside => ?_
          rw [Sql.aim_append_cons relation (show ' ' ∉ _ ∧ ' ' ∉ _ by decide),
            adjacent_append_of_not_mem (hyphen_not_mem_aim unhyphened name),
            adjacent_cons_of_ne (by decide), adjacent_targetColumn unhyphened keeps] at inside
          exact inside.resolve_right
            (not_adjacent_of_not_mem (hyphen_not_mem_aim unhyphened (by decide)))

/-- A term of the order, whose column may end with a hyphen as its direction stands behind it. -/
theorem sealed_orderTerm {column : String} (keeps : KeepsHyphens column) (descending : Bool) :
    Sealed ((Sql.OrderTerm.mk (columnOrFragment relation column) descending).pieces (some relation))
      (Adjacent '-' column.toList) := by
  have inside : Adjacent hyphen ((columnOrFragment relation column).pieces (some relation)) ↔
      Adjacent '-' column.toList := by
    unfold columnOrFragment
    split
    · rename_i plain
      have absent := hyphen_not_mem_of_isPlainColumn plain
      exact iff_of_false (not_adjacent_of_not_mem (unhyphened_qualified unhyphened absent))
        (not_adjacent_of_not_mem absent)
    · change Adjacent hyphen (Sql.Template.pieces (some relation) column) ↔ _
      rw [Sql.adjacent_fragment, adjacent_aim unhyphened keeps]
  cases descending with
  | false =>
      change Sealed ([] ++ (_ ++ literal " ASC")) _
      exact .between List.not_mem_nil inside (by decide) (by decide)
  | true =>
      change Sealed ([] ++ (_ ++ literal " DESC")) _
      exact .between List.not_mem_nil inside (by decide) (by decide)

end Parts

/-- The conditions made of keyed items have adjacent hyphens where a key leaves them. -/
theorem sealed_conditions {α : Type} {make : NameCounts → String → α → Predicate × NameCounts}
    {relation : Relation} (writes : ∀ {column : String}, KeepsHyphens column → ∀ counts item,
      Sealed ((make counts column item).1.condition.pieces (some relation))
        (Adjacent '-' column.toList))
    {mapping : Option KeyMapping} (unhyphened : MapsToUnhyphened mapping)
    {items : List (String × α)} {predicates : List Predicate}
    (made : List.Forall₂ (fun item predicate =>
      ∃ counts, predicate = (make counts (mapKey mapping item.1) item.2).1) items predicates)
    (keeps : ∀ item ∈ items, KeepsHyphens item.1) :
    Sealed (predicates.flatMap fun predicate =>
        literal " AND " ++ predicate.condition.pieces (some relation))
      (∃ item ∈ items, LeavesHyphens mapping item.1) := by
  have joining : Sealed (literal " AND ") False := (unhyphened_literal (by decide)).sealed
  refine .flatMap (forall₂_imp_of_mem made ?_)
  rintro item isItem _ _ ⟨counts, rfl⟩
  have column := writes (keepsHyphens_mapKey unhyphened (keeps item isItem)) counts item.2
  refine (joining.append column).congr ?_
  rw [false_or, adjacent_mapKey unhyphened]

end RelationQuery
