import RelationQuery.Filter
import RelationQuery.Proofs.Fragments

/-!
# Fragments written for a target

The fragments of filter entries and search terms name a column of the target and at most one
generated placeholder. Their pieces are the qualified column, the words behind it, and one slot.
-/

namespace RelationQuery.Sql

open Template (aim scan isQuote isNameChar slot Scan)

/-- Characters that a fragment copies whatever its target is. -/
def isCopied (c : Char) : Bool := isCalm c && c != ':'

theorem copied_of_nameChar {c : Char} (named : isNameChar c = true) : isCopied c = true := by
  simp [isCopied, calm_of_nameChar named, ne_of_nameChar named ':' rfl]

theorem not_mem_of_copied {text : List Char} (copied : MadeOf isCopied text) {c : Char}
    (outsider : isCopied c = false) : c ∉ text := fun member =>
  absurd ((copied c member).symm.trans outsider) (fun same => nomatch same)

/-! ## Aiming -/

theorem schemeToken_spelled :
    Template.schemeToken.toList = '$' :: ['s', 'c', 'h', 'e', 'm', 'e'] := rfl

theorem tableToken_spelled : Template.tableToken.toList = '$' :: ['t', 'a', 'b', 'l', 'e'] := rfl

theorem aim_eq (relation : Relation) (text : List Char) : aim (some relation) text =
    Text.replace Template.tableToken.toList relation.table.toList
      (Text.replace Template.schemeToken.toList relation.scheme.toList text) := rfl

theorem aim_append (relation : Relation) {front : List Char} (absent : '$' ∉ front)
    (rest : List Char) :
    aim (some relation) (front ++ rest) = front ++ aim (some relation) rest := by
  rw [aim_eq, Text.replace_append schemeToken_spelled _ absent,
    Text.replace_append tableToken_spelled _ absent, aim_eq]

theorem aim_nil (relation : Relation) : aim (some relation) [] = [] := rfl

/-- A character of no token parts a fragment. -/
theorem aim_append_cons (relation : Relation) {c : Char}
    (outsider : c ∉ Template.schemeToken.toList ∧ c ∉ Template.tableToken.toList)
    (front rest : List Char) :
    aim (some relation) (front ++ c :: rest) =
      aim (some relation) front ++ c :: aim (some relation) rest := by
  rw [aim_eq, Text.replace_append_cons (by decide) _ outsider.1,
    Text.replace_append_cons (by decide) _ outsider.2, ← aim_eq, ← aim_eq]

/-- An aimed fragment holds nothing but what it and its target hold. -/
theorem mem_aim {relation : Relation} {c : Char} {text : List Char}
    (member : c ∈ aim (some relation) text) :
    c ∈ relation.scheme.toList ∨ c ∈ relation.table.toList ∨ c ∈ text := by
  rw [aim_eq] at member
  rcases Text.mem_replaceFrom member with table | inner
  · exact .inr (.inl table)
  rcases Text.mem_replaceFrom inner with scheme | own
  · exact .inl scheme
  · exact .inr (.inr own)

/-- The token of the scheme gives way to the scheme. -/
theorem aim_scheme {relation : Relation} (plain : relation.Plain) (rest : List Char) :
    aim (some relation) (Template.schemeToken.toList ++ rest) =
      relation.scheme.toList ++ aim (some relation) rest := by
  rw [aim_eq, Text.replace_word (by decide),
    Text.replace_append tableToken_spelled _ (not_mem_of_isIdentifier plain.1 rfl), aim_eq]

/-- The token of the table gives way to the table. -/
theorem aim_table (relation : Relation) (rest : List Char) :
    aim (some relation) (Template.tableToken.toList ++ rest) =
      relation.table.toList ++ aim (some relation) rest := by
  have copied : Text.replace Template.schemeToken.toList relation.scheme.toList
      (Template.tableToken.toList ++ rest) = Template.tableToken.toList ++
        Text.replace Template.schemeToken.toList relation.scheme.toList rest := by
    rw [tableToken_spelled]
    change Text.replace _ _ ('$' :: (['t', 'a', 'b', 'l', 'e'] ++ rest)) = _
    rw [Text.replace_cons_of_differs rfl, Text.replace_append schemeToken_spelled _ (by decide)]
    rfl
  rw [aim_eq, copied, Text.replace_word (by decide), aim_eq]

/-! ## Scanning -/

theorem scan_append {front : List Char} (copied : MadeOf isCopied front)
    (rest : List Char) : scan .outside (front ++ rest) = chars front ++ scan .outside rest := by
  induction front with
  | nil => rfl
  | cons c front ih =>
      obtain ⟨calm, other⟩ := (Bool.and_eq_true _ _).mp (copied c List.mem_cons_self)
      have unquoted : isQuote c = false := by
        simpa using ((Bool.and_eq_true _ _).mp calm).1
      have plain : (c == ':') = false := by simpa using other
      have onward : Scan.after c = .outside := by simp [Scan.after, unquoted, plain]
      have once : Template.written c = [.char c] := by simp [Template.written, plain]
      have later := ih fun d member => copied d (List.mem_cons_of_mem c member)
      change Template.written c ++ scan (Scan.after c) (front ++ rest) = _
      rw [onward, once, later]
      rfl

/-- A name is read to its end. -/
theorem scan_name {start more : List Char} (named : MadeOf isNameChar more)
    (rest : List Char) : scan (.name start) (more ++ rest) = scan (.name (start ++ more)) rest := by
  induction more generalizing start with
  | nil => rw [List.nil_append, List.append_nil]
  | cons c more ih =>
      change (if isNameChar c then scan (.name (start ++ [c])) (more ++ rest) else _) = _
      rw [if_pos (named c List.mem_cons_self),
        ih fun d member => named d (List.mem_cons_of_mem c member), List.append_assoc]
      rfl

theorem scan_colon {name : String} (plain : isIdentifier name = true) (rest : List Char) :
    scan .outside (':' :: (name.toList ++ rest)) = scan (.name name.toList) rest := by
  obtain ⟨first, more, spelled, start, named⟩ := exists_of_isIdentifier plain
  rw [spelled]
  have single : (first == ':') = false :=
    beq_eq_false_iff_ne.mpr (ne_of_nameChar (nameChar_of_nameStart start) ':' rfl)
  change scan .colon (first :: (more ++ rest)) = _
  rw [scan, if_neg (by simp [single]), if_pos start, scan_name named]
  rfl

/-- The placeholder at the end of a fragment. -/
theorem scan_placeholder {name : String} (plain : isIdentifier name = true) :
    scan .outside (':' :: name.toList) = [.slot name] := by
  have read := scan_colon plain []
  rw [List.append_nil] at read
  rw [read]
  change [slot name.toList] = _
  rw [slot, String.ofList_toList]

/-- A placeholder ends before a character that belongs to no name. -/
theorem scan_placeholder_append {name : String} (plain : isIdentifier name = true) {c : Char}
    (ends : isNameChar c = false) (rest : List Char) :
    scan .outside (':' :: (name.toList ++ c :: rest)) =
      .slot name :: scan .outside (c :: rest) := by
  rw [scan_colon plain]
  change (if isNameChar c then scan (.name (name.toList ++ [c])) rest
    else slot name.toList :: scan .outside (c :: rest)) = _
  rw [ends, slot, String.ofList_toList]
  rfl

/-! ## Columns of the target -/

def fragmentOf (relation : Relation) (text : List Char) : List Piece :=
  scan .outside (aim (some relation) text)

theorem fragmentOf_append (relation : Relation) {front : List Char}
    (copied : MadeOf isCopied front) (rest : List Char) :
    fragmentOf relation (front ++ rest) = chars front ++ fragmentOf relation rest := by
  unfold fragmentOf
  rw [aim_append relation (not_mem_of_copied copied rfl), scan_append copied]

theorem target_spelled : "$scheme.$table.".toList =
    Template.schemeToken.toList ++ (['.'] ++ (Template.tableToken.toList ++ ['.'])) := by
  decide

theorem aim_targetColumn {relation : Relation} (plain : relation.Plain) {name : String}
    (named : isIdentifier name = true) (rest : List Char) :
    aim (some relation) ((targetColumn name).toList ++ rest) =
      (relation.column name).toList ++ aim (some relation) rest := by
  have spelled : (targetColumn name).toList ++ rest = Template.schemeToken.toList ++
      (['.'] ++ (Template.tableToken.toList ++ (['.'] ++ (name.toList ++ rest)))) := by
    change ("$scheme.$table." ++ name).toList ++ rest = _
    rw [String.toList_append, target_spelled]
    simp only [List.append_assoc]
  rw [spelled, aim_scheme plain, aim_append relation (by decide), aim_table,
    aim_append relation (by decide), aim_append relation (not_mem_of_isIdentifier named rfl)]
  simp [Relation.column, Relation.qualified]

/-- A column of the target is written qualified. -/
theorem fragmentOf_targetColumn {relation : Relation} (plain : relation.Plain) {name : String}
    (named : isIdentifier name = true) (rest : List Char) :
    fragmentOf relation ((targetColumn name).toList ++ rest) =
      literal (relation.column name) ++ fragmentOf relation rest := by
  have names (c : Char) (isName : isNameChar c = true) := copied_of_nameChar isName
  have copied : MadeOf isCopied (relation.column name).toList :=
    madeOf_column names plain rfl (madeOf_of_isIdentifier names named)
  unfold fragmentOf
  rw [aim_targetColumn plain named, scan_append copied, literal_eq]

theorem aim_name (relation : Relation) {name : String} (plain : isIdentifier name = true)
    (rest : List Char) : aim (some relation) (':' :: (name.toList ++ rest)) =
      ':' :: (name.toList ++ aim (some relation) rest) := by
  change aim (some relation) ([':'] ++ (name.toList ++ rest)) = _
  rw [aim_append relation (by decide), aim_append relation (not_mem_of_isIdentifier plain rfl)]
  rfl

theorem fragmentOf_placeholder (relation : Relation) {name : String}
    (plain : isIdentifier name = true) :
    fragmentOf relation (':' :: name.toList) = [.slot name] := by
  have aimed := aim_name relation plain []
  rw [List.append_nil, aim_nil, List.append_nil] at aimed
  unfold fragmentOf
  rw [aimed, scan_placeholder plain]

theorem fragmentOf_placeholder_append (relation : Relation) {name : String}
    (plain : isIdentifier name = true) {c : Char} (ends : isNameChar c = false)
    (copied : isCopied c = true) (rest : List Char) :
    fragmentOf relation (':' :: (name.toList ++ c :: rest)) =
      .slot name :: fragmentOf relation (c :: rest) := by
  have absent : '$' ∉ [c] := not_mem_of_copied (madeOf_single copied) rfl
  have aimed : aim (some relation) (c :: rest) = c :: aim (some relation) rest :=
    aim_append relation absent rest
  unfold fragmentOf
  rw [aim_name relation plain, aimed, scan_placeholder_append plain ends]

end RelationQuery.Sql
