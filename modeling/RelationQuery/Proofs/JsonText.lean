import RelationQuery.Json.Read
import RelationQuery.Json.Write
import RelationQuery.Proofs.CharRuns
import RelationQuery.Proofs.DecimalText
import RelationQuery.Proofs.ObjectMembers

/-!
# The text of JSON documents

A document is read back from its text: each string escape is undone, a number ends where the text
around it goes on, and the items of an array and the members of an object are read one by one. Only
numbers may come back as other ones, and whole numbers of 64 bits do not.
-/

namespace RelationQuery.Json

open Text
open Sql (MadeOf)

/-! ## Strings -/

theorem hexValue?_hexDigit (n : Nat) : hexValue? (hexDigit n) = some (n % 16) := by
  have values : ∀ d < 16, hexValue? (Nat.digitChar d) = some d := by decide
  exact values (n % 16) (Nat.mod_lt _ (by decide))

/-- The escape of a control character is undone. -/
theorem readString?_control {c : Char} (control : c.toNat < 0x20) (rest : List Char) :
    readString?
        ('\\' :: 'u' :: '0' :: '0' :: hexDigit (c.toNat / 16) :: hexDigit c.toNat :: rest) =
      (readString? rest).map fun (chars, tail) => (c :: chars, tail) := by
  have quad : hexQuad? '0' '0' (hexDigit (c.toNat / 16)) (hexDigit c.toNat) = some c.toNat := by
    have zero : hexValue? '0' = some 0 := rfl
    simp only [hexQuad?, zero, hexValue?_hexDigit, Option.bind_eq_bind, Option.bind_some,
      Option.pure_def, Option.some.injEq]
    omega
  rw [readString?, quad]
  have plain : c.toNat < 0xD800 ∨ 0xE000 ≤ c.toNat := by omega
  simp only [if_pos plain, Char.ofNat_toNat]

theorem readString?_simple {letter c : Char} (simple : simpleEscape? letter = some c)
    (other : letter ≠ 'u') (rest : List Char) :
    readString? ('\\' :: letter :: rest) =
      (readString? rest).map fun (chars, tail) => (c :: chars, tail) := by
  simp [readString?, simple, other]

theorem readString?_visible {c : Char} (quote : c ≠ '"') (slash : c ≠ '\\')
    (visible : ¬c.toNat < 0x20) (rest : List Char) :
    readString? (c :: rest) = (readString? rest).map fun (chars, tail) => (c :: chars, tail) := by
  rw [readString?.eq_def]
  simp [slash, visible]

/-- The three forms in which a character is written. -/
theorem escapeChar_cases (c : Char) :
    (∃ letter, letter ≠ 'u' ∧ simpleEscape? letter = some c ∧ escapeChar c = ['\\', letter]) ∨
      (c.toNat < 0x20 ∧ escapeChar c =
        ['\\', 'u', '0', '0', hexDigit (c.toNat / 16), hexDigit c.toNat]) ∨
      (c ≠ '"' ∧ c ≠ '\\' ∧ ¬c.toNat < 0x20 ∧ escapeChar c = [c]) := by
  unfold escapeChar
  iterate 7
    split
    next mark => exact .inl ⟨_, by decide, by rw [beq_iff_eq.mp mark]; rfl, rfl⟩
  split
  next control => exact .inr (.inl ⟨control, rfl⟩)
  next quote slash _ _ _ _ _ visible =>
    exact .inr (.inr ⟨by simpa using quote, by simpa using slash, visible, rfl⟩)

/-- The escape of a character is undone. -/
theorem readString?_escapeChar (c : Char) (rest : List Char) :
    readString? (escapeChar c ++ rest) =
      (readString? rest).map fun (chars, tail) => (c :: chars, tail) := by
  obtain ⟨letter, other, simple, written⟩ | ⟨control, written⟩ | ⟨quote, slash, visible, written⟩ :=
    escapeChar_cases c
  · rw [written]
    exact readString?_simple simple other rest
  · rw [written]
    exact readString?_control control rest
  · rw [written]
    exact readString?_visible quote slash visible rest

theorem readString?_escaped (chars rest : List Char) :
    readString? (chars.flatMap escapeChar ++ '"' :: rest) = some (chars, rest) := by
  induction chars with
  | nil => rfl
  | cons c chars ih =>
      rw [List.flatMap_cons, List.append_assoc, readString?_escapeChar, ih]
      rfl

/-! ## Numbers -/

/-- A character with which a number can go on. -/
def goesOn (c : Char) : Bool := c.isDigit || c == '.' || c == 'e' || c == 'E'

theorem stops_digit {rest : List Char} (ends : Stops goesOn rest) : Stops Char.isDigit rest := by
  intro c member
  have none := ends c member
  simp only [goesOn, Bool.or_eq_false_iff] at none
  exact none.1.1.1

/-- The digits of a number have no zero in front but the one of zero itself. -/
theorem no_leading_zero (n : Nat) :
    ((Nat.toDigits 10 n).head? == some '0' && decide (1 < (Nat.toDigits 10 n).length)) = false := by
  by_cases leading : (Nat.toDigits 10 n).head? = some '0'
  · rw [eq_zero_of_head?_toDigits leading]
    rfl
  · simp [leading]

/-- The digits of a whole number are read up to where the text goes on. -/
theorem readMagnitude?_toDigits {negative : Bool} {n : Nat} {number : Number}
    (whole : wholeNumber? negative (Nat.toDigits 10 n) = some number) {rest : List Char}
    (ends : Stops goesOn rest) :
    readMagnitude? negative (Nat.toDigits 10 n ++ rest) = some (number, rest) := by
  have made : MadeOf Char.isDigit (Nat.toDigits 10 n) := fun _ => isDigit_toDigits
  have taken : Binary.digitsOf (Nat.toDigits 10 n ++ rest) = Nat.toDigits 10 n :=
    takeWhile_run (stops_digit ends) made
  have dropped : Binary.afterDigits (Nat.toDigits 10 n ++ rest) = rest :=
    dropWhile_run (stops_digit ends) made
  have filled : (Nat.toDigits 10 n).isEmpty = false := by simp
  simp only [readMagnitude?, taken, dropped, filled, no_leading_zero, Bool.false_or,
    Bool.false_eq_true, if_false]
  cases rest with
  | nil => simp [whole]
  | cons c rest =>
      have none := ends c rfl
      simp only [goesOn, Bool.or_eq_false_iff] at none
      simp [none, whole]

theorem wholeNumber?_positive {n : Nat} (small : n < 2 ^ 64) :
    wholeNumber? false (Nat.toDigits 10 n) = some (.whole n) := by
  have fits : n ≤ significandMax := Nat.le_pred_of_lt small
  simp [wholeNumber?, Nat.ofDigitChars_ten_toDigits, fits]

theorem wholeNumber?_negative {n : Nat} (positive : 0 < n) (small : n ≤ 2 ^ 63) :
    wholeNumber? true (Nat.toDigits 10 n) = some (.whole (-n)) := by
  simpa [wholeNumber?, Nat.ofDigitChars_ten_toDigits, positive] using small

/-- A number that does not begin with a minus sign is read as its magnitude. -/
theorem readNumber?_of_digit {first : Char} (digit : first.isDigit = true) (rest : List Char) :
    readNumber? (first :: rest) = readMagnitude? false (first :: rest) := by
  have minus := ne_of_digit digit (d := '-') (by decide)
  simp [readNumber?, minus]

/-- A whole number of 64 bits is read back in front of what ends it. -/
theorem readNumber?_text {n : Int} (low : -2 ^ 63 ≤ n) (high : n < 2 ^ 64) {rest : List Char}
    (ends : Stops goesOn rest) :
    readNumber? ((Number.whole n).text ++ rest) = some (.whole n, rest) := by
  rw [Number.text, toList_toString_int]
  by_cases negative : n < 0
  · have read := readMagnitude?_toDigits (n := n.natAbs)
      (wholeNumber?_negative (by omega) (by omega)) ends
    have same : -(n.natAbs : Int) = n := by omega
    rw [same] at read
    rw [if_pos negative]
    exact read
  · have read := readMagnitude?_toDigits (n := n.natAbs)
      (wholeNumber?_positive (by omega)) ends
    have same : (n.natAbs : Int) = n := by omega
    rw [same] at read
    obtain ⟨first, others, begins, digit⟩ := exists_toDigits n.natAbs
    rw [if_neg negative]
    rw [begins] at read ⊢
    rw [List.cons_append, readNumber?_of_digit digit]
    exact read

/-- A magnitude begins with a digit. -/
theorem exists_digit_of_readMagnitude? {negative : Bool} {text : List Char}
    {found : Number × List Char} (read : readMagnitude? negative text = some found) :
    ∃ first others, text = first :: others ∧ first.isDigit = true := by
  cases text with
  | nil => cases read
  | cons first others =>
      refine ⟨first, others, rfl, ?_⟩
      cases digit : first.isDigit with
      | true => rfl
      | false =>
          have none : Binary.digitsOf (first :: others) = [] :=
            List.takeWhile_cons_of_neg (by simp [digit])
          simp [readMagnitude?, none] at read

/-- A number begins with a digit or a minus sign. -/
theorem exists_head_of_readNumber? {text : List Char} {found : Number × List Char}
    (read : readNumber? text = some found) :
    ∃ first others, text = first :: others ∧ (first.isDigit = true ∨ first = '-') := by
  unfold readNumber? at read
  split at read
  · exact ⟨_, _, rfl, .inr rfl⟩
  · obtain ⟨first, others, begins, digit⟩ := exists_digit_of_readMagnitude? read
    exact ⟨first, others, begins, .inl digit⟩

def Number.reread (n : Number) : Number := ((readNumber? n.text).map Prod.fst).getD n

/-- A number that is read from its text, whatever ends it there. -/
def Number.Legible (n : Number) : Prop :=
  ∀ rest, Stops goesOn rest → readNumber? (n.text ++ rest) = some (n.reread, rest)

theorem Number.legible_of_read {n again : Number}
    (read : ∀ rest, Stops goesOn rest → readNumber? (n.text ++ rest) = some (again, rest)) :
    n.Legible ∧ n.reread = again := by
  have alone := read [] stops_nil
  rw [List.append_nil] at alone
  have same : n.reread = again := by rw [reread, alone]; rfl
  exact ⟨fun rest ends => (read rest ends).trans (by rw [same]), same⟩

theorem Number.legible_whole {n : Int} (low : -2 ^ 63 ≤ n) (high : n < 2 ^ 64) :
    (Number.whole n).Legible ∧ (Number.whole n).reread = .whole n :=
  legible_of_read fun _ => readNumber?_text low high

theorem Number.Legible.exists_head {n : Number} (legible : n.Legible) :
    ∃ first others, n.text = first :: others ∧ (first.isDigit = true ∨ first = '-') := by
  have alone := legible [] stops_nil
  rw [List.append_nil] at alone
  exact exists_head_of_readNumber? alone

/-! ## Documents -/

/-- A document that can be read back: its numbers can, its objects have their members in the order
of their keys, and at most `depth` arrays and objects nest. -/
inductive Legible : Nat → Json → Prop where
  | null {depth : Nat} : Legible depth .null
  | bool {depth : Nat} (b : Bool) : Legible depth (.bool b)
  | number {depth : Nat} {n : Number} (legible : n.Legible) : Legible depth (.number n)
  | string {depth : Nat} (s : String) : Legible depth (.string s)
  | array {depth : Nat} {items : List Json} (each : ∀ item ∈ items, Legible depth item) :
      Legible (depth + 1) (.array items)
  | object {depth : Nat} {members : List (String × Json)} (ascending : Ascending members)
      (each : ∀ member ∈ members, Legible depth member.2) : Legible (depth + 1) (.object members)

mutual

def reread : Json → Json
  | .null => .null
  | .bool b => .bool b
  | .number n => .number n.reread
  | .string s => .string s
  | .array items => .array (rereadItems items)
  | .object members => .object (rereadMembers members)

def rereadItems : List Json → List Json
  | [] => []
  | item :: rest => reread item :: rereadItems rest

def rereadMembers : List (String × Json) → List (String × Json)
  | [] => []
  | (key, value) :: rest => (key, reread value) :: rereadMembers rest

end

theorem keys_rereadMembers (members : List (String × Json)) :
    (rereadMembers members).map Prod.fst = members.map Prod.fst := by
  induction members with
  | nil => rfl
  | cons member rest ih => simp [rereadMembers, ih]

/-- A document begins with neither a space nor the end of an array. -/
def Opens (text : List Char) : Prop := ∀ c ∈ text.head?, isSpace c = false ∧ c ≠ ']'

theorem Opens.skipSpace {text : List Char} (opens : Opens text) : skipSpace text = text := by
  cases text with
  | nil => rfl
  | cons c rest => exact List.dropWhile_cons_of_neg (by simp [(opens c rfl).1])

theorem Legible.opens {depth : Nat} {document : Json} (legible : Legible depth document)
    (rest : List Char) : Opens (document.text ++ rest) := by
  intro c member
  cases legible with
  | null => cases member; decide
  | bool b => cases b <;> cases member <;> decide
  | number legible =>
      obtain ⟨first, others, begins, digit | rfl⟩ := legible.exists_head
      · rw [text, begins] at member
        cases member
        have space : isSpace c = false := by
          simp [isSpace, ne_of_digit digit (d := ' ') rfl, ne_of_digit digit (d := '\n') rfl,
            ne_of_digit digit (d := '\t') rfl, ne_of_digit digit (d := '\r') rfl]
        exact ⟨space, ne_of_digit digit rfl⟩
      · rw [text, begins] at member
        cases member
        decide
  | string s => cases member; decide
  | array each =>
      rename_i items
      cases items <;> cases member <;> decide
  | object ascending each =>
      rename_i members
      cases members <;> cases member <;> decide

/-- What does not begin like a word, a string, an array or an object is a number. -/
theorem readValue?_number {first : Char} (numeric : first.isDigit = true ∨ first = '-')
    (depth : Nat) (rest : List Char) :
    readValue? depth (first :: rest) =
      (readNumber? (first :: rest)).map fun (n, tail) => (.number n, tail) := by
  have other (c : Char) (solid : c.isDigit = false ∧ c ≠ '-') : first ≠ c := by
    rintro rfl
    obtain digit | minus := numeric
    · rw [solid.1] at digit
      cases digit
    · exact solid.2 minus
  have bracket := other '[' (by decide)
  have brace := other '\x7b' (by decide)
  have n := other 'n' (by decide)
  have t := other 't' (by decide)
  have f := other 'f' (by decide)
  have quote := other '"' (by decide)
  cases depth <;> simp [readValue?, readScalar?, bracket, brace, n, t, f, quote]

/-! ## Items -/

theorem readArray?_of_opens {item : List Char → Option (Json × List Char)} {text : List Char}
    (opens : Opens text) : readArray? item text = readItems? item (text.length + 1) text := by
  rw [readArray?, opens.skipSpace]
  split
  · exact absurd rfl (opens _ rfl).2
  · rfl

theorem length_le_restText (items : List Json) : items.length ≤ (restText items).length := by
  induction items with
  | nil => simp
  | cons item items ih =>
      simp only [restText, List.length_append, List.length_cons]
      omega

theorem stops_goesOn {c : Char} (ends : c = ',' ∨ c = ']' ∨ c = '\x7d') (rest : List Char) :
    Stops goesOn (c :: rest) := by
  apply stops_cons
  obtain rfl | rfl | rfl := ends <;> rfl

section

variable {depth : Nat}

def ReadBack (depth : Nat) (document : Json) : Prop :=
  ∀ rest, Stops goesOn rest →
    readValue? depth (document.text ++ rest) = some (document.reread, rest)

/-- The items of an array are read one by one. -/
theorem readItems?_text {item : Json} {others : List Json}
    (read : ∀ document ∈ item :: others, ReadBack depth document)
    (opens : ∀ document ∈ item :: others, ∀ rest, Opens (document.text ++ rest)) {fuel : Nat}
    (enough : others.length < fuel) (tail : List Char) :
    readItems? (readValue? depth) fuel (item.text ++ restText others ++ tail) =
      some (rereadItems (item :: others), tail) := by
  induction others generalizing item fuel with
  | nil =>
      cases fuel with
      | zero => contradiction
      | succ fuel =>
          have here := read item List.mem_cons_self (']' :: tail) (stops_goesOn (by simp) _)
          have start := (opens item List.mem_cons_self (']' :: tail)).skipSpace
          simp only [readItems?, restText, List.append_assoc, List.cons_append, List.nil_append,
            start, here]
          rfl
  | cons next others ih =>
      cases fuel with
      | zero => contradiction
      | succ fuel =>
          have here := read item List.mem_cons_self
            (',' :: (next.text ++ restText others ++ tail)) (stops_goesOn (by simp) _)
          have start := (opens item List.mem_cons_self
            (',' :: (next.text ++ restText others ++ tail))).skipSpace
          have later := ih (fun document member => read document (List.mem_cons_of_mem _ member))
            (fun document member => opens document (List.mem_cons_of_mem _ member))
            (Nat.lt_of_succ_lt_succ enough)
          simp only [List.append_assoc] at later here start
          simp only [readItems?, restText, List.append_assoc, List.cons_append, start, here]
          change (readItems? (readValue? depth) fuel _).map _ = _
          rw [later]
          rfl

/-! ## Members -/

theorem length_le_membersText (members : List (String × Json)) :
    members.length ≤ (membersText members).length := by
  induction members with
  | nil => simp
  | cons member members ih =>
      simp only [membersText, List.length_append, List.length_cons]
      omega

theorem skipSpace_mark {c : Char} (solid : isSpace c = false) (rest : List Char) :
    skipSpace (c :: rest) = c :: rest :=
  List.dropWhile_cons_of_neg (by simp [solid])

/-- The members of an object are read one by one. -/
theorem readMembers?_text {key : String} {value : Json} {others : List (String × Json)}
    (read : ∀ member ∈ (key, value) :: others, ReadBack depth member.2)
    (opens : ∀ member ∈ (key, value) :: others, ∀ rest, Opens (member.2.text ++ rest))
    {fuel : Nat} (enough : others.length < fuel) (tail : List Char) :
    readMembers? (readValue? depth) fuel
        (stringText key ++ ':' :: (value.text ++ (membersText others ++ tail))) =
      some (rereadMembers ((key, value) :: others), tail) := by
  induction others generalizing key value fuel with
  | nil =>
      cases fuel with
      | zero => contradiction
      | succ fuel =>
          have here := read (key, value) List.mem_cons_self ('\x7d' :: tail)
            (stops_goesOn (by simp) _)
          have start := (opens (key, value) List.mem_cons_self ('\x7d' :: tail)).skipSpace
          simp only [readMembers?, stringText, membersText, List.append_assoc, List.cons_append,
            List.nil_append, skipSpace_mark (c := '"') rfl, readString?_escaped,
            skipSpace_mark (c := ':') rfl, start, here, String.ofList_toList]
          rfl
  | cons next others ih =>
      cases fuel with
      | zero => contradiction
      | succ fuel =>
          obtain ⟨name, other⟩ := next
          have here := read (key, value) List.mem_cons_self
            (',' :: (stringText name ++ ':' :: (other.text ++ (membersText others ++ tail))))
            (stops_goesOn (by simp) _)
          have start := (opens (key, value) List.mem_cons_self
            (',' :: (stringText name ++ ':' :: (other.text ++ (membersText others ++ tail)))))
            |>.skipSpace
          have later := ih (fun member listed => read member (List.mem_cons_of_mem _ listed))
            (fun member listed => opens member (List.mem_cons_of_mem _ listed))
            (Nat.lt_of_succ_lt_succ enough)
          simp only [stringText, List.append_assoc, List.cons_append, List.nil_append]
            at later here start
          simp only [readMembers?, stringText, membersText, List.append_assoc, List.cons_append,
            List.nil_append, skipSpace_mark (c := '"') rfl, readString?_escaped,
            skipSpace_mark (c := ':') rfl, start, here, String.ofList_toList]
          change (readMembers? (readValue? depth) fuel _).map _ = _
          rw [later]
          rfl

end

/-! ## Whole documents -/

theorem readObject?_of_quote (item : List Char → Option (Json × List Char)) (text : List Char) :
    readObject? item ('"' :: text) = readMembers? item (text.length + 2) ('"' :: text) := by
  rw [readObject?, skipSpace_mark (c := '"') rfl]
  rfl

theorem text_object (members : List (String × Json)) :
    (Json.object members).text = '\x7b' :: (Json.object members).text.tail := by
  cases members <;> rfl

/-- The members of an object are read behind its brace. -/
theorem readObject?_text {depth : Nat} {members : List (String × Json)}
    (read : ∀ member ∈ members, ReadBack depth member.2)
    (opens : ∀ member ∈ members, ∀ rest, Opens (member.2.text ++ rest)) (rest : List Char) :
    readObject? (readValue? depth) ((Json.object members).text.tail ++ rest) =
      some (rereadMembers members, rest) := by
  cases members with
  | nil => rfl
  | cons member others =>
      obtain ⟨key, value⟩ := member
      have body : (Json.object ((key, value) :: others)).text.tail ++ rest =
          stringText key ++ ':' :: (value.text ++ (membersText others ++ rest)) := by
        simp [text]
      have enough : others.length < (key.toList.flatMap escapeChar ++ ['"'] ++
          ':' :: (value.text ++ (membersText others ++ rest))).length + 2 := by
        have long := length_le_membersText others
        simp only [List.length_append, List.length_cons]
        omega
      have found := readMembers?_text read opens enough rest
      have object := readObject?_of_quote (readValue? depth)
        (key.toList.flatMap escapeChar ++ ['"'] ++
          ':' :: (value.text ++ (membersText others ++ rest)))
      rw [body]
      rw [stringText, List.cons_append, List.cons_append] at found ⊢
      rw [object, found]

/-- A legible document is read back in front of what ends it. -/
theorem Legible.readBack {depth : Nat} {document : Json} (legible : Legible depth document) :
    ReadBack depth document := by
  intro rest ends
  induction legible generalizing rest with
  | null => rename_i depth; cases depth <;> rfl
  | bool b => rename_i depth; cases depth <;> cases b <;> rfl
  | number legible =>
      rename_i depth n
      obtain ⟨first, others, begins, numeric⟩ := legible.exists_head
      have read := legible rest ends
      rw [begins] at read
      rw [text, begins, List.cons_append, readValue?_number numeric, ← List.cons_append, read]
      rfl
  | string s =>
      rename_i depth
      have read : readScalar? ((Json.string s).text ++ rest) = some (.string s, rest) := by
        have chars := readString?_escaped s.toList rest
        simp [text, stringText, readScalar?, chars]
      cases depth <;> exact read
  | array each ih =>
      rename_i depth items
      cases items with
      | nil => rfl
      | cons item others =>
          have opens (document : Json) (member : document ∈ item :: others) :=
            (each document member).opens
          have start : Opens (item.text ++ restText others ++ rest) := by
            rw [List.append_assoc]
            exact opens item List.mem_cons_self _
          have enough : others.length < (item.text ++ restText others ++ rest).length + 1 := by
            have long := length_le_restText others
            simp only [List.length_append]
            omega
          have read := readItems?_text ih opens enough rest
          change (readArray? (readValue? depth) (item.text ++ restText others ++ rest)).map _ = _
          rw [readArray?_of_opens start, read]
          rfl
  | object ascending each ih =>
      rename_i depth members
      have order : Ascending (rereadMembers members) := by
        unfold Ascending
        rw [keys_rereadMembers]
        exact ascending
      have read := readObject?_text ih (fun member listed => (each member listed).opens) rest
      rw [text_object, List.cons_append]
      change (readObject? (readValue? depth) _).map _ = _
      rw [read]
      exact congrArg (fun json => some (json, rest)) (ofMembers_of_ascending order)

/-- A document that is read back is read from its text as a whole. -/
theorem Legible.read?_text {document : Json} (legible : Legible depthMax document) :
    read? document.text = some document.reread := by
  have read := legible.readBack [] stops_nil
  have start := (legible.opens []).skipSpace
  rw [List.append_nil] at read start
  rw [read?, start, read]
  rfl

/-- The members of an object that is read back are read one by one from its text. -/
theorem Legible.readKeyed?_text {members : List (String × Json)}
    (legible : Legible depthMax (.object members)) :
    readKeyed? (Json.object members).text = some (Keyed.ofList (rereadMembers members)) := by
  cases legible with
  | object ascending each =>
      have read := readObject?_text (fun member listed => (each member listed).readBack)
        (fun member listed => (each member listed).opens) []
      rw [List.append_nil] at read
      have found : readObject? (readValue? (depthMax - 1)) (Json.object members).text.tail =
          some (rereadMembers members, []) := read
      have start : skipSpace (Json.object members).text =
          '\x7b' :: (Json.object members).text.tail := by
        rw [text_object]
        rfl
      simp only [readKeyed?, start, found]
      rfl

/-! ## Documents that come back as they are -/

/-- A document of words, strings, whole numbers of 64 bits and arrays, at most `depth` arrays deep. -/
inductive Plain : Nat → Json → Prop where
  | null {depth : Nat} : Plain depth .null
  | bool {depth : Nat} (b : Bool) : Plain depth (.bool b)
  | whole {depth : Nat} {n : Int} (low : -2 ^ 63 ≤ n) (high : n < 2 ^ 64) :
      Plain depth (.number (.whole n))
  | string {depth : Nat} (s : String) : Plain depth (.string s)
  | array {depth : Nat} {items : List Json} (each : ∀ item ∈ items, Plain depth item) :
      Plain (depth + 1) (.array items)

theorem rereadItems_of_same {items : List Json} (same : ∀ item ∈ items, reread item = item) :
    rereadItems items = items := by
  induction items with
  | nil => rfl
  | cons item rest ih =>
      rw [rereadItems, same item List.mem_cons_self,
        ih fun other member => same other (List.mem_cons_of_mem _ member)]

theorem Plain.legible {depth : Nat} {document : Json} (plain : Plain depth document) :
    Legible depth document ∧ document.reread = document := by
  induction plain with
  | null => exact ⟨.null, rfl⟩
  | bool b => exact ⟨.bool b, rfl⟩
  | whole low high =>
      obtain ⟨legible, same⟩ := Number.legible_whole low high
      exact ⟨.number legible, congrArg Json.number same⟩
  | string s => exact ⟨.string s, rfl⟩
  | array each ih =>
      exact ⟨.array fun item member => (ih item member).1,
        congrArg Json.array (rereadItems_of_same fun item member => (ih item member).2)⟩

/-- A plain document is read back from its text. -/
theorem Plain.read?_text {document : Json} (plain : Plain depthMax document) :
    read? document.text = some document := by
  rw [plain.legible.1.read?_text, plain.legible.2]

end RelationQuery.Json
