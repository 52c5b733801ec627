import Mathlib.Data.List.Nodup
import RelationQuery.Proofs.Numbering
import RelationQuery.Text.Digits

/-!
# Reading positional placeholders

A server reads the text of a statement from the left. A dollar sign outside quotes with digits
behind it is a placeholder, and its number is as long as the digits go. Where a text stands on firm
footing, this reading gives back every slot with the number it was written with.
-/

namespace RelationQuery.Sql

open Template (isQuote)

inductive Token where
  | char (c : Char)
  /-- The placeholder `$k` outside quotes. -/
  | place (k : Nat)
  deriving DecidableEq, Repr

inductive Reader where
  | outside
  /-- Inside a region that the next `mark` closes. -/
  | quoted (mark : Char)
  /-- Behind a dollar sign. -/
  | dollar
  /-- Behind a dollar sign and digits. -/
  | number (digits : List Char)
  deriving DecidableEq, Repr

namespace Reader

/-- Where a character met outside quotes and placeholders leads. -/
def after (c : Char) : Reader :=
  if isQuote c then .quoted c else if c == '$' then .dollar else .outside

def passed (c : Char) : List Token := if c == '$' then [] else [.char c]

def read : Reader → List Char → List Token
  | .outside, [] => []
  | .quoted _, [] => []
  | .dollar, [] => [.char '$']
  | .number digits, [] => [.place (Text.digitsValue digits)]
  | .outside, c :: rest => passed c ++ read (after c) rest
  | .quoted mark, c :: rest =>
      .char c :: read (if c == mark then .outside else .quoted mark) rest
  | .dollar, c :: rest =>
      if c.isDigit then read (.number [c]) rest
      else .char '$' :: passed c ++ read (after c) rest
  | .number digits, c :: rest =>
      if c.isDigit then read (.number (digits ++ [c])) rest
      else .place (Text.digitsValue digits) :: passed c ++ read (after c) rest

/-- What a reader has met and not reported yet. -/
def held : Reader → List Token
  | .outside => []
  | .quoted _ => []
  | .dollar => [.char '$']
  | .number digits => [.place (Text.digitsValue digits)]

end Reader

def tokens (sql : String) : List Token := Reader.outside.read sql.toList

def Token.place? : Token → Option Nat
  | .char _ => none
  | .place k => some k

/-- The numbers of the placeholders at every place where they stand. -/
def places (tokens : List Token) : List Nat := tokens.filterMap Token.place?

def Piece.token (names : List String) : Piece → Token
  | .char c => .char c
  | .slot name => .place (names.idxOf name + 1)

namespace Reader

theorem passed_held (c : Char) : passed c ++ (after c).held = [.char c] := by
  by_cases dollar : c = '$'
  · subst dollar
    rfl
  · unfold after
    split <;> simp [passed, held, dollar]

theorem read_number (digits more rest : List Char) (numeric : ∀ c ∈ more, c.isDigit = true) :
    read (.number digits) (more ++ rest) = read (.number (digits ++ more)) rest := by
  induction more generalizing digits with
  | nil => rw [List.nil_append, List.append_nil]
  | cons c more ih =>
      have digit : c.isDigit = true := numeric c List.mem_cons_self
      rw [List.cons_append, read, if_pos digit, ih _ fun d member =>
        numeric d (List.mem_cons_of_mem c member), List.append_assoc]
      rfl

/-- A dollar sign and a number are read on until the digits end. -/
theorem read_dollar_number (k : Nat) (rest : List Char) :
    read .dollar (Nat.toDigits 10 k ++ rest) = read (.number (Nat.toDigits 10 k)) rest := by
  have numeric : ∀ c ∈ Nat.toDigits 10 k, c.isDigit = true := fun c member =>
    Nat.isDigit_of_mem_toDigits (by decide) (by decide) member
  cases written : Nat.toDigits 10 k with
  | nil => exact absurd written Nat.toDigits_ne_nil
  | cons c more =>
      rw [written] at numeric
      have digit : c.isDigit = true := numeric c List.mem_cons_self
      rw [List.cons_append, read, if_pos digit, read_number _ _ _ fun d member =>
        numeric d (List.mem_cons_of_mem c member)]
      rfl

end Reader

/-! ## Firm footing -/

/-- What may follow a point of a statement. -/
inductive Footing where
  /-- Outside quotes. -/
  | firm
  /-- Outside quotes, where a digit would be read as part of a number. -/
  | loose
  /-- Inside a region that the next `mark` closes. -/
  | quoted (mark : Char)
  /-- Behind a piece that would be misread. -/
  | lost
  deriving DecidableEq, Repr

namespace Footing

def after (c : Char) : Footing :=
  if isQuote c then .quoted c else if c == '$' then .loose else .firm

def step : Footing → Piece → Footing
  | .firm, .char c => after c
  | .loose, .char c => if c.isDigit then .lost else after c
  | .quoted mark, .char c => if c == mark then .firm else .quoted mark
  | .lost, .char _ => .lost
  | .firm, .slot _ => .loose
  | .loose, .slot _ => .loose
  | .quoted _, .slot _ => .lost
  | .lost, .slot _ => .lost

def run (footing : Footing) (pieces : List Piece) : Footing := pieces.foldl step footing

def Outside (footing : Footing) : Prop := footing = .firm ∨ footing = .loose

@[simp] theorem run_append (footing : Footing) (front back : List Piece) :
    footing.run (front ++ back) = (footing.run front).run back :=
  List.foldl_append

theorem step_lost (piece : Piece) : lost.step piece = .lost := by
  cases piece <;> rfl

theorem run_lost (pieces : List Piece) : lost.run pieces = .lost := by
  induction pieces with
  | nil => rfl
  | cons piece rest ih =>
      change (lost.step piece).run rest = .lost
      rw [step_lost, ih]

theorem step_ne_lost {footing : Footing} {piece : Piece} {rest : List Piece}
    (kept : footing.run (piece :: rest) ≠ .lost) : footing.step piece ≠ .lost := by
  intro lost
  apply kept
  change (footing.step piece).run rest = .lost
  rw [lost, run_lost]

theorem Outside.ne_lost {footing : Footing} (outside : footing.Outside) : footing ≠ .lost := by
  rcases outside with rfl | rfl <;> exact fun same => nomatch same

theorem step_char {footing : Footing} (outside : footing.Outside) {c : Char}
    (kept : footing.step (.char c) ≠ .lost) :
    footing.step (.char c) = after c ∧ (footing = .loose → c.isDigit = false) := by
  rcases outside with rfl | rfl
  · exact ⟨rfl, fun same => nomatch same⟩
  · by_cases digit : c.isDigit = true
    · exact absurd (if_pos digit) kept
    · exact ⟨if_neg digit, fun _ => by simpa using digit⟩

theorem step_slot {footing : Footing} (outside : footing.Outside) (name : String) :
    footing.step (.slot name) = .loose := by
  rcases outside with rfl | rfl <;> rfl

end Footing

/-- A reader stands where the footing says. -/
inductive Reader.On : Reader → Footing → Prop where
  | outside : On .outside .firm
  | quoted (mark : Char) : On (.quoted mark) (.quoted mark)
  | dollar : On .dollar .loose
  | number (digits : List Char) : On (.number digits) .loose

namespace Reader.On

theorem after (c : Char) : (Reader.after c).On (Footing.after c) := by
  unfold Reader.after Footing.after
  split
  · exact .quoted c
  · split
    · exact .dollar
    · exact .outside

/-- Outside quotes a character that ends a number is passed behind what was held. -/
theorem read_cons {reader : Reader} {footing : Footing} (on : reader.On footing)
    (outside : footing.Outside) {c : Char} (ends : footing = .loose → c.isDigit = false)
    (rest : List Char) :
    reader.read (c :: rest) = reader.held ++ (passed c ++ (Reader.after c).read rest) := by
  cases on with
  | outside => rfl
  | quoted mark => exact absurd outside (by rintro (same | same) <;> cases same)
  | dollar =>
      rw [read, if_neg (by simp [ends rfl])]
      rfl
  | number digits =>
      rw [read, if_neg (by simp [ends rfl])]
      rfl

theorem outside_or_quoted {reader : Reader} {footing : Footing} (on : reader.On footing) :
    footing.Outside ∨ ∃ mark, reader = .quoted mark ∧ footing = .quoted mark := by
  cases on with
  | outside => exact .inl (.inl rfl)
  | quoted mark => exact .inr ⟨mark, rfl, rfl⟩
  | dollar => exact .inl (.inr rfl)
  | number digits => exact .inl (.inr rfl)

theorem closing (mark c : Char) :
    (if c == mark then Reader.outside else .quoted mark).On
      ((Footing.quoted mark).step (.char c)) := by
  change On _ (if c == mark then Footing.firm else .quoted mark)
  split
  · exact .outside
  · exact .quoted mark

theorem held_closing (mark c : Char) :
    (if c == mark then Reader.outside else .quoted mark).held = [] := by
  split <;> rfl

/-- On firm footing every slot is read as the place of its name. -/
theorem read_textOf {reader : Reader} {footing : Footing} (on : reader.On footing)
    (names : List String) {pieces : List Piece} (kept : footing.run pieces ≠ .lost) :
    reader.read (textOf names pieces) = reader.held ++ pieces.map (Piece.token names) := by
  induction pieces generalizing reader footing with
  | nil => cases on <;> rfl
  | cons piece rest ih =>
      have here := Footing.step_ne_lost kept
      change (footing.step piece).run rest ≠ .lost at kept
      cases piece with
      | char c =>
          change reader.read (c :: textOf names rest) = reader.held ++ (.char c :: rest.map _)
          rcases on.outside_or_quoted with outside | ⟨mark, rfl, rfl⟩
          · obtain ⟨next, ends⟩ := Footing.step_char outside here
            rw [next] at kept
            rw [read_cons on outside ends, ih (.after c) kept, ← List.append_assoc (passed c),
              passed_held]
            rfl
          · rw [read, ih (closing mark c) kept, held_closing]
            rfl
      | slot name =>
          rcases on.outside_or_quoted with outside | ⟨mark, rfl, rfl⟩
          · rw [Footing.step_slot outside] at kept
            change
              reader.read ('$' :: (Nat.toDigits 10 (names.idxOf name + 1) ++ textOf names rest))
              = reader.held ++ (.place (names.idxOf name + 1) :: rest.map _)
            rw [read_cons on outside fun _ => rfl]
            change _ ++ Reader.read .dollar _ = _
            rw [read_dollar_number, ih (.number _) kept]
            change _ ++ ([Token.place _] ++ _) = _
            rw [Text.digitsValue, Nat.ofDigitChars_ten_toDigits]
            rfl
          · exact absurd rfl here

end Reader.On

/-- The tokens of a statement that keeps its footing. -/
theorem tokens_textOf {names : List String} {pieces : List Piece} {sql : String}
    (written : sql.toList = textOf names pieces) (kept : Footing.firm.run pieces ≠ .lost) :
    tokens sql = pieces.map (Piece.token names) := by
  unfold tokens
  rw [written, Reader.On.read_textOf .outside names kept]
  rfl

/-! ## The numbers in order -/

theorem places_map_token (names : List String) (pieces : List Piece) :
    places (pieces.map (Piece.token names)) =
      (slots pieces).map fun name => names.idxOf name + 1 := by
  unfold places slots
  rw [List.filterMap_map, List.map_filterMap]
  congr 1
  funext piece
  cases piece <;> rfl

theorem map_idxOf_range {names : List String} (distinct : names.Nodup) :
    names.map (fun name => names.idxOf name + 1) = List.range' 1 names.length := by
  apply List.ext_getElem
  · simp
  · intro place inNames inRange
    have bound : place < names.length := by simpa using inNames
    rw [List.getElem_map, distinct.idxOf_getElem, List.getElem_range']
    omega

/-- The numbers of a statement are those from one up to the number of its names, in the order of
their first occurrence. -/
theorem eraseDups_places (pieces : List Piece) :
    (places (pieces.map (Piece.token (slotNames pieces)))).eraseDups =
      List.range' 1 (slotNames pieces).length := by
  rw [places_map_token, eraseDups_map, ← slotNames_eq, map_idxOf_range (nodup_slotNames pieces)]
  intro a memberA b memberB same
  have known (name : String) (member : name ∈ slots pieces) : name ∈ slotNames pieces := by
    rwa [slotNames_eq, List.mem_eraseDups]
  exact (List.idxOf_inj (known a memberA)).mp (Nat.succ.inj same)

end RelationQuery.Sql
