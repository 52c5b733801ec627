import RelationQuery.Proofs.Targets

/-!
# Parentheses outside quotes

A reader of parentheses counts how many are open and passes over quoted regions. Names, numbers and
placeholders do not move it, so it reads the written text of a fragment as it reads the fragment.
-/

namespace RelationQuery.Sql

open Template (isQuote isNameChar isNameStart)

inductive Nesting where
  /-- Outside quotes, behind `depth` parentheses that are open. -/
  | level (depth : Nat)
  /-- Inside a region that the next `mark` closes. -/
  | quoted (mark : Char) (depth : Nat)
  /-- Behind a parenthesis that closes nothing. -/
  | broken
  deriving DecidableEq, Repr

namespace Nesting

def close : Nat → Nesting
  | 0 => .broken
  | depth + 1 => .level depth

def step : Nesting → Char → Nesting
  | .level depth, c =>
      if isQuote c then .quoted c depth
      else if c == '(' then .level (depth + 1)
      else if c == ')' then close depth
      else .level depth
  | .quoted mark depth, c => if c == mark then .level depth else .quoted mark depth
  | .broken, _ => .broken

def run (state : Nesting) (text : List Char) : Nesting := text.foldl step state

def Inside : Nesting → Prop
  | .level depth => 0 < depth
  | .quoted _ depth => 0 < depth
  | .broken => False

end Nesting

/-- Quotes are closed, a parenthesis outside them closes one before it, and none is left open. -/
def Balanced (text : List Char) : Prop := (Nesting.level 0).run text = .level 0

instance (text : List Char) : Decidable (Balanced text) :=
  inferInstanceAs (Decidable (_ = _))

/-- Text in parentheses of which the first is closed by the last character and by none before. -/
structure Enclosed (text : List Char) : Prop where
  opens : text.head? = some '('
  closes : text.getLast? = some ')'
  inside : ∀ front behind, text = front ++ behind → front ≠ [] → behind ≠ [] →
    ((Nesting.level 0).run front).Inside
  balanced : Balanced text

/-- The characters that are met outside quotes and parentheses; of what is in parentheses only the
one that opens is met. -/
def surface : Nesting → List Char → List Char
  | _, [] => []
  | .level 0, c :: rest => c :: surface ((Nesting.level 0).step c) rest
  | .level (depth + 1), c :: rest => surface ((Nesting.level (depth + 1)).step c) rest
  | .quoted mark depth, c :: rest => surface ((Nesting.quoted mark depth).step c) rest
  | .broken, _ :: rest => surface .broken rest

/-! ## Characters that do not count -/

def isInert (c : Char) : Bool := !isQuote c && c != '(' && c != ')'

theorem inert_of_nameChar {c : Char} (named : isNameChar c = true) : isInert c = true := by
  simp [isInert, not_quote_of_nameChar named, ne_of_nameChar named '(' rfl,
    ne_of_nameChar named ')' rfl]

abbrev Inert (text : String) : Prop := MadeOf isInert text.toList

theorem inert_of_isIdentifier {name : String} (plain : isIdentifier name = true) : Inert name :=
  madeOf_of_isIdentifier (fun _ => inert_of_nameChar) plain

theorem inert_placeholder (k : Nat) : MadeOf isInert (placeholder k) := by
  intro c member
  rcases List.mem_cons.mp member with rfl | digit
  · rfl
  · have numeric := Nat.isDigit_of_mem_toDigits (by decide) (by decide) digit
    exact inert_of_nameChar (nameChar_of_digit numeric)

namespace Nesting

/-- Only quotation marks open a quoted region. -/
def Sound (state : Nesting) : Prop := ∀ mark depth, state = .quoted mark depth → isQuote mark = true

theorem sound_level (depth : Nat) : (level depth).Sound := fun _ _ same => nomatch same

theorem step_sound (state : Nesting) (c : Char) (sound : state.Sound) : (state.step c).Sound := by
  cases state with
  | level depth =>
      change Sound (if isQuote c then .quoted c depth
        else if c == '(' then .level (depth + 1)
        else if c == ')' then close depth else .level depth)
      split
      · rename_i quote
        intro mark inner same
        cases same
        exact quote
      split
      · exact sound_level _
      split
      · cases depth with
        | zero => exact fun _ _ same => nomatch same
        | succ depth => exact sound_level depth
      · exact sound_level depth
  | quoted mark depth =>
      change Sound (if c == mark then .level depth else .quoted mark depth)
      split
      · exact sound_level depth
      · exact sound
  | broken => exact sound

@[simp] theorem run_append (state : Nesting) (front back : List Char) :
    state.run (front ++ back) = (state.run front).run back :=
  List.foldl_append

theorem step_inert {state : Nesting} (sound : state.Sound) {c : Char} (inert : isInert c = true) :
    state.step c = state := by
  obtain ⟨rest, notClose⟩ := (Bool.and_eq_true _ _).mp inert
  obtain ⟨unquoted, notOpen⟩ := (Bool.and_eq_true _ _).mp rest
  cases state with
  | level depth =>
      change (if isQuote c then quoted c depth
        else if c == '(' then .level (depth + 1) else if c == ')' then close depth
        else .level depth) = .level depth
      rw [if_neg (by simpa using unquoted), if_neg (by simpa using notOpen),
        if_neg (by simpa using notClose)]
  | quoted mark depth =>
      have other : ¬ (c == mark) = true := by
        intro same
        have quote := sound mark depth rfl
        rw [← beq_iff_eq.mp same] at quote
        simp [quote] at unquoted
      exact if_neg other
  | broken => rfl

theorem run_inert {state : Nesting} (sound : state.Sound) {text : List Char}
    (inert : MadeOf isInert text) : state.run text = state := by
  induction text with
  | nil => rfl
  | cons c rest ih =>
      change (state.step c).run rest = state
      rw [step_inert sound (inert c List.mem_cons_self)]
      exact ih fun d member => inert d (List.mem_cons_of_mem c member)

end Nesting

theorem balanced_of_inert {text : String} (inert : Inert text) : Balanced text.toList :=
  Nesting.run_inert (Nesting.sound_level 0) inert

theorem balanced_append {front back : List Char} (first : Balanced front)
    (second : Balanced back) : Balanced (front ++ back) := by
  unfold Balanced at *
  rw [Nesting.run_append, first, second]

/-! ## Fragments -/

namespace Nesting

/-- A plain target leaves the parentheses of a fragment as they are. -/
theorem run_aim {relation : Relation} (plain : relation.Plain) {state : Nesting}
    (sound : state.Sound) (text : List Char) :
    state.run (Template.aim (some relation) text) = state.run text := by
  have same {name token : List Char} (named : MadeOf isInert name)
      (tokened : MadeOf isInert token) (state : Nesting) (sound : state.Sound) :
      name.foldl step state = token.foldl step state :=
    (run_inert sound named).trans (run_inert sound tokened).symm
  have table := same (inert_of_isIdentifier plain.2)
    (by decide : MadeOf isInert Template.tableToken.toList)
  have scheme := same (inert_of_isIdentifier plain.1)
    (by decide : MadeOf isInert Template.schemeToken.toList)
  rw [aim_eq]
  exact (Text.foldl_replace step_sound table (by decide) _ sound).trans
    (Text.foldl_replace step_sound scheme (by decide) text sound)

/-- Numbers in place of names do not count either. -/
theorem run_textOf (names : List String) {pieces : List Piece}
    (named : ∀ name, .slot name ∈ pieces → MadeOf isNameChar name.toList)
    {state : Nesting} (sound : state.Sound) :
    state.run (textOf names pieces) = state.run (Sql.named pieces) := by
  induction pieces generalizing state with
  | nil => rfl
  | cons piece rest ih =>
      have later := fun name member => named name (List.mem_cons_of_mem piece member)
      cases piece with
      | char c => exact ih later (step_sound state c sound)
      | slot name =>
          have inert : MadeOf isInert (':' :: name.toList) := by
            intro c member
            rcases List.mem_cons.mp member with rfl | inName
            · rfl
            · exact inert_of_nameChar (named name List.mem_cons_self c inName)
          change state.run (placeholder (names.idxOf name + 1) ++ textOf names rest) =
            state.run ((':' :: name.toList) ++ Sql.named rest)
          rw [run_append, run_append, run_inert sound (inert_placeholder _), run_inert sound inert]
          exact ih later sound

end Nesting

open Template (Scan scan)

theorem slot_not_mem_written (c : Char) (name : String) : .slot name ∉ Template.written c := by
  intro member
  unfold Template.written at member
  split at member
  · contradiction
  · cases List.mem_singleton.mp member

/-- The names of the slots of a fragment hold nothing but characters of names. -/
theorem nameChar_of_slot {state : Scan} {text : List Char}
    (begun : ∀ start, state = .name start → MadeOf isNameChar start) {name : String}
    (member : .slot name ∈ scan state text) : MadeOf isNameChar name.toList := by
  have ended {start : List Char} (named : MadeOf isNameChar start)
      (same : Piece.slot name = Template.slot start) : MadeOf isNameChar name.toList := by
    cases same
    rw [String.toList_ofList]
    exact named
  have fresh (c : Char) : ∀ start, Scan.after c = .name start → MadeOf isNameChar start := by
    intro start same
    unfold Scan.after at same
    split at same
    · cases same
    · split at same <;> cases same
  fun_induction scan state text with
  | case1 => contradiction
  | case2 mark => contradiction
  | case3 => cases List.mem_singleton.mp member
  | case4 start => exact ended (begun start rfl) (List.mem_singleton.mp member)
  | case5 c rest ih =>
      rcases List.mem_append.mp member with here | later
      · exact absurd here (slot_not_mem_written c name)
      · exact ih (fresh c) later
  | case6 mark c rest ih =>
      rcases List.mem_cons.mp member with same | later
      · cases same
      · refine ih ?_ later
        intro start same
        split at same <;> cases same
  | case7 c rest double ih =>
      rcases List.mem_cons.mp member with same | later
      · cases same
      rcases List.mem_cons.mp later with same | later
      · cases same
      · refine ih ?_ later
        intro start same
        cases same
  | case8 c rest single starts ih =>
      refine ih ?_ member
      intro start same
      cases same
      exact madeOf_single (nameChar_of_nameStart starts)
  | case9 c rest single other ih =>
      rcases List.mem_cons.mp member with same | later
      · cases same
      rcases List.mem_append.mp later with here | later
      · exact absurd here (slot_not_mem_written c name)
      · exact ih (fresh c) later
  | case10 start c rest more ih =>
      refine ih ?_ member
      intro longer same
      cases same
      exact madeOf_append (begun start rfl) (madeOf_single more)
  | case11 start c rest last ih =>
      rcases List.mem_cons.mp member with same | later
      · exact ended (begun start rfl) same
      rcases List.mem_append.mp later with here | later
      · exact absurd here (slot_not_mem_written c name)
      · exact ih (fresh c) later

/-- A fragment of a plain target is written balanced when it is balanced. -/
theorem balanced_textOf_fragment {relation : Relation} (plain : relation.Plain)
    {template : String} (balanced : Balanced template.toList) (names : List String) :
    Balanced (textOf names (Template.pieces (some relation) template)) := by
  have sound := Nesting.sound_level 0
  have named (name : String)
      (member : .slot name ∈ scan .outside (Template.aim (some relation) template.toList)) :
      MadeOf isNameChar name.toList := by
    refine nameChar_of_slot ?_ member
    intro start same
    cases same
  unfold Balanced Template.pieces
  rw [Nesting.run_textOf names named sound, Template.named_scan]
  exact (Nesting.run_aim plain sound _).trans balanced

/-! ## Text in parentheses -/

namespace Nesting

def raise : Nesting → Nesting
  | .level depth => .level (depth + 1)
  | .quoted mark depth => .quoted mark (depth + 1)
  | .broken => .broken

theorem run_broken (text : List Char) : broken.run text = .broken := by
  induction text with
  | nil => rfl
  | cons c rest ih => exact ih

theorem raise_inside {state : Nesting} (kept : state ≠ .broken) : state.raise.Inside := by
  cases state with
  | level depth => exact Nat.succ_pos depth
  | quoted mark depth => exact Nat.succ_pos depth
  | broken => exact absurd rfl kept

theorem step_raise {state : Nesting} {c : Char} (kept : state.step c ≠ .broken) :
    state.raise.step c = (state.step c).raise := by
  cases state with
  | level depth =>
      unfold raise step at *
      dsimp only at *
      split
      · rfl
      split
      · rfl
      split
      · cases depth with
        | zero => simp_all [close]
        | succ depth => rfl
      · rfl
  | quoted mark depth =>
      unfold raise step
      dsimp only
      split <;> rfl
  | broken => rfl

/-- Text that breaks nothing has the same effect behind one more parenthesis. -/
theorem run_raise {state : Nesting} {text : List Char} (kept : state.run text ≠ .broken) :
    state.raise.run text = (state.run text).raise := by
  induction text generalizing state with
  | nil => rfl
  | cons c rest ih =>
      change (state.step c).run rest ≠ .broken at kept
      have here : state.step c ≠ .broken := by
        intro broke
        rw [broke, run_broken] at kept
        exact kept rfl
      change (state.raise.step c).run rest = ((state.step c).run rest).raise
      rw [step_raise here, ih kept]

end Nesting

/-- Balanced text in parentheses is enclosed by these. -/
theorem enclosed_of_balanced {text : List Char} (balanced : Balanced text) :
    Enclosed ('(' :: text ++ [')']) := by
  have unbroken {front behind : List Char} (split : text = front ++ behind) :
      (Nesting.level 0).run front ≠ .broken := by
    intro broke
    unfold Balanced at balanced
    rw [split, Nesting.run_append, broke, Nesting.run_broken] at balanced
    cases balanced
  have lifted {front behind : List Char} (split : text = front ++ behind) :
      (Nesting.level 1).run front = ((Nesting.level 0).run front).raise :=
    Nesting.run_raise (unbroken split)
  refine ⟨rfl, List.getLast?_concat .., ?_, ?_⟩
  · intro front behind split nonempty more
    obtain ⟨early, last, rfl⟩ : ∃ early last, behind = early ++ [last] :=
      ⟨behind.dropLast, behind.getLast more, (List.dropLast_append_getLast more).symm⟩
    cases front with
    | nil => exact absurd rfl nonempty
    | cons first front =>
        rw [← List.append_assoc] at split
        obtain ⟨whole, -⟩ := List.append_inj' split rfl
        obtain ⟨rfl, inner⟩ := List.cons.inj whole
        change ((Nesting.level 1).run front).Inside
        rw [lifted inner]
        exact Nesting.raise_inside (unbroken inner)
  · change (Nesting.level 1).run (text ++ [')']) = .level 0
    rw [Nesting.run_append, lifted (List.append_nil text).symm, balanced]
    rfl

/-! ## What is met outside -/

@[simp] theorem surface_append (state : Nesting) (front back : List Char) :
    surface state (front ++ back) = surface state front ++ surface (state.run front) back := by
  induction front generalizing state with
  | nil => cases state <;> rfl
  | cons c rest ih =>
      cases state with
      | level depth =>
          cases depth with
          | zero => exact congrArg (c :: ·) (ih _)
          | succ depth => exact ih _
      | quoted mark depth => exact ih _
      | broken => exact ih .broken

theorem surface_inert {text : List Char} (inert : MadeOf isInert text) :
    surface (.level 0) text = text := by
  induction text with
  | nil => rfl
  | cons c rest ih =>
      change c :: surface ((Nesting.level 0).step c) rest = _
      rw [Nesting.step_inert (Nesting.sound_level 0) (inert c List.mem_cons_self),
        ih fun d member => inert d (List.mem_cons_of_mem c member)]

/-- Nothing is met where every place but the last is in parentheses. -/
theorem surface_eq_nil {state : Nesting} {text : List Char}
    (inside : ∀ front behind, text = front ++ behind → behind ≠ [] → (state.run front).Inside) :
    surface state text = [] := by
  induction text generalizing state with
  | nil => cases state <;> rfl
  | cons c rest ih =>
      have here : state.Inside := inside [] (c :: rest) rfl (List.cons_ne_nil c rest)
      have later : surface (state.step c) rest = [] := ih fun front behind split more =>
        inside (c :: front) behind (congrArg (c :: ·) split) more
      cases state with
      | level depth =>
          cases depth with
          | zero => exact absurd here (Nat.lt_irrefl 0)
          | succ depth => exact later
      | quoted mark depth => exact later
      | broken => exact here.elim

/-- Of enclosed text only the parenthesis that opens it is met. -/
theorem surface_enclosed {text : List Char} (enclosed : Enclosed text) :
    surface (.level 0) text = ['('] := by
  cases text with
  | nil => cases enclosed.opens
  | cons first rest =>
      have opened : first = '(' := Option.some.inj enclosed.opens
      subst opened
      have none : surface (.level 1) rest = [] := surface_eq_nil fun front behind split more =>
        enclosed.inside ('(' :: front) behind (congrArg ('(' :: ·) split)
          (List.cons_ne_nil _ _) more
      exact congrArg ('(' :: ·) none

end RelationQuery.Sql
