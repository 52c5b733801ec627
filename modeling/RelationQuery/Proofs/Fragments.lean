import RelationQuery.Proofs.Identifiers
import RelationQuery.Proofs.Placeholders
import RelationQuery.Proofs.Replacement

/-!
# Fragments of a target

What becomes of a fragment when its tokens give way to the scheme and the table of its target and
its placeholders become slots. Plain identifiers hold neither quotes nor dollar signs, so a target
named by them changes neither the quoting of a fragment nor what may follow its dollar signs.
-/

namespace RelationQuery.Sql

open Template (isQuote isNameStart isNameChar)

/-! ## Footing of fragments -/

def chars (text : List Char) : List Piece := text.map .char

@[simp] theorem chars_append (front back : List Char) :
    chars (front ++ back) = chars front ++ chars back :=
  List.map_append

theorem literal_eq (text : String) : literal text = chars text.toList := rfl

namespace Footing

/-- Only quotation marks open a quoted region. -/
def Sound (footing : Footing) : Prop := ∀ mark, footing = .quoted mark → isQuote mark = true

theorem after_sound (c : Char) : (after c).Sound := by
  unfold after
  intro mark same
  split at same
  · cases same
    assumption
  · split at same <;> cases same

theorem step_sound (footing : Footing) (c : Char) (sound : footing.Sound) :
    (footing.step (.char c)).Sound := by
  cases footing with
  | firm => exact after_sound c
  | loose =>
      change Sound (if c.isDigit then .lost else after c)
      split
      · exact fun mark same => nomatch same
      · exact after_sound c
  | quoted mark =>
      change Sound (if c == mark then .firm else .quoted mark)
      split
      · exact fun mark same => nomatch same
      · exact sound
  | lost => exact sound

theorem sound_of_outside {footing : Footing} (outside : footing.Outside) : footing.Sound := by
  rcases outside with rfl | rfl <;> exact fun mark same => nomatch same

theorem after_calm {c : Char} (calm : isCalm c = true) : after c = .firm := by
  obtain ⟨unquoted, plain⟩ := (Bool.and_eq_true _ _).mp calm
  unfold after
  rw [if_neg (by simpa using unquoted), if_neg (by simpa using plain)]

theorem after_nameChar {c : Char} (named : isNameChar c = true) : after c = .firm :=
  after_calm (calm_of_nameChar named)

theorem firm_run {text : List Char} (calm : MadeOf isCalm text) :
    firm.run (chars text) = .firm := by
  induction text with
  | nil => rfl
  | cons c rest ih =>
      change (after c).run (chars rest) = .firm
      rw [after_calm (calm c List.mem_cons_self)]
      exact ih fun d member => calm d (List.mem_cons_of_mem c member)

theorem firm_run_names {text : List Char} (named : MadeOf isNameChar text) :
    firm.run (chars text) = .firm :=
  firm_run fun c member => calm_of_nameChar (named c member)

/-- A name stands firm behind a dollar sign too, as it begins with no digit. -/
theorem run_name {footing : Footing} (outside : footing.Outside) {first : Char}
    {letters : List Char} (start : isNameStart first = true)
    (named : MadeOf isNameChar letters) :
    footing.run (chars (first :: letters)) = .firm := by
  have next : footing.step (.char first) = .firm := by
    have firmly := after_nameChar (nameChar_of_nameStart start)
    rcases outside with rfl | rfl
    · exact firmly
    · change (if first.isDigit then lost else after first) = .firm
      rw [not_digit_of_nameStart start]
      exact firmly
  change (footing.step (.char first)).run (chars letters) = .firm
  rw [next]
  exact firm_run_names named

theorem quoted_run {mark : Char} {text : List Char} (absent : mark ∉ text) :
    (quoted mark).run (chars text) = .quoted mark := by
  induction text with
  | nil => rfl
  | cons c rest ih =>
      have other : (c == mark) = false := by
        simpa using fun same : c = mark => absent (same ▸ List.mem_cons_self)
      change (if c == mark then firm else quoted mark).run (chars rest) = _
      rw [other]
      exact ih fun member => absent (List.mem_cons_of_mem c member)

/-- An identifier has the effect of the token that it takes the place of. -/
theorem run_identifier {footing : Footing} (sound : footing.Sound) {name : String}
    (plain : isIdentifier name = true) {first : Char} {letters : List Char}
    (start : isNameStart first = true) (named : MadeOf isNameChar letters) :
    footing.run (chars name.toList) = footing.run (chars ('$' :: first :: letters)) := by
  obtain ⟨head, rest, spelled, headStart, restNamed⟩ := exists_of_isIdentifier plain
  have token {footing : Footing} (outside : footing.Outside) :
      footing.run (chars ('$' :: first :: letters)) = .firm := by
    have behind : footing.step (.char '$') = .loose := by rcases outside with rfl | rfl <;> rfl
    change (footing.step (.char '$')).run (chars (first :: letters)) = .firm
    rw [behind]
    exact run_name (.inr rfl) start named
  cases footing with
  | firm =>
      rw [spelled, run_name (.inl rfl) headStart restNamed]
      exact (token (.inl rfl)).symm
  | loose =>
      rw [spelled, run_name (.inr rfl) headStart restNamed]
      exact (token (.inr rfl)).symm
  | quoted mark =>
      have quote : isQuote mark = true := sound mark rfl
      have apart {c : Char} (named : isNameChar c = true) : mark ≠ c := by
        rintro rfl
        exact absurd (quote.symm.trans (not_quote_of_nameChar named)) (fun same => nomatch same)
      have inName : mark ∉ name.toList := fun member => apart (nameChar_of_mem plain member) rfl
      have inToken : mark ∉ '$' :: first :: letters := by
        intro member
        rcases List.mem_cons.mp member with rfl | member
        · exact absurd quote (by decide)
        rcases List.mem_cons.mp member with rfl | member
        · exact apart (nameChar_of_nameStart start) rfl
        · exact apart (named mark member) rfl
      rw [quoted_run inName, quoted_run inToken]
  | lost => rw [run_lost, run_lost]

theorem run_chars (footing : Footing) (text : List Char) :
    footing.run (chars text) = text.foldl (fun footing c => footing.step (.char c)) footing :=
  List.foldl_map

theorem run_replace {footing : Footing} (sound : footing.Sound) {name : String}
    (plain : isIdentifier name = true) {first : Char} {letters : List Char}
    (start : isNameStart first = true) (named : MadeOf isNameChar letters)
    (text : List Char) :
    footing.run (chars (Text.replace ('$' :: first :: letters) name.toList text)) =
      footing.run (chars text) := by
  rw [run_chars, run_chars]
  apply Text.foldl_replace (fun footing c => step_sound footing c) _ (List.cons_ne_nil _ _) _ sound
  intro footing sound
  rw [← run_chars, ← run_chars]
  exact run_identifier sound plain start named

/-- A plain target leaves the footing of a fragment as it is. -/
theorem run_aim {footing : Footing} (sound : footing.Sound) {relation : Relation}
    (plain : relation.Plain) (text : List Char) :
    footing.run (chars (Template.aim (some relation) text)) = footing.run (chars text) := by
  change footing.run (chars (Text.replace "$table".toList relation.table.toList
    (Text.replace "$scheme".toList relation.scheme.toList text))) = _
  rw [show "$table".toList = '$' :: 't' :: ['a', 'b', 'l', 'e'] from rfl,
    show "$scheme".toList = '$' :: 's' :: ['c', 'h', 'e', 'm', 'e'] from rfl,
    run_replace sound plain.2 rfl (by decide), run_replace sound plain.1 rfl (by decide)]

end Footing

/-! ## Footing of scans -/

open Template (Scan scan written)

/-- A scan of a fragment stands where the footing says, and a name being read holds nothing but its
own characters. -/
inductive ScanOn : Scan → Footing → Prop where
  | outside {footing : Footing} (outside : footing.Outside) : ScanOn .outside footing
  | quoted (mark : Char) : ScanOn (.quoted mark) (.quoted mark)
  | colon {footing : Footing} (outside : footing.Outside) : ScanOn .colon footing
  | name {footing : Footing} (outside : footing.Outside) {start : List Char}
      (named : MadeOf isNameChar start) : ScanOn (.name start) footing

namespace Footing

theorem not_outside_run_lost (pieces : List Piece) : ¬ (lost.run pieces).Outside := by
  rw [run_lost]
  exact fun outside => outside.ne_lost rfl

theorem step_colon {footing : Footing} (outside : footing.Outside) :
    footing.step (.char ':') = .firm := by
  rcases outside with rfl | rfl <;> rfl

/-- Behind a name the digits are over, so a slot in its place changes nothing. -/
theorem run_of_not_digit {c : Char} (ends : c.isDigit = false) (rest : List Char) :
    loose.run (chars (c :: rest)) = firm.run (chars (c :: rest)) := by
  change (if c.isDigit then lost else after c).run (chars rest) = (after c).run (chars rest)
  rw [ends]
  rfl

/-- What a scan writes at once of a character, and what it then holds, is that character. -/
theorem scanOn_after {footing : Footing} (outside : footing.Outside) {c : Char} {rest : List Char}
    (settled : (footing.run (chars (c :: rest))).Outside) :
    ScanOn (Scan.after c) (footing.run (written c)) ∧
      ((footing.run (written c)).run (chars ((Scan.after c).held ++ rest))).Outside := by
  by_cases colon : c = ':'
  · subst colon
    exact ⟨.colon outside, settled⟩
  · have once : written c = [.char c] := by simp [written, colon]
    have kept : footing.step (.char c) ≠ .lost := by
      intro lost
      change ((footing.step (.char c)).run (chars rest)).Outside at settled
      rw [lost] at settled
      exact not_outside_run_lost _ settled
    have next := (step_char outside kept).1
    rw [once]
    change ScanOn _ (footing.step (.char c)) ∧ ((footing.step (.char c)).run _).Outside
    change ((footing.step (.char c)).run (chars rest)).Outside at settled
    rw [next] at settled ⊢
    unfold Scan.after
    by_cases quote : isQuote c = true
    · rw [if_pos quote]
      have opened : after c = .quoted c := if_pos quote
      rw [opened] at settled ⊢
      exact ⟨.quoted c, settled⟩
    · rw [if_neg quote, if_neg (by simpa using colon)]
      refine ⟨.outside ?_, settled⟩
      unfold after
      rw [if_neg quote]
      split
      · exact .inr rfl
      · exact .inl rfl

/-- A fragment whose text ends outside quotes and keeps its footing does so with slots for its
placeholders. -/
theorem run_scan {state : Scan} {footing : Footing} (on : ScanOn state footing) {text : List Char}
    (settled : (footing.run (chars (state.held ++ text))).Outside) :
    (footing.run (scan state text)).Outside := by
  fun_induction scan state text generalizing footing with
  | case1 => exact settled
  | case2 mark => exact settled
  | case3 => exact settled
  | case4 start =>
      cases on with
      | name outside named => exact .inr (step_slot outside _)
  | case5 c rest ih =>
      cases on with
      | outside outside =>
          obtain ⟨next, later⟩ := scanOn_after outside settled
          rw [run_append]
          exact ih next later
  | case6 mark c rest ih =>
      cases on with
      | quoted =>
          change ((if c == mark then firm else quoted mark).run (chars rest)).Outside at settled
          change ((if c == mark then firm else quoted mark).run (scan _ rest)).Outside
          split at settled
          · rename_i closes
            rw [if_pos closes] at ih ⊢
            rw [if_pos closes]
            exact ih (.outside (.inl rfl)) settled
          · rename_i inside
            rw [if_neg inside] at ih ⊢
            rw [if_neg inside]
            exact ih (.quoted mark) settled
  | case7 c rest double ih =>
      cases on with
      | colon outside =>
          have same : c = ':' := by simpa using double
          subst same
          change (((footing.step (.char ':')).step (.char ':')).run _).Outside at settled ⊢
          rw [step_colon outside] at settled ⊢
          exact ih (.outside (.inl rfl)) settled
  | case8 c rest single start ih =>
      cases on with
      | colon outside =>
          exact ih (.name outside (madeOf_single (nameChar_of_nameStart start))) settled
  | case9 c rest single other ih =>
      cases on with
      | colon outside =>
          change ((footing.step (.char ':')).run (chars (c :: rest))).Outside at settled
          change ((footing.step (.char ':')).run (written c ++ scan (Scan.after c) rest)).Outside
          rw [step_colon outside] at settled ⊢
          obtain ⟨next, later⟩ := scanOn_after (.inl rfl) settled
          rw [run_append]
          exact ih next later
  | case10 start c rest more ih =>
      cases on with
      | name outside named =>
          have longer : MadeOf isNameChar (start ++ [c]) := madeOf_append named (madeOf_single more)
          exact ih (.name outside longer) (by simpa [Scan.held] using settled)
  | case11 start c rest last ih =>
      cases on with
      | name outside named =>
          have behind : (loose.run (chars (c :: rest))).Outside := by
            rw [run_of_not_digit (not_digit_of_not_nameChar last)]
            change ((footing.step (.char ':')).run (chars (start ++ c :: rest))).Outside at settled
            rw [step_colon outside, chars_append, run_append, firm_run_names named] at settled
            exact settled
          obtain ⟨next, later⟩ := scanOn_after (.inr rfl) behind
          change ((footing.step (Template.slot start)).run (written c ++ _)).Outside
          rw [Template.slot, step_slot outside, run_append]
          exact ih next later

end Footing

/-! ## Fragments of the caller -/

/-- The mark of the quoted region in which a text ends, if it ends in one. -/
def openQuote : Option Char → List Char → Option Char
  | quote, [] => quote
  | none, c :: rest => openQuote (if isQuote c then some c else none) rest
  | some mark, c :: rest => openQuote (if c == mark then none else some mark) rest

/-- A text that closes its quotes and writes no digit behind a dollar sign. -/
structure Tame (text : String) : Prop where
  closed : openQuote none text.toList = none
  unnumbered : ∀ c : Char, c.isDigit = true → ¬ ['$', c] <:+: text.toList

theorem tame_of_not_mem {text : String} (closed : openQuote none text.toList = none)
    (absent : '$' ∉ text.toList) : Tame text := by
  refine ⟨closed, ?_⟩
  rintro c _ ⟨front, back, whole⟩
  apply absent
  rw [← whole]
  simp

namespace Footing

def Ends (footing : Footing) : Option Char → Prop
  | none => footing.Outside
  | some mark => footing = .quoted mark

/-- A character met outside quotes opens a quote, or does not. -/
theorem ends_after (c : Char) : (after c).Ends (if isQuote c then some c else none) := by
  unfold after
  split
  · rfl
  · split
    · exact .inr rfl
    · exact .inl rfl

/-- A character met inside quotes closes them, or does not. -/
theorem ends_closing (mark c : Char) :
    ((quoted mark).step (.char c)).Ends (if c == mark then none else some mark) := by
  change (if c == mark then firm else quoted mark).Ends _
  split
  · exact .inl rfl
  · rfl

theorem eq_dollar_of_after {c : Char} (loose : after c = .loose) : c = '$' := by
  by_contra other
  simp only [after, beq_iff_eq, other, if_false] at loose
  split at loose <;> cases loose

/-- Outside quotes a character that makes no number longer leads where it does on firm ground. -/
theorem step_of_outside {footing : Footing} (outside : footing.Outside) {c : Char}
    (undigited : footing = .loose → c.isDigit = false) :
    footing.step (.char c) = after c := by
  rcases outside with rfl | rfl
  · rfl
  · exact if_neg (by simp [undigited rfl])

theorem run_ends {text : List Char}
    (unnumbered : ∀ c : Char, c.isDigit = true → ¬ ['$', c] <:+: text)
    {footing : Footing} {quote : Option Char} (here : footing.Ends quote)
    (front : footing = .loose → ∀ c rest, text = c :: rest → c.isDigit = false) :
    (footing.run (chars text)).Ends (openQuote quote text) := by
  induction text generalizing footing quote with
  | nil => cases quote <;> exact here
  | cons c rest ih =>
      have later (d : Char) (digit : d.isDigit = true) : ¬ ['$', d] <:+: rest := fun inside =>
        unnumbered d digit (inside.trans (List.suffix_cons c rest).isInfix)
      have behind (dollar : c = '$') (d : Char) (more : List Char) (split : rest = d :: more) :
          d.isDigit = false := by
        by_contra digit
        subst dollar split
        exact unnumbered d (eq_true_of_ne_false digit) ⟨[], more, rfl⟩
      change ((footing.step (.char c)).run (chars rest)).Ends _
      cases quote with
      | some mark =>
          cases here
          refine ih later (ends_closing mark c) fun loose => ?_
          change (if c == mark then firm else quoted mark) = Footing.loose at loose
          split at loose <;> cases loose
      | none =>
          rw [step_of_outside here fun loose => front loose c rest rfl]
          exact ih later (ends_after c) fun loose => behind (eq_dollar_of_after loose)

end Footing

/-! ## Pieces that keep their footing -/

/-- Pieces that keep their footing on firm ground. -/
def Settled (pieces : List Piece) : Prop := (Footing.firm.run pieces).Outside

def Steady (pieces : List Piece) : Prop :=
  ∀ footing : Footing, footing.Outside → (footing.run pieces).Outside

def Bridging (pieces : List Piece) : Prop :=
  ∀ footing : Footing, footing.Outside → footing.run pieces = .firm

theorem Steady.settled {pieces : List Piece} (steady : Steady pieces) : Settled pieces :=
  steady .firm (.inl rfl)

theorem Settled.ne_lost {pieces : List Piece} (settled : Settled pieces) :
    Footing.firm.run pieces ≠ .lost :=
  Footing.Outside.ne_lost settled

theorem Bridging.steady {pieces : List Piece} (bridging : Bridging pieces) : Steady pieces :=
  fun footing outside => .inl (bridging footing outside)

theorem steady_nil : Steady [] := fun _ outside => outside

theorem steady_slot (name : String) : Steady [.slot name] := fun _ outside =>
  .inr (Footing.step_slot outside name)

theorem Steady.append {front back : List Piece} (first : Steady front) (second : Steady back) :
    Steady (front ++ back) := by
  intro footing outside
  rw [Footing.run_append]
  exact second _ (first footing outside)

theorem Steady.flatMap {α : Type} {parts : List α} {write : α → List Piece}
    (each : ∀ part ∈ parts, Steady (write part)) : Steady (parts.flatMap write) := by
  induction parts with
  | nil => exact steady_nil
  | cons part rest ih =>
      exact (each part List.mem_cons_self).append
        (ih fun other member => each other (List.mem_cons_of_mem part member))

theorem Settled.append {front back : List Piece} (first : Settled front) (second : Steady back) :
    Settled (front ++ back) := by
  unfold Settled
  rw [Footing.run_append]
  exact second _ first

theorem Bridging.append {front back : List Piece} (first : Bridging front)
    (second : Settled back) : Steady (front ++ back) := by
  intro footing outside
  rw [Footing.run_append, first footing outside]
  exact second

/-- Calm text with something other than a digit in front. -/
def isFirm (text : String) : Bool :=
  match text.toList with
  | [] => false
  | first :: rest => !first.isDigit && (first :: rest).all isCalm

theorem bridging_literal {text : String} (firm : isFirm text = true) :
    Bridging (literal text) := by
  unfold isFirm at firm
  split at firm
  · contradiction
  rename_i first rest spelled
  obtain ⟨notDigit, calm⟩ := (Bool.and_eq_true _ _).mp firm
  have calm := List.all_eq_true.mp calm
  intro footing outside
  have next : footing.step (.char first) = .firm := by
    have firmly := Footing.after_calm (calm first List.mem_cons_self)
    rcases outside with rfl | rfl
    · exact firmly
    · change (if first.isDigit then Footing.lost else Footing.after first) = .firm
      rw [(Bool.not_eq_true' _).mp notDigit]
      exact firmly
  rw [literal_eq, spelled]
  change (footing.step (.char first)).run (chars rest) = .firm
  rw [next]
  exact Footing.firm_run fun c member => calm c (List.mem_cons_of_mem first member)

theorem MadeOf.settled {text : String} (calm : Calm text) : Settled (literal text) :=
  .inl (Footing.firm_run calm)

/-- A tame fragment of a plain target keeps its footing. -/
theorem settled_fragment {relation : Relation} (plain : relation.Plain) {template : String}
    (tame : Tame template) : Settled (Template.pieces (some relation) template) := by
  have outside : Footing.firm.Ends none := .inl rfl
  have original := Footing.run_ends tame.unnumbered outside fun same => nomatch same
  rw [tame.closed] at original
  apply Footing.run_scan (.outside (.inl rfl))
  change (Footing.firm.run (chars (Template.aim (some relation) template.toList))).Outside
  rw [Footing.run_aim (Footing.sound_of_outside (.inl rfl)) plain]
  exact original

end RelationQuery.Sql
