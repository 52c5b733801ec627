import RelationQuery.Proofs.CaseTables
import RelationQuery.Proofs.Trimming

/-!
# Upper and lower case of texts

Either mapping writes one or several characters for each one, which are blank exactly if it is, and
leaves alone what it has written. Lower case after upper case leaves alone what both have written
but for the sharp s: upper case takes a small letter back to its capital, or to a twin of it, which
is as good to the sigmas around. A sharp s becomes two letters instead.
-/

namespace RelationQuery.Text

/-! ## Character by character -/

/-- A text written anew, each character as one or several that are blank exactly if it is. -/
inductive Recased : List Char → List Char → Prop where
  | nil : Recased [] []
  | cons {c : Char} {image rest others : List Char} (filled : image ≠ [])
      (alike : ∀ d ∈ image, isBlank d = isBlank c) (later : Recased rest others) :
      Recased (c :: rest) (image ++ others)

namespace Recased

variable {text image : List Char}

theorem refl (text : List Char) : Recased text text := by
  induction text with
  | nil => exact .nil
  | cons c rest ih =>
      exact .cons (List.cons_ne_nil c []) (fun _ member => List.mem_singleton.mp member ▸ rfl) ih

theorem length_le (recased : Recased text image) : text.length ≤ image.length := by
  induction recased with
  | nil => exact Nat.le_refl 0
  | cons filled _ _ ih =>
      have one := List.length_pos_iff.mpr filled
      rw [List.length_cons, List.length_append]
      omega

theorem eq_nil_iff (recased : Recased text image) : image = [] ↔ text = [] := by
  cases recased with
  | nil => exact Iff.rfl
  | cons filled _ _ => simp [filled]

/-- What the last character is written as stands last. -/
theorem exists_last {front : List Char} {last : Char} (recased : Recased (front ++ [last]) image) :
    ∃ before part, image = before ++ part ∧ part ≠ [] ∧ ∀ d ∈ part, isBlank d = isBlank last := by
  induction front generalizing image with
  | nil =>
      cases recased with
      | cons filled alike later =>
          cases later
          exact ⟨[], _, List.append_nil _, filled, alike⟩
  | cons c rest ih =>
      cases recased with
      | cons _ _ later =>
          obtain ⟨before, part, rfl, filled, alike⟩ := ih later
          exact ⟨_ ++ before, part, (List.append_assoc _ _ _).symm, filled, alike⟩

/-- A text without blanks at its ends is written as one. -/
theorem trimmed (recased : Recased text image) (trimmed : trim text = text) :
    trim image = image := by
  rcases List.eq_nil_or_concat' text with rfl | ⟨front, last, whole⟩
  · rw [recased.eq_nil_iff.mpr rfl]
    rfl
  obtain ⟨before, part, closes, filled, alike⟩ := (whole ▸ recased).exists_last
  obtain ⟨opening, final, rfl⟩ := (List.eq_nil_or_concat' part).resolve_left filled
  have dark : isBlank last = false := not_blank_last_of_trimmed (whole ▸ trimmed)
  cases recased with
  | nil => simp at whole
  | cons filledFirst alikeFirst later =>
      obtain ⟨first, rest, rfl⟩ := List.exists_cons_of_ne_nil filledFirst
      refine trim_of_ends rfl (closes.trans (List.append_assoc _ _ _).symm) ?_ ?_
      · rw [alikeFirst first List.mem_cons_self]
        exact not_blank_head_of_trimmed trimmed
      · rw [alike final (by simp)]
        exact dark

end Recased

theorem recased_upper (text : List Char) : Recased text (upper text) := by
  induction text with
  | nil => exact .nil
  | cons c rest ih =>
      exact .cons (tidy_upper.mapCase_ne_nil c) (fun _ => tidy_upper.isBlank_of_mem_mapCase) ih

/-- What a sigma or any other character is written as in lower case. -/
theorem mem_part {before rest : List Char} {c d : Char}
    (member : d ∈ if c == 'Σ' then [if meetsCased before && !meetsCased rest then 'ς' else 'σ']
      else lowerChar c) : c = 'Σ' ∧ (d = 'ς' ∨ d = 'σ') ∨ c ≠ 'Σ' ∧ d ∈ lowerChar c := by
  split at member
  · rename_i sigma
    refine .inl ⟨beq_iff_eq.mp sigma, ?_⟩
    split at member
    · exact .inl (List.mem_singleton.mp member)
    · exact .inr (List.mem_singleton.mp member)
  · rename_i other
    exact .inr ⟨by simpa using other, member⟩

theorem recased_lowerFrom (before text : List Char) : Recased text (lowerFrom before text) := by
  induction text generalizing before with
  | nil => exact .nil
  | cons c rest ih =>
      refine .cons ?_ (fun d member => ?_) (ih (c :: before))
      · split
        · exact List.cons_ne_nil _ _
        · exact tidy_lower.mapCase_ne_nil c
      · rcases mem_part member with ⟨rfl, rfl | rfl⟩ | ⟨-, inside⟩
        · decide
        · decide
        · exact tidy_lower.isBlank_of_mem_mapCase inside

/-! ## Once is as good as twice -/

theorem upperChar_of_mem_upper {text : List Char} {d : Char} (member : d ∈ upper text) :
    upperChar d = [d] := by
  obtain ⟨c, -, inside⟩ := List.mem_flatMap.mp member
  exact tidy_upper.mapCase_of_mem_mapCase inside

theorem upper_of_capitals {text : List Char} (capitals : ∀ c ∈ text, upperChar c = [c]) :
    upper text = text := by
  unfold upper
  rw [List.flatMap_congr capitals]
  exact List.flatMap_singleton' text

theorem upper_upper (text : List Char) : upper (upper text) = upper text :=
  upper_of_capitals fun _ => upperChar_of_mem_upper

theorem mem_lowerFrom_cases {before text : List Char} {d : Char}
    (member : d ∈ lowerFrom before text) :
    (d = 'ς' ∨ d = 'σ') ∨ ∃ c ∈ text, d ∈ lowerChar c := by
  induction text generalizing before with
  | nil => cases member
  | cons c rest ih =>
      rcases List.mem_append.mp member with here | later
      · rcases mem_part here with ⟨-, sigma⟩ | ⟨-, inside⟩
        · exact .inl sigma
        · exact .inr ⟨c, List.mem_cons_self, inside⟩
      · refine (ih later).imp_right fun ⟨other, within, inside⟩ => ?_
        exact ⟨other, List.mem_cons_of_mem _ within, inside⟩

/-- No capital sigma is left, and nothing else to be changed. -/
theorem small_of_mem_lowerFrom {before text : List Char} {d : Char}
    (member : d ∈ lowerFrom before text) : lowerChar d = [d] ∧ d ≠ 'Σ' := by
  obtain ⟨-, -, -, -, -, sigma, middle, final, -⟩ := special_letters
  rcases mem_lowerFrom_cases member with (rfl | rfl) | ⟨c, -, inside⟩
  · exact ⟨final, by decide⟩
  · exact ⟨middle, by decide⟩
  · have settled : lowerChar d = [d] := tidy_lower.mapCase_of_mem_mapCase inside
    refine ⟨settled, ?_⟩
    rintro rfl
    rw [sigma] at settled
    cases settled

theorem lowerFrom_of_small {text : List Char} (small : ∀ d ∈ text, lowerChar d = [d] ∧ d ≠ 'Σ')
    (before : List Char) : lowerFrom before text = text := by
  induction text generalizing before with
  | nil => rfl
  | cons d rest ih =>
      obtain ⟨⟨settled, other⟩, later⟩ := List.forall_mem_cons.mp small
      rw [lowerFrom, if_neg (by simpa using other), settled, ih later, List.singleton_append]

theorem lower_lower (text : List Char) : lower (lower text) = lower text :=
  lowerFrom_of_small (fun _ => small_of_mem_lowerFrom) []

/-! ## Capitals brought back -/

theorem meetsCased_cons (c : Char) (rest : List Char) :
    meetsCased (c :: rest) = if isCaseIgnorable c then meetsCased rest else isCased c := by
  rw [meetsCased, meetsCased]
  -- Which characters these are does not matter here, and their tables are long.
  generalize isCaseIgnorable = ignores
  generalize isCased = hasCase
  by_cases ignored : ignores c = true
  · rw [List.dropWhile_cons_of_pos ignored, if_pos ignored]
  · rw [List.dropWhile_cons_of_neg ignored, if_neg ignored]

theorem meetsCased_marks {marks : List Char} (ignored : ∀ mark ∈ marks, isCaseIgnorable mark = true)
    (rest : List Char) : meetsCased (marks ++ rest) = meetsCased rest := by
  induction marks with
  | nil => rfl
  | cons mark others ih =>
      obtain ⟨first, later⟩ := List.forall_mem_cons.mp ignored
      rw [List.cons_append, meetsCased_cons, if_pos first, ih later]

theorem meetsCased_capital {c : Char} (capital : isCased c = true ∧ isCaseIgnorable c = false)
    (rest : List Char) : meetsCased (c :: rest) = true := by
  rw [meetsCased_cons, capital.2, if_neg Bool.false_ne_true, capital.1]

/-- What may stand for a character: itself, or a capital with the same small letters, with marks. -/
inductive StandsFor (c : Char) : List Char → Prop where
  | itself : StandsFor c [c]
  | twin {other : Char} {marks : List Char}
      (lowered : (other :: marks).flatMap lowerChar = lowerChar c)
      (plain : c ≠ 'Σ') (others : 'Σ' ∉ other :: marks)
      (capital : isCased c = true ∧ isCaseIgnorable c = false)
      (alike : isCased other = true ∧ isCaseIgnorable other = false)
      (ignored : ∀ mark ∈ marks, isCaseIgnorable mark = true) : StandsFor c (other :: marks)

namespace StandsFor

variable {c : Char} {part before ahead others : List Char}

/-- Looking ahead, a sigma sees the one where it saw the other. -/
theorem meetsCased_ahead (stands : StandsFor c part) (same : meetsCased others = meetsCased ahead) :
    meetsCased (part ++ others) = meetsCased (c :: ahead) := by
  cases stands with
  | itself => rw [List.singleton_append, meetsCased_cons, meetsCased_cons, same]
  | twin _ _ _ capital alike _ =>
      rw [List.cons_append, meetsCased_capital alike, meetsCased_capital capital]

/-- So it does looking back. -/
theorem meetsCased_behind (stands : StandsFor c part)
    (same : meetsCased others = meetsCased before) :
    meetsCased (part.reverse ++ others) = meetsCased (c :: before) := by
  cases stands with
  | itself =>
      rw [List.reverse_singleton, List.singleton_append, meetsCased_cons, meetsCased_cons, same]
  | twin _ _ _ capital alike ignored =>
      rw [List.reverse_cons, List.append_assoc, List.singleton_append,
        meetsCased_marks fun mark member => ignored mark (List.mem_reverse.mp member),
        meetsCased_capital alike, meetsCased_capital capital]

end StandsFor

/-- Away from sigmas the neighbours do not matter. -/
theorem lowerFrom_plain {part : List Char} (plain : 'Σ' ∉ part) (before rest : List Char) :
    lowerFrom before (part ++ rest) =
      part.flatMap lowerChar ++ lowerFrom (part.reverse ++ before) rest := by
  induction part generalizing before with
  | nil => rfl
  | cons c others ih =>
      rw [List.mem_cons, not_or] at plain
      rw [List.cons_append, lowerFrom, if_neg (by simpa using Ne.symm plain.1), ih plain.2,
        List.flatMap_cons, List.append_assoc, List.reverse_cons, List.append_assoc]
      rfl

section Standing

variable {stand : Char → List Char} {text : List Char}
  (stands : ∀ c ∈ text, StandsFor c (stand c))

include stands

theorem meetsCased_flatMap : meetsCased (text.flatMap stand) = meetsCased text := by
  induction text with
  | nil => rfl
  | cons c rest ih =>
      obtain ⟨here, later⟩ := List.forall_mem_cons.mp stands
      exact here.meetsCased_ahead (ih later)

/-- A text in which each character is stood for has the same lower case. -/
theorem lowerFrom_flatMap {before others : List Char}
    (same : meetsCased others = meetsCased before) :
    lowerFrom others (text.flatMap stand) = lowerFrom before text := by
  induction text generalizing before others with
  | nil => rfl
  | cons c rest ih =>
      obtain ⟨here, later⟩ := List.forall_mem_cons.mp stands
      have tail := ih later (here.meetsCased_behind same)
      rw [List.flatMap_cons]
      cases part : stand c with
      | nil => rw [part] at here; cases here
      | cons other marks =>
        rw [part] at here tail
        cases here with
        | itself =>
            rw [List.singleton_append, lowerFrom, lowerFrom, same, meetsCased_flatMap later]
            exact congrArg _ tail
        | twin lowered plain others =>
            rw [lowerFrom_plain others, lowered, tail, lowerFrom, if_neg (by simpa using plain)]

end Standing

/-! ## Upper case of lower case -/

def restored (c : Char) : List Char := (lowerChar c).flatMap upperChar

theorem upper_sigma (final : Bool) :
    upper [if final then 'ς' else 'σ'] = restored 'Σ' := by
  obtain ⟨-, -, -, middle, last, sigma, -⟩ := special_letters
  unfold upper restored
  rw [sigma, List.flatMap_singleton, List.flatMap_singleton, middle]
  split
  · exact last
  · exact middle

theorem upper_lowerFrom (before text : List Char) :
    upper (lowerFrom before text) = text.flatMap restored := by
  induction text generalizing before with
  | nil => rfl
  | cons c rest ih =>
      have split : upper (lowerFrom before (c :: rest)) = upper (if c == 'Σ' then
          [if meetsCased before && !meetsCased rest then 'ς' else 'σ'] else lowerChar c) ++
            upper (lowerFrom (c :: before) rest) := List.flatMap_append
      rw [split, ih, List.flatMap_cons]
      congr 1
      by_cases sigma : c = 'Σ'
      · rw [if_pos (beq_iff_eq.mpr sigma), upper_sigma, sigma]
      · rw [if_neg (by simpa using sigma)]
        rfl

theorem standsFor_twin {twin : Char × List Char} (member : twin ∈ twins) :
    StandsFor twin.1 twin.2 := by
  have lowered := (special_letters.1 twin member).2.1
  simp only [twins, List.mem_cons, List.not_mem_nil, or_false] at member
  rcases member with rfl | rfl | rfl | rfl | rfl
  · exact .twin lowered (by decide) (by decide) (cased_twin (by decide)) (cased_twin (by decide))
      (List.forall_mem_singleton.mpr isCaseIgnorable_dotAbove)
  all_goals
    exact .twin lowered (by decide) (by decide) (cased_twin (by decide)) (cased_twin (by decide))
      (List.forall_mem_nil _)

/-- A capital comes back, is the sharp one, or has a twin that comes instead. -/
theorem restored_capital {c : Char} (capital : upperChar c = [c]) :
    restored c = [c] ∨ c = 'ẞ' ∨ (c, restored c) ∈ twins := by
  by_cases shared : c.toNat ∈ twinCapitals
  · have known (twin : Char × List Char) (member : twin ∈ twins) (same : c = twin.1) :
        (c, restored c) ∈ twins := by
      rw [same, restored, (special_letters.1 twin member).1]
      exact member
    have code := (Char.ofNat_toNat c).symm
    simp only [twinCapitals, List.mem_cons, List.not_mem_nil, or_false] at shared
    rcases shared with here | here | here | here | here | here <;> rw [here] at code
    · exact .inr (.inr (known ('\u0130', ['I', dotAbove]) (by decide) code))
    · exact .inr (.inr (known ('\u03F4', ['\u0398']) (by decide) code))
    · exact .inr (.inl code)
    · exact .inr (.inr (known ('\u2126', ['\u03A9']) (by decide) code))
    · exact .inr (.inr (known ('\u212A', ['K']) (by decide) code))
    · exact .inr (.inr (known ('\u212B', ['\u00C5']) (by decide) code))
  · exact .inl (upper_lowerChar capital shared)

/-! ## The sharp s -/

theorem mem_lowerFrom {before text : List Char} {c d : Char} (member : c ∈ text) (plain : c ≠ 'Σ')
    (inside : d ∈ lowerChar c) : d ∈ lowerFrom before text := by
  induction text generalizing before with
  | nil => cases member
  | cons first rest ih =>
      rw [lowerFrom, List.mem_append]
      rcases List.mem_cons.mp member with rfl | later
      · rw [if_neg (by simpa using plain)]
        exact .inl inside
      · exact .inr (ih later)

/-- The lower case of capitals has a sharp s where they have the capital one, and only there. -/
theorem sharp_mem_lower_iff {text : List Char} (capitals : ∀ c ∈ text, upperChar c = [c]) :
    'ß' ∈ lower text ↔ 'ẞ' ∈ text := by
  obtain ⟨small, sharp, double, -, -, -, -, -, s⟩ := special_letters
  constructor
  · intro member
    rcases mem_lowerFrom_cases member with (sigma | sigma) | ⟨c, within, inside⟩
    · exact absurd sigma (by decide)
    · exact absurd sigma (by decide)
    rcases restored_capital (capitals c within) with back | rfl | twin
    · have letter : 'S' ∈ restored c := List.mem_flatMap.mpr ⟨'ß', inside, by simp [double]⟩
      rw [back, List.mem_singleton] at letter
      rw [← letter, s] at inside
      exact absurd inside (by decide)
    · exact within
    · exact absurd inside (small _ twin).2.2
  · intro member
    exact mem_lowerFrom member (by decide) (by simp [sharp])

/-- The capital sharp s does not come back. -/
theorem sharp_not_mem_restored {c : Char} (capital : upperChar c = [c]) : 'ẞ' ∉ restored c := by
  obtain ⟨-, sharp, double, -⟩ := special_letters
  have sharpRestored : restored 'ẞ' = ['S', 'S'] := by
    rw [restored, sharp, List.flatMap_singleton, double]
  rcases restored_capital capital with back | rfl | twin
  · intro member
    rw [back, List.mem_singleton] at member
    subst member
    rw [sharpRestored] at back
    cases back
  · rw [sharpRestored]
    decide
  · have none : ∀ twin ∈ twins, 'ẞ' ∉ twin.2 := by decide
    exact none _ twin

/-- Lower case after upper case leaves alone what both have written exactly if that has no
sharp s. -/
theorem lower_upper_lower_iff {text : List Char} (capitals : ∀ c ∈ text, upperChar c = [c]) :
    lower (upper (lower text)) = lower text ↔ 'ß' ∉ lower text := by
  have again : upper (lower text) = text.flatMap restored := upper_lowerFrom [] text
  constructor
  · intro same sharp
    rw [← same, sharp_mem_lower_iff fun _ => upperChar_of_mem_upper, again, List.mem_flatMap]
      at sharp
    obtain ⟨c, member, inside⟩ := sharp
    exact sharp_not_mem_restored (capitals c member) inside
  · intro sharpless
    rw [sharp_mem_lower_iff capitals] at sharpless
    have stands (c : Char) (member : c ∈ text) : StandsFor c (restored c) := by
      rcases restored_capital (capitals c member) with back | rfl | twin
      · rw [back]
        exact .itself
      · exact absurd member sharpless
      · exact standsFor_twin twin
    rw [again]
    exact lowerFrom_flatMap stands rfl

end RelationQuery.Text
