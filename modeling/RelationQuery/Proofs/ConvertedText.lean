import RelationQuery.Proofs.CaseMapping
import RelationQuery.Proofs.Conversion
import RelationQuery.Proofs.DecimalText
import RelationQuery.Proofs.RoundingOrder

/-!
# Converted texts and their rules

The length of a text is checked before it is trimmed and brought to a case, so what comes out need
not pass the rule that it has passed. Trimming alone can take it below the least length, and the
case alone above the greatest one. A text that passes is left as it is when it is converted once
more, but for a sharp s that upper and lower case together turn into two letters.
-/

namespace RelationQuery

open Text
open Sql (MadeOf)

/-! ## Counts among the bounds -/

namespace Binary

/-- A count out of range is rounded to infinity. -/
theorem datum_of_not_isFinite {n : Nat} (endless : ¬(ofInt .double n).isFinite = true) :
    (ofInt .double n).datum = .infinite false := by
  have nonneg : (0 : ℚ) ≤ ((n : Int) : ℚ) := by positivity
  have most : (ofInt .double n).magnitude ≤ Format.infinityMagnitude .double := by
    rw [ofInt_eq_ofRat, magnitude_ofRat]
    exact nearestMagnitude_le _ _
  have least : Format.infinityMagnitude .double ≤ (ofInt .double n).magnitude := by
    simpa [isFinite] using endless
  have positive : (ofInt .double n).negative = false := by
    rw [ofInt_eq_ofRat]
    exact negative_ofRat _ nonneg
  have same := Nat.le_antisymm most least
  unfold datum
  rw [same, positive]
  rfl

variable {m n : Nat} {bound : Double}

/-- A longer count is rounded to infinity, or both are finite and in order. -/
theorem ofInt_order (least : m ≤ n) : (ofInt .double n).datum = .infinite false ∨
    (∃ negative significand exponent,
      (ofInt .double m).datum = .finite negative significand exponent) ∧
    (∃ negative significand exponent,
      (ofInt .double n).datum = .finite negative significand exponent) ∧
    (ofInt .double m).toRat ≤ (ofInt .double n).toRat := by
  have nonneg : (0 : ℚ) ≤ ((m : Int) : ℚ) := by positivity
  have order : ((m : Int) : ℚ) ≤ ((n : Int) : ℚ) := by exact_mod_cast least
  by_cases finite : (ofInt .double n).isFinite = true
  · rw [ofInt_eq_ofRat] at finite
    refine .inr ⟨?_, ?_, ?_⟩
    · rw [← isFinite_iff, ofInt_eq_ofRat]
      exact isFinite_ofRat_of_le nonneg order finite
    · rwa [← isFinite_iff, ofInt_eq_ofRat]
    · rw [ofInt_eq_ofRat, ofInt_eq_ofRat]
      exact toRat_ofRat_mono nonneg order finite
  · exact .inl (datum_of_not_isFinite finite)

/-- With a count, every shorter one is below a bound. -/
theorem ofInt_lt_of_le (least : m ≤ n) (below : (ofInt .double n).lt bound = true) :
    (ofInt .double m).lt bound = true := by
  unfold lt at below ⊢
  rcases ofInt_order least with endless | ⟨⟨_, _, _, shorter⟩, ⟨_, _, _, longer⟩, order⟩
  · rw [endless] at below
    split at below <;> simp_all
  · rw [longer] at below
    rw [shorter]
    cases parts : bound.datum with
    | nan => simp [parts] at below
    | infinite negative => simpa [parts] using below
    | finite negative significand exponent =>
        simp only [parts, decide_eq_true_eq] at below ⊢
        exact order.trans_lt below

/-- With a count, every longer one is above a bound. -/
theorem lt_ofInt_of_le (least : m ≤ n) (above : bound.lt (ofInt .double m) = true) :
    bound.lt (ofInt .double n) = true := by
  unfold lt at above ⊢
  rcases ofInt_order least with endless | ⟨⟨_, _, _, shorter⟩, ⟨_, _, _, longer⟩, order⟩
  · rw [endless]
    cases parts : bound.datum with
    | nan => simp [parts] at above
    | infinite negative =>
        cases other : (ofInt .double m).datum <;> simp_all
    | finite negative significand exponent => rfl
  · rw [shorter] at above
    rw [longer]
    cases parts : bound.datum with
    | nan => simp [parts] at above
    | infinite negative => simpa [parts] using above
    | finite negative significand exponent =>
        simp only [parts, decide_eq_true_eq] at above ⊢
        exact above.trans_le order

end Binary

/-! ## Texts of values -/

def Solid (text : List Char) : Prop := MadeOf (fun c => !isBlank c) text

instance (text : List Char) : Decidable (Solid text) :=
  decidable_of_iff (text.all fun c => !isBlank c) List.all_eq_true

theorem Solid.append {front back : List Char} (first : Solid front) (second : Solid back) :
    Solid (front ++ back) := List.forall_mem_append.mpr ⟨first, second⟩

theorem solid_cons {c : Char} (dark : isBlank c = false) {rest : List Char} (solid : Solid rest) :
    Solid (c :: rest) := List.forall_mem_cons.mpr ⟨by simp [dark], solid⟩

theorem solid_toDigits (n : Nat) : Solid (Nat.toDigits 10 n) := by
  intro c member
  simp [not_blank_of_digit (isDigit_toDigits member)]

theorem solid_zeros (n : Nat) : Solid (List.replicate n '0') := by
  intro c member
  rw [List.eq_of_mem_replicate member]
  rfl

theorem solid_sign (negative : Bool) : Solid (if negative then ['-'] else []) := by
  cases negative <;> decide

namespace Binary

theorem solid_positionalText (layout : Layout) (number : DecimalDigits) :
    Solid (layout.positionalText number) := by
  have digits := solid_toDigits number.digits
  unfold Layout.positionalText
  dsimp only
  split
  · refine (digits.append (solid_zeros _)).append ?_
    cases layout.keepsPoint <;> decide
  split
  · refine Solid.append (fun c member => digits c (List.mem_of_mem_take member)) ?_
    exact solid_cons rfl fun c member => digits c (List.mem_of_mem_drop member)
  · have point : Solid ['0', '.'] := by decide
    exact point.append ((solid_zeros _).append digits)

theorem solid_scientificText (layout : Layout) (number : DecimalDigits) (leading : Int) :
    Solid (layout.scientificText number leading) := by
  have digits := solid_toDigits number.digits
  have exponent := solid_toDigits leading.natAbs
  unfold Layout.scientificText
  refine Solid.append (Solid.append ?_ (solid_cons rfl ?_)) exponent
  · split
    · exact List.forall_mem_nil _
    · rename_i single
      exact single ▸ digits
    · rename_i first rest several
      rw [several] at digits
      obtain ⟨opening, others⟩ := List.forall_mem_cons.mp digits
      exact List.forall_mem_cons.mpr ⟨opening, solid_cons rfl others⟩
  · split
    · decide
    · cases layout.signsExponent <;> decide

theorem solid_text {format : Format} (layout : Layout) (x : Binary format) :
    Solid (x.text layout) := by
  unfold text
  split
  · decide
  · exact (solid_sign _).append (by decide)
  · refine (solid_sign _).append ?_
    split
    · exact solid_positionalText _ _
    · unfold Layout.magnitudeText
      dsimp only
      split
      · exact solid_positionalText _ _
      · exact solid_scientificText _ _ _

end Binary

theorem solid_numberText (number : Json.Number) : Solid number.text := by
  cases number with
  | whole n =>
      change Solid (toString n).toList
      rw [toList_toString_int]
      split
      · exact solid_cons rfl (solid_toDigits _)
      · exact solid_toDigits _
  | float x => exact Binary.solid_text _ x

namespace Rule

variable {rule : Rule} {given : Json} {text t : String}

structure AdmitsCount (rule : Rule) (count : Nat) : Prop where
  least : ∀ min, rule.min = some min → (Binary.ofInt .double count).lt min = false
  greatest : ∀ max, rule.max = some max → max.lt (Binary.ofInt .double count) = false

theorem require_eq_ok_iff {holds : Bool} {violation : Violation} :
    require holds violation = .ok () ↔ holds = true := by
  refine ⟨require_eq_ok, fun passed => ?_⟩
  rw [require, if_pos passed]

theorem forM_eq_ok_iff {α : Type} {option : Option α} {check : α → Except Violation Unit} :
    option.forM check = .ok () ↔ ∀ a, option = some a → check a = .ok () := by
  cases option with
  | none => exact ⟨fun _ _ same => (nomatch same), fun _ => rfl⟩
  | some a => exact ⟨fun passed _ same => Option.some.inj same ▸ passed, fun all => all a rfl⟩

theorem validateText_eq_ok_iff (noPattern : rule.pattern = none)
    (noClass : rule.allowedChars = none) (text : List Char) :
    rule.validateText text = .ok () ↔ rule.AdmitsCount text.length := by
  unfold validateText
  rw [noPattern, noClass]
  dsimp only
  constructor
  · intro passed
    obtain ⟨_, least, passed⟩ := bind_eq_ok.mp passed
    obtain ⟨_, greatest, -⟩ := bind_eq_ok.mp passed
    exact ⟨fun min same => by simpa using require_eq_ok (forM_eq_ok_iff.mp least min same),
      fun max same => by simpa using require_eq_ok (forM_eq_ok_iff.mp greatest max same)⟩
  · intro admits
    refine bind_eq_ok.mpr ⟨(), forM_eq_ok_iff.mpr fun min same => ?_,
      bind_eq_ok.mpr ⟨(), forM_eq_ok_iff.mpr fun max same => ?_, rfl⟩⟩
    · rw [require_eq_ok_iff, admits.least min same]
      rfl
    · rw [require_eq_ok_iff, admits.greatest max same]
      rfl

/-! ## Trimmed and in a case -/

/-- The case that a rule wants is made in two steps, of which each writes all characters anew. -/
theorem recased_convertText (rule : Rule) (text : List Char) :
    ∃ upper, Recased text upper ∧ Recased upper (rule.convertText text) := by
  refine ⟨if rule.uppercase then Text.upper text else text, ?_, ?_⟩
  · split
    · exact recased_upper text
    · exact .refl text
  · unfold convertText
    dsimp only
    generalize (if rule.uppercase then Text.upper text else text) = upper
    split
    · exact recased_lowerFrom [] upper
    · exact .refl upper

theorem trim_convertText {text : List Char} (trimmed : trim text = text) :
    trim (rule.convertText text) = rule.convertText text := by
  obtain ⟨_, first, second⟩ := rule.recased_convertText text
  exact second.trimmed (first.trimmed trimmed)

/-- What a rule has brought to its case stays as it is, but for a sharp s under both cases. -/
theorem convertText_convertText_iff (rule : Rule) (text : List Char) :
    rule.convertText (rule.convertText text) = rule.convertText text ↔
      ¬(rule.uppercase = true ∧ rule.lowercase = true ∧ 'ß' ∈ rule.convertText text) := by
  unfold convertText
  dsimp only
  cases rule.uppercase with
  | false =>
      cases rule.lowercase with
      | false => simp
      | true => simpa using lower_lower text
  | true =>
      cases rule.lowercase with
      | false => simpa using upper_upper text
      | true => simpa using lower_upper_lower_iff fun _ => upperChar_of_mem_upper

/-! ## Converting a text -/

section Strings

variable (string : rule.kind = .string)

include string

theorem validate_string_iff : rule.validate (some (.string t)) = .ok () ↔
    if t = "" then rule.required = false else rule.validateText t.toList = .ok () := by
  by_cases empty : t = ""
  · subst empty
    change require (!rule.required) _ = .ok () ↔ _
    rw [require_eq_ok_iff, Bool.not_eq_true', if_pos rfl]
  · have present : present? (some (.string t)) = some (.string t) := by simp [present?, empty]
    rw [validate, present, if_neg empty]
    dsimp only
    rw [validatePresent, string]
    exact Iff.rfl

/-- A value that has a text of its own is converted to this text, trimmed and in its case. -/
theorem convertPresent_of_text (own : textOf? given = some text) : rule.convertPresent given =
    .ok (.text (String.ofList (rule.convertText (trim text.toList)))) := by
  unfold convertPresent
  rw [string]
  cases given with
  | string s =>
      cases own
      rfl
  | number n =>
      cases own
      rw [String.toList_ofList, trim_of_solid (solid_numberText n)]
      rfl
  | bool b =>
      cases own
      have trimmed : trim (Json.boolText b) = Json.boolText b := by cases b <;> rfl
      rw [String.toList_ofList, trimmed]
      rfl
  | null => cases own
  | array items => cases own
  | object members => cases own

theorem convert_string_iff {result : String} :
    rule.convert (some (.string t)) = .ok (.text result) ↔ t ≠ "" ∧
      rule.validateText t.toList = .ok () ∧
      result = String.ofList (rule.convertText (trim t.toList)) := by
  have valid := validate_string_iff string (t := t)
  by_cases empty : t = ""
  · subst empty
    refine ⟨fun converted => ?_, fun ⟨filled, _⟩ => absurd rfl filled⟩
    obtain ⟨_, -, null⟩ := bind_eq_ok.mp converted
    cases null
  · have present : present? (some (.string t)) = some (.string t) := by simp [present?, empty]
    rw [if_neg empty] at valid
    rw [and_iff_right empty, ← valid]
    have own : textOf? (.string t) = some t := rfl
    constructor
    · intro converted
      obtain ⟨_, passed, -⟩ := bind_eq_ok.mp converted
      rw [convert_of_valid passed present, convertPresent_of_text string own] at converted
      cases converted
      exact ⟨passed, rfl⟩
    · rintro ⟨passed, rfl⟩
      rw [convert_of_valid passed present, convertPresent_of_text string own]

/-- What passes has a text of its own, which has been checked. -/
theorem exists_text_of_validate (passed : rule.validate (some given) = .ok ())
    (present : present? (some given) = some given) :
    ∃ text, textOf? given = some text ∧ rule.validateText text.toList = .ok () := by
  rw [validate, present] at passed
  dsimp only at passed
  rw [validatePresent, string] at passed
  dsimp only [validateString] at passed
  cases own : textOf? given with
  | none =>
      rw [own] at passed
      cases passed
  | some text =>
      rw [own] at passed
      exact ⟨text, rfl, passed⟩

theorem exists_text_of_convert (converted : rule.convert (some given) = .ok (.text t)) :
    ∃ text, textOf? given = some text ∧ rule.validateText text.toList = .ok () ∧
      t = String.ofList (rule.convertText (trim text.toList)) := by
  obtain ⟨_, passed, rest⟩ := bind_eq_ok.mp converted
  cases present : present? (some given) with
  | none =>
      rw [present] at rest
      cases rest
  | some value =>
      obtain rfl := Option.some.inj (eq_of_present? present)
      obtain ⟨text, own, valid⟩ := exists_text_of_validate string passed present
      rw [convert_of_valid passed present, convertPresent_of_text string own] at converted
      cases converted
      exact ⟨text, own, valid, rfl⟩

end Strings

/-! ## What the rule says of what it has converted -/

/-- How a converted text stands to the bounds that its source has passed. Only trimming takes it
below the least, and only a change of case above the greatest. -/
structure KeepsBounds (rule : Rule) (text t : String) : Prop where
  least : text.length ≤ t.length → ∀ min, rule.min = some min →
    (Binary.ofInt .double t.length).lt min = false
  greatest : t.length ≤ text.length → ∀ max, rule.max = some max →
    max.lt (Binary.ofInt .double t.length) = false
  untrimmed : trim text.toList = text.toList → text.length ≤ t.length
  unfolded : rule.uppercase = false → rule.lowercase = false → t.length ≤ text.length

theorem keepsBounds {rule : Rule} {text : String} (admits : rule.AdmitsCount text.length) :
    rule.KeepsBounds text (String.ofList (rule.convertText (trim text.toList))) := by
  obtain ⟨_, first, second⟩ := rule.recased_convertText (trim text.toList)
  have more := first.length_le.trans second.length_le
  refine ⟨fun longer min bound => ?_, fun shorter max bound => ?_, fun same => ?_, ?_⟩
  · rw [Bool.eq_false_iff]
    intro below
    have under := Binary.ofInt_lt_of_le longer below
    rw [admits.least min bound] at under
    cases under
  · rw [Bool.eq_false_iff]
    intro above
    have exceeded := Binary.lt_ofInt_of_le shorter above
    rw [admits.greatest max bound] at exceeded
    cases exceeded
  · rw [same] at more
    rwa [String.length_ofList, ← String.length_toList, same]
  · intro noUpper noLower
    have kept : rule.convertText (trim text.toList) = trim text.toList := by
      simp [convertText, noUpper, noLower]
    rw [kept, String.length_ofList, ← String.length_toList]
    exact trim_length_le text.toList

/-- What a string rule says of a text that it has converted. The text is empty exactly if its source
is blank, and keeps the bounds of the rule as far as its length is kept. It passes the rule exactly
if its own length does or, when it is empty, nothing is required; and it is converted to itself
exactly if it is not empty, its own length passes, and the rule does not turn a sharp s in it to
upper and then to lower case. -/
theorem converted_text_passes_iff {rule : Rule} {given : Json} {t : String}
    (string : rule.kind = .string) (noPattern : rule.pattern = none)
    (noClass : rule.allowedChars = none)
    (converted : rule.convert (some given) = .ok (.text t)) :
    ∃ text, textOf? given = some text ∧ rule.AdmitsCount text.length ∧
      (t = "" ↔ isBlankText text.toList = true) ∧ rule.KeepsBounds text t ∧
      (rule.validate (some (.string t)) = .ok () ↔
        if t = "" then rule.required = false else rule.AdmitsCount t.length) ∧
      (rule.convert (some (.string t)) = .ok (.text t) ↔
        t ≠ "" ∧ rule.AdmitsCount t.length ∧
          ¬(rule.uppercase = true ∧ rule.lowercase = true ∧ 'ß' ∈ t.toList)) := by
  obtain ⟨text, own, passed, rfl⟩ := exists_text_of_convert string converted
  rw [validateText_eq_ok_iff noPattern noClass, String.length_toList] at passed
  have trimmed := rule.trim_convertText (trim_trim text.toList)
  have again := rule.convertText_convertText_iff (trim text.toList)
  refine ⟨text, own, passed, ?_, keepsBounds passed, ?_, ?_⟩
  · obtain ⟨_, first, second⟩ := rule.recased_convertText (trim text.toList)
    rw [← trim_eq_nil_iff, ← first.eq_nil_iff, ← second.eq_nil_iff]
    exact String.ofList_eq_empty_iff
  · rw [validate_string_iff string, validateText_eq_ok_iff noPattern noClass, String.length_toList]
  · rw [convert_string_iff string, validateText_eq_ok_iff noPattern noClass, String.length_toList,
      String.toList_ofList, trimmed, ← again, String.ofList_inj, eq_comm (a := rule.convertText _)]

def codeRule : Rule :=
  { name := "code", kind := .string, required := true, min := some (.ofInt .double 3) }

/-- A code of one letter comes out of blanks, and it is the rule itself that it breaks. -/
theorem code_in_blanks_passes_iff : ∃ text, textOf? (.string "  a  ") = some text ∧
    codeRule.AdmitsCount text.length ∧ ("a" = "" ↔ isBlankText text.toList = true) ∧
    codeRule.KeepsBounds text "a" ∧
    (codeRule.validate (some (.string "a")) = .ok () ↔
      if "a" = "" then codeRule.required = false else codeRule.AdmitsCount "a".length) ∧
    (codeRule.convert (some (.string "a")) = .ok (.text "a") ↔
      "a" ≠ "" ∧ codeRule.AdmitsCount "a".length ∧
        ¬(codeRule.uppercase = true ∧ codeRule.lowercase = true ∧ 'ß' ∈ "a".toList)) :=
  converted_text_passes_iff rfl rfl rfl rfl

/-- A code with blanks around it comes out too short for its rule, and one of blanks only comes out
empty, though it is required. -/
theorem trimmed_code_breaks_rule :
    codeRule.convert (some (.string "  a  ")) = .ok (.text "a") ∧
      codeRule.validate (some (.string "a")) = .error
        ⟨"code must be at least 3 characters", "56d95835-e72c-51ac-ac19-fba0b5c481a3"⟩ ∧
      codeRule.convert (some (.string "   ")) = .ok (.text "") ∧
      codeRule.validate (some (.string "")) = .error
        ⟨"code is required", "4e17c1e7-aec6-5d7b-8d4d-3ac6e15c8520"⟩ := by
  refine ⟨rfl, by decide +kernel, rfl, rfl⟩

end Rule

end RelationQuery
