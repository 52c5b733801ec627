import RelationQuery.Text.Words

/-!
# Laws of replacement

Replacement works from the left: text without the first character of the word is copied, and an
occurrence gives way to the substitute. A machine that reads the word and the substitute with the
same effect cannot tell the replaced text from the original.
-/

namespace RelationQuery.Text

/-- Text of an occurrence already replaced is passed over. -/
theorem replaceFrom_append (word substitute passed rest : List Char) :
    replaceFrom word substitute passed.length (passed ++ rest) =
      replaceFrom word substitute 0 rest := by
  induction passed with
  | nil => rfl
  | cons c passed ih => exact ih

/-- A word in front is replaced. -/
theorem replace_word {word : List Char} (nonempty : word ≠ []) (substitute rest : List Char) :
    replace word substitute (word ++ rest) = substitute ++ replace word substitute rest := by
  cases word with
  | nil => exact absurd rfl nonempty
  | cons first tail =>
      have met : (first :: tail).isPrefixOf (first :: (tail ++ rest)) = true :=
        List.isPrefixOf_iff_prefix.mpr (List.prefix_append (first :: tail) rest)
      change replaceFrom (first :: tail) substitute 0 (first :: (tail ++ rest)) = _
      rw [replaceFrom, if_pos met]
      exact congrArg (substitute ++ ·) (replaceFrom_append (first :: tail) substitute tail rest)

/-- Text in which the word cannot begin is copied. -/
theorem replace_append {word : List Char} {first : Char} {tail : List Char}
    (spelled : word = first :: tail) (substitute : List Char) {front : List Char}
    (absent : first ∉ front) (rest : List Char) :
    replace word substitute (front ++ rest) = front ++ replace word substitute rest := by
  subst spelled
  induction front with
  | nil => rfl
  | cons c front ih =>
      have other : first ≠ c := fun same => absent (same ▸ List.mem_cons_self)
      have differs : (first :: tail).isPrefixOf (c :: (front ++ rest)) = false := by
        simp [List.isPrefixOf, other]
      rw [List.cons_append, replace_cons_of_differs differs,
        ih fun member => absent (List.mem_cons_of_mem c member)]
      rfl

/-- An occurrence does not reach past a character that the word does not hold. -/
theorem replaceFrom_append_cons {word : List Char} (nonempty : word ≠ []) (substitute : List Char)
    {c : Char} (absent : c ∉ word) (skip : Nat) (front rest : List Char)
    (short : skip ≤ front.length) :
    replaceFrom word substitute skip (front ++ c :: rest) =
      replaceFrom word substitute skip front ++ c :: replace word substitute rest := by
  fun_induction replaceFrom word substitute skip front with
  | case1 skip =>
      have none : word.isPrefixOf (c :: rest) = false := by
        rw [Bool.eq_false_iff]
        intro met
        cases word with
        | nil => exact nonempty rfl
        | cons first tail =>
            obtain ⟨rfl, _⟩ := List.cons_prefix_cons.mp (List.isPrefixOf_iff_prefix.mp met)
            exact absent List.mem_cons_self
      obtain rfl : skip = 0 := Nat.le_zero.mp short
      exact replace_cons_of_differs none
  | case2 skip d front ih => exact ih (Nat.le_of_succ_le_succ short)
  | case3 d front met ih =>
      have whole : word.isPrefixOf (d :: (front ++ c :: rest)) = true :=
        List.isPrefixOf_iff_prefix.mpr ((List.isPrefixOf_iff_prefix.mp met).trans
          (List.prefix_append (d :: front) (c :: rest)))
      have within : word.length - 1 ≤ front.length := by
        have length := (List.isPrefixOf_iff_prefix.mp met).length_le
        rw [List.length_cons] at length
        omega
      rw [List.cons_append, replaceFrom, if_pos whole, ih within, List.append_assoc]
  | case4 d front other ih =>
      have none : word.isPrefixOf (d :: (front ++ c :: rest)) = false := by
        rw [Bool.eq_false_iff]
        intro met
        apply other
        rw [List.isPrefixOf_iff_prefix] at met ⊢
        have along := List.prefix_append (d :: front) (c :: rest)
        rcases List.prefix_or_prefix_of_prefix met along with inside | ⟨more, rfl⟩
        · exact inside
        · have behind := (List.prefix_append_right_inj (d :: front)).mp met
          cases more with
          | nil => simp
          | cons first tail =>
              obtain ⟨rfl, _⟩ := List.cons_prefix_cons.mp behind
              exact absurd (List.mem_append_right _ List.mem_cons_self) absent
      rw [List.cons_append, replaceFrom, if_neg (by simp [none]), ih (Nat.zero_le _)]
      rfl

theorem replace_append_cons {word : List Char} (nonempty : word ≠ []) (substitute : List Char)
    {c : Char} (absent : c ∉ word) (front rest : List Char) :
    replace word substitute (front ++ c :: rest) =
      replace word substitute front ++ c :: replace word substitute rest :=
  replaceFrom_append_cons nonempty substitute absent 0 front rest (Nat.zero_le _)

/-- Replaced text is made of the text and the substitute. -/
theorem mem_replaceFrom {word substitute : List Char} {c : Char} {skip : Nat} {text : List Char}
    (member : c ∈ replaceFrom word substitute skip text) : c ∈ substitute ∨ c ∈ text := by
  fun_induction replaceFrom word substitute skip text with
  | case1 => cases member
  | case2 skip d rest ih => exact (ih member).imp_right (List.mem_cons_of_mem d)
  | case3 d rest met ih =>
      rcases List.mem_append.mp member with here | later
      · exact .inl here
      · exact (ih later).imp_right (List.mem_cons_of_mem d)
  | case4 d rest other ih =>
      rcases List.mem_cons.mp member with rfl | later
      · exact .inr List.mem_cons_self
      · exact (ih later).imp_right (List.mem_cons_of_mem d)

section Machine

variable {State : Type} {step : State → Char → State} {Sound : State → Prop}
  {word substitute : List Char}

theorem foldl_sound (kept : ∀ state c, Sound state → Sound (step state c)) {state : State}
    (sound : Sound state) (text : List Char) : Sound (text.foldl step state) := by
  induction text generalizing state with
  | nil => exact sound
  | cons c rest ih => exact ih (kept state c sound)

theorem foldl_replaceFrom (kept : ∀ state c, Sound state → Sound (step state c))
    (same : ∀ state, Sound state → substitute.foldl step state = word.foldl step state)
    (nonempty : word ≠ []) (skip : Nat) (text : List Char) {state : State} (sound : Sound state) :
    (replaceFrom word substitute skip text).foldl step state =
      (text.drop skip).foldl step state := by
  fun_induction replaceFrom word substitute skip text generalizing state with
  | case1 => simp
  | case2 skip _ rest ih => exact ih sound
  | case3 c rest met ih =>
      obtain ⟨behind, split⟩ := List.isPrefixOf_iff_prefix.mp met
      have dropped : rest.drop (word.length - 1) = behind := by
        cases word with
        | nil => exact absurd rfl nonempty
        | cons first tail =>
            obtain ⟨-, rfl⟩ := List.cons.inj split
            exact List.drop_left
      rw [List.foldl_append, ih (foldl_sound kept sound substitute), dropped, same state sound,
        ← List.foldl_append, split]
      rfl
  | case4 c rest other ih => exact ih (kept state c sound)

/-- A machine on which word and substitute have the same effect reads replaced text as it reads the
original. -/
theorem foldl_replace (kept : ∀ state c, Sound state → Sound (step state c))
    (same : ∀ state, Sound state → substitute.foldl step state = word.foldl step state)
    (nonempty : word ≠ []) (text : List Char) {state : State} (sound : Sound state) :
    (replace word substitute text).foldl step state = text.foldl step state :=
  foldl_replaceFrom kept same nonempty 0 text sound

end Machine

end RelationQuery.Text
