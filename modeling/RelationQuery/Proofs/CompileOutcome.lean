import RelationQuery.Proofs.Meaning
import RelationQuery.Proofs.RequestProvenance
import RelationQuery.Proofs.ValueEquality

/-!
# When a read compiles

A read is refused for the first fault in it: a key that a request may not use, a reserved name bound
by the caller, a key outside the allow-list, a name with two values. Each stage goes through a list
and stops at the first item with which the list is no longer sound, and generated names never stand
in the way of the last stage.
-/

namespace RelationQuery

/-! ## The first item at fault -/

section Breaks

variable {α : Type} {Holds : List α → Prop} {items : List α} {item other : α}

/-- The first item with which a list no longer has a property that it had up to there. -/
def BreaksAt (Holds : List α → Prop) (items : List α) (item : α) : Prop :=
  ∃ front behind, items = front ++ item :: behind ∧ Holds front ∧ ¬ Holds (front ++ [item])

/-- What holds of a list holds of all that it begins with. -/
def PrefixClosed (Holds : List α → Prop) : Prop :=
  ∀ front items, front <+: items → Holds items → Holds front

theorem BreaksAt.not_holds (closed : PrefixClosed Holds) (breaks : BreaksAt Holds items item) :
    ¬ Holds items := by
  obtain ⟨front, behind, rfl, _, fails⟩ := breaks
  intro holds
  exact fails (closed _ _ ⟨behind, by simp⟩ holds)

theorem BreaksAt.unique (closed : PrefixClosed Holds) (first : BreaksAt Holds items item)
    (second : BreaksAt Holds items other) : item = other := by
  obtain ⟨front, behind, rfl, holds, fails⟩ := first
  obtain ⟨front', behind', same, holds', fails'⟩ := second
  have shown : front ++ [item] <+: front ++ item :: behind := ⟨behind, by simp⟩
  have shown' : front' ++ [other] <+: front ++ item :: behind := ⟨behind', by simp [same]⟩
  rcases lt_trichotomy front.length front'.length with shorter | equal | longer
  · have inside : front ++ [item] <+: front' :=
      List.prefix_of_prefix_length_le shown ((List.prefix_append _ _).trans shown')
        (by rw [List.length_append]; exact shorter)
    exact absurd (closed _ _ inside holds') fails
  · have both := List.append_inj same equal
    exact (List.cons.inj both.2).1
  · have inside : front' ++ [other] <+: front :=
      List.prefix_of_prefix_length_le shown' (List.prefix_append _ _)
        (by rw [List.length_append]; exact longer)
    exact absurd (closed _ _ inside holds) fails'

theorem BreaksAt.append (breaks : BreaksAt Holds items item) (more : List α) :
    BreaksAt Holds (items ++ more) item := by
  obtain ⟨front, behind, rfl, holds, fails⟩ := breaks
  exact ⟨front, behind ++ more, by simp, holds, fails⟩

end Breaks

/-- When a result is there, and with which causes it is not. -/
structure Settles {α : Type} (result : Except Cause α) (Sound : Prop) (Fault : Cause → Prop) :
    Prop where
  ok_iff : (∃ a, result = .ok a) ↔ Sound
  error_iff : ∀ cause, result = .error cause ↔ Fault cause

namespace Settles

variable {α β : Type} {result : Except Cause α} {Sound Sound' : Prop} {Fault Fault' : Cause → Prop}

/-- The second of two stages counts where the first has found nothing. -/
theorem bind (first : Settles result Sound Fault) {next : α → Except Cause β}
    (later : ∀ a, result = .ok a → Settles (next a) Sound' Fault') :
    Settles (result >>= next) (Sound ∧ Sound') fun cause => Fault cause ∨ Sound ∧ Fault' cause := by
  cases known : result with
  | error cause =>
      have unsound : ¬ Sound := fun sound => by
        obtain ⟨a, there⟩ := first.ok_iff.mpr sound
        cases known.symm.trans there
      refine ⟨⟨fun ⟨_, there⟩ => (nomatch there), fun both => absurd both.1 unsound⟩,
        fun other => ?_⟩
      rw [← first.error_iff other, known]
      refine ⟨fun same => .inl ?_, fun fault => ?_⟩
      · exact congrArg Except.error (Except.error.inj same)
      · rcases fault with same | ⟨sound, _⟩
        · exact congrArg Except.error (Except.error.inj same)
        · exact absurd sound unsound
  | ok a =>
      have sound : Sound := first.ok_iff.mp ⟨a, known⟩
      have none (cause : Cause) : ¬ Fault cause := fun fault => by
        cases known.symm.trans ((first.error_iff cause).mpr fault)
      have step := later a known
      refine ⟨step.ok_iff.trans ⟨fun sound' => ⟨sound, sound'⟩, And.right⟩, fun cause => ?_⟩
      refine (step.error_iff cause).trans ⟨fun fault => .inr ⟨sound, fault⟩, fun fault => ?_⟩
      exact (fault.resolve_left (none cause)).2

/-- What is made without fail of a result changes nothing. -/
theorem andThen (first : Settles result Sound Fault) (make : α → β) :
    Settles (result >>= fun a => .ok (make a)) Sound Fault := by
  cases known : result with
  | error cause =>
      refine ⟨?_, fun other => ?_⟩
      · rw [← first.ok_iff, known]
        exact ⟨fun ⟨_, there⟩ => (nomatch there), fun ⟨_, there⟩ => (nomatch there)⟩
      · rw [← first.error_iff, known]
        exact ⟨fun same => congrArg _ (Except.error.inj same),
          fun same => congrArg _ (Except.error.inj same)⟩
  | ok a =>
      refine ⟨?_, fun other => ?_⟩
      · rw [← first.ok_iff, known]
        exact ⟨fun _ => ⟨a, rfl⟩, fun _ => ⟨make a, rfl⟩⟩
      · rw [← first.error_iff, known]
        exact ⟨fun same => (nomatch same), fun same => (nomatch same)⟩

end Settles

/-- A stage that goes through a list and stops where the list is no longer sound. -/
theorem settles_of_breaks {α β : Type} {Holds : List α → Prop} (closed : PrefixClosed Holds)
    {items : List α} (blame : α → Cause) {result : Except Cause β}
    (outcome : Holds items ∧ (∃ b, result = .ok b) ∨
      ∃ item, BreaksAt Holds items item ∧ result = .error (blame item)) :
    Settles result (Holds items) fun cause =>
      ∃ item, BreaksAt Holds items item ∧ cause = blame item := by
  rcases outcome with ⟨holds, b, rfl⟩ | ⟨item, breaks, rfl⟩
  · refine ⟨⟨fun _ => holds, fun _ => ⟨b, rfl⟩⟩, fun cause => ⟨fun same => (nomatch same), ?_⟩⟩
    rintro ⟨item, breaks, _⟩
    exact absurd holds (breaks.not_holds closed)
  · refine ⟨⟨fun ⟨_, there⟩ => (nomatch there), fun holds => ?_⟩, fun cause => ?_⟩
    · exact absurd holds (breaks.not_holds closed)
    · refine ⟨fun same => ⟨item, breaks, (Except.error.inj same).symm⟩, ?_⟩
      rintro ⟨other, breaks', rfl⟩
      rw [breaks.unique closed breaks']

/-! ## Checks of one item after the other -/

section Checks

variable {α : Type} {Passes : α → Prop} {check : α → Except Cause Unit} {blame : α → Cause}

def AllPass (Passes : α → Prop) (items : List α) : Prop := ∀ item ∈ items, Passes item

theorem prefixClosed_allPass (Passes : α → Prop) : PrefixClosed (AllPass Passes) :=
  fun _ _ begins all item member => all item (begins.subset member)

theorem BreaksAt.fails {items : List α} {item : α} (breaks : BreaksAt (AllPass Passes) items item) :
    item ∈ items ∧ ¬ Passes item := by
  obtain ⟨front, behind, rfl, passed, fails⟩ := breaks
  refine ⟨by simp, fun passes => fails fun other member => ?_⟩
  rcases List.mem_append.mp member with early | here
  · exact passed other early
  · exact List.mem_singleton.mp here ▸ passes

/-- What a check lets pass, and what it says of all else. -/
def Checks (check : α → Except Cause Unit) (Passes : α → Prop) (blame : α → Cause) : Prop :=
  ∀ item, Passes item ∧ check item = .ok () ∨ ¬ Passes item ∧ check item = .error (blame item)

theorem settles_forM (checks : Checks check Passes blame) (items : List α) :
    Settles (items.forM check) (AllPass Passes items) fun cause =>
      ∃ item, BreaksAt (AllPass Passes) items item ∧ cause = blame item := by
  apply settles_of_breaks (prefixClosed_allPass Passes) blame
  induction items with
  | nil => exact .inl ⟨fun _ member => (nomatch member), (), rfl⟩
  | cons first rest ih =>
      have unfolded : (first :: rest).forM check = check first >>= fun _ => rest.forM check := rfl
      rcases checks first with ⟨passes, here⟩ | ⟨fails, here⟩
      · rw [unfolded, here]
        rcases ih with ⟨all, done⟩ | ⟨item, ⟨front, behind, rfl, holds, breaks⟩, failed⟩
        · exact .inl ⟨List.forall_mem_cons.mpr ⟨passes, all⟩, done⟩
        · refine .inr ⟨item, ⟨first :: front, behind, rfl, ?_, fun all => breaks ?_⟩, failed⟩
          · exact List.forall_mem_cons.mpr ⟨passes, holds⟩
          · exact (List.forall_mem_cons.mp all).2
      · rw [unfolded, here]
        refine .inr ⟨first, ⟨[], rest, rfl, fun _ member => (nomatch member), fun all => ?_⟩, rfl⟩
        exact fails (all first List.mem_cons_self)

/-- Checking one item after the other is looking for the first at fault. -/
theorem forM_eq_find? (test : α → Bool) (blame : α → Cause) (items : List α) :
    (items.forM fun item => if test item then Except.error (blame item) else Except.ok ()) =
      (items.find? test).elim (Except.ok ()) fun item => Except.error (blame item) := by
  induction items with
  | nil => rfl
  | cons first rest ih =>
      change (if test first then Except.error (blame first) else Except.ok ()) >>= (fun _ => _) = _
      cases found : test first with
      | true =>
          rw [List.find?_cons_of_pos found]
          rfl
      | false =>
          rw [List.find?_cons_of_neg (by simp [found]), ← ih]
          rfl

end Checks

theorem checks_allowed (allowed : Option (List String)) :
    Checks (checkAllowed allowed) (Listed allowed) .fieldNotAllowed := by
  intro key
  rw [← checkAllowed_eq_ok]
  unfold checkAllowed
  split
  · exact .inl ⟨rfl, rfl⟩
  · exact .inr ⟨fun same => (nomatch same), rfl⟩

theorem isRequestKey_iff {key : String} : isRequestKey key = true ↔
    key ≠ "" ∧ ∀ c ∈ key.toList, c.isAlphanum = true ∨ c = '_' ∨ c = '-' := by
  simp [isRequestKey, or_assoc]

/-- What is wrong with a key that a request may not use: its form, or else that it is not listed. -/
def requestFault (key : String) : Cause :=
  if isRequestKey key then .fieldNotAllowed key else .malformedFilter (.requestKey key)

theorem GetQuery.checks_requestKey (query : GetQuery) :
    Checks query.checkRequestKey (PassesRequest query.allowed) requestFault := by
  intro key
  unfold checkRequestKey requestFault
  by_cases plain : isRequestKey key = true
  · rw [if_pos plain, if_pos plain]
    obtain ⟨nonempty, chars⟩ := isRequestKey_iff.mp plain
    rcases checks_allowed query.allowed key with ⟨listed, passed⟩ | ⟨unlisted, failed⟩
    · exact .inl ⟨⟨nonempty, chars, listed⟩, passed⟩
    · exact .inr ⟨fun passes => unlisted passes.listed, failed⟩
  · rw [if_neg plain, if_neg plain]
    exact .inr ⟨fun passes => plain (isRequestKey_iff.mpr ⟨passes.nonempty, passes.plain⟩), rfl⟩

/-! ## The predicates of a filter -/

def FilterSet.filterKeys (filters : FilterSet) : List String :=
  filters.entries.keys ++ filters.terms.map Search.Term.key

/-- Making predicates fails only by the check of a key. -/
theorem exists_predicatesOf {α : Type} (make : NameCounts → String → α → Predicate × NameCounts)
    (mapping : Option KeyMapping) (allowed : Option (List String)) (counts : NameCounts)
    (items : List (String × α)) :
    ∃ made, predicatesOf make mapping allowed counts items =
      (items.map Prod.fst).forM (checkAllowed allowed) >>= fun _ => .ok made := by
  induction items generalizing counts with
  | nil => exact ⟨([], counts), rfl⟩
  | cons entry rest ih =>
      obtain ⟨key, item⟩ := entry
      obtain ⟨made, later⟩ := ih (make counts (mapKey mapping key) item).2
      refine ⟨((make counts (mapKey mapping key) item).1 :: made.1, made.2), ?_⟩
      change (checkAllowed allowed key >>= fun _ =>
        predicatesOf make mapping allowed (make counts (mapKey mapping key) item).2 rest >>= _) =
          (checkAllowed allowed key >>= fun _ => (rest.map Prod.fst).forM _) >>= _
      rw [later, bind_assoc]
      cases checkAllowed allowed key with
      | error cause => rfl
      | ok => cases (rest.map Prod.fst).forM (checkAllowed allowed) <;> rfl

/-- A predicate of the caller may bind a name that is not reserved. -/
def refuseReserved (name : String) : Except Cause Unit :=
  if isReserved name then .error (.malformedFilter (.reservedName name)) else .ok ()

theorem checks_reserved : Checks refuseReserved (isReserved · = false)
    fun name => .malformedFilter (.reservedName name) := by
  intro name
  unfold refuseReserved
  cases reserved : isReserved name with
  | false => exact .inl ⟨reserved, rfl⟩
  | true => exact .inr ⟨fun free => (nomatch reserved.symm.trans free), rfl⟩

theorem FilterSet.exists_predicates (filters : FilterSet) (mapping : Option KeyMapping)
    (allowed : Option (List String)) (counts : NameCounts) :
    ∃ made, filters.predicates mapping allowed counts =
      (boundNames filters.explicit).forM refuseReserved >>= fun _ =>
        filters.filterKeys.forM (checkAllowed allowed) >>= fun _ => .ok made := by
  obtain ⟨first, entries⟩ :=
    exists_predicatesOf entryPredicate mapping allowed counts filters.entries.entries
  obtain ⟨second, terms⟩ :=
    exists_predicatesOf termPredicate mapping allowed first.2 filters.keyedTerms
  have keys : filters.keyedTerms.map Prod.fst = filters.terms.map Search.Term.key := by
    unfold keyedTerms
    rw [List.map_map]
    rfl
  refine ⟨(filters.explicit ++ first.1 ++ second.1, second.2), ?_⟩
  have refused : (boundNames filters.explicit).forM refuseReserved = _ :=
    forM_eq_find? isReserved (fun name => .malformedFilter (.reservedName name)) _
  unfold predicates
  rw [refused]
  cases (boundNames filters.explicit).find? isReserved with
  | some name => rfl
  | none =>
      change (predicatesOf entryPredicate mapping allowed counts filters.entries.entries >>=
        fun ofEntries =>
          predicatesOf termPredicate mapping allowed ofEntries.2 filters.keyedTerms >>= fun ofTerms =>
            Except.ok (filters.explicit ++ ofEntries.1 ++ ofTerms.1, ofTerms.2)) =
          filters.filterKeys.forM (checkAllowed allowed) >>= _
      have inTurn : filters.filterKeys.forM (checkAllowed allowed) =
          filters.entries.keys.forM (checkAllowed allowed) >>= fun _ =>
            (filters.keyedTerms.map Prod.fst).forM (checkAllowed allowed) := by
        rw [keys]
        exact List.forM_append
      rw [entries, inTurn, bind_assoc, bind_assoc]
      refine congrArg (filters.entries.keys.forM (checkAllowed allowed) >>= ·)
        (funext fun _ => ?_)
      change (predicatesOf termPredicate mapping allowed first.2 filters.keyedTerms >>= _) = _
      rw [terms, bind_assoc]
      rfl

/-! ## The values of names -/

/-- Every later value of a name is the same as an earlier one. -/
def Consistent (given : List (String × Value)) : Prop :=
  given.Pairwise fun first later => first.1 = later.1 → first.2.same later.2 = true

theorem prefixClosed_consistent : PrefixClosed Consistent :=
  fun _ _ begins => List.Pairwise.sublist begins.sublist

theorem mem_of_lookup {α : Type} {entries : List (String × α)} {key : String} {value : α}
    (found : entries.lookup key = some value) : (key, value) ∈ entries := by
  obtain ⟨front, behind, rfl, _⟩ := List.lookup_eq_some_iff.mp found
  simp

/-- One value more has to be compared with the first value of its name only. -/
theorem consistent_concat_iff {given : List (String × Value)} (consistent : Consistent given)
    (name : String) (value : Value) : Consistent (given ++ [(name, value)]) ↔
      ∀ held, given.lookup name = some held → held.same value = true := by
  induction given with
  | nil => exact ⟨fun _ _ found => (nomatch found), fun _ => List.pairwise_singleton _ _⟩
  | cons entry rest ih =>
      obtain ⟨agrees, consistent⟩ := List.pairwise_cons.mp consistent
      rw [List.lookup_cons]
      by_cases same : name = entry.1
      · rw [beq_iff_eq.mpr same]
        constructor
        · intro whole held found
          cases found
          exact (List.pairwise_cons.mp whole).1 (name, value) (by simp) same.symm
        · intro first
          have here : entry.2.same value = true := first entry.2 rfl
          -- The values behind the first of the name are the same as it, so the new one is theirs.
          refine List.pairwise_cons.mpr ⟨?_, (ih consistent).mpr fun held found =>
            Value.same_of_common (agrees _ (mem_of_lookup found) same.symm) here⟩
          intro other member
          rcases List.mem_append.mp member with inside | last
          · exact agrees other inside
          · cases List.mem_singleton.mp last
            exact fun _ => here
      · rw [beq_eq_false_iff_ne.mpr same]
        refine ⟨fun whole => (ih consistent).mp (List.pairwise_cons.mp whole).2, fun first => ?_⟩
        refine List.pairwise_cons.mpr ⟨?_, (ih consistent).mpr first⟩
        intro other member
        rcases List.mem_append.mp member with inside | last
        · exact agrees other inside
        · cases List.mem_singleton.mp last
          exact fun equal => absurd equal.symm same

namespace Bindings

/-- Under every name that a caller may bind, what was given first is found. -/
def Holds (bindings : Bindings) (given : List (String × Value)) : Prop :=
  ∀ name, isReserved name = false → bindings.get? name = given.lookup name

variable {bindings : Bindings} {given : List (String × Value)}

theorem Holds.bindAll {after : Bindings} {entries : List (String × Value)}
    (holds : bindings.Holds given) (bound : bindings.bindAll entries = .ok after) :
    after.Holds (given ++ entries) := by
  intro name free
  rw [get?_bindAll bound, holds name free, List.lookup_append]

/-- Values are bound up to the first that differs from an earlier one of its name. -/
theorem bindAll_outcome (holds : bindings.Holds given) (consistent : Consistent given)
    {entries : List (String × Value)} (free : ∀ entry ∈ entries, isReserved entry.1 = false) :
    Consistent (given ++ entries) ∧ (∃ after, bindings.bindAll entries = .ok after) ∨
      ∃ entry, BreaksAt Consistent (given ++ entries) entry ∧
        bindings.bindAll entries = .error (.malformedFilter (.boundTwice entry.1)) := by
  induction entries generalizing bindings given with
  | nil => exact .inl ⟨by rwa [List.append_nil], bindings, rfl⟩
  | cons entry rest ih =>
      obtain ⟨name, value⟩ := entry
      obtain ⟨here, later⟩ := List.forall_mem_cons.mp free
      have next : bindings.bindAll ((name, value) :: rest) =
          bindings.bind name value >>= fun after => after.bindAll rest := rfl
      have split : given ++ (name, value) :: rest = given ++ [(name, value)] ++ rest := by simp
      have compared := consistent_concat_iff consistent name value
      rw [← holds name here] at compared
      have outcome : Consistent (given ++ [(name, value)]) ∧
            (∃ after, bindings.bind name value = .ok after) ∨
          ¬ Consistent (given ++ [(name, value)]) ∧
            bindings.bind name value = .error (.malformedFilter (.boundTwice name)) := by
        rw [compared]
        unfold bind
        cases bindings.get? name with
        | none => exact .inl ⟨fun _ found => (nomatch found), _, rfl⟩
        | some held =>
            by_cases same : held.same value = true
            · exact .inl ⟨fun _ found => Option.some.inj found ▸ same, bindings, by simp [same]⟩
            · exact .inr ⟨fun all => same (all held rfl), by simp [same]⟩
      rcases outcome with ⟨sound, after, bound⟩ | ⟨differs, failed⟩
      · have one : bindings.bindAll [(name, value)] = .ok after := by
          change bindings.bind name value >>= (fun after => .ok after) = _
          rw [bound]
          rfl
        rw [split, next, bound]
        exact ih (holds.bindAll one) sound later
      · refine .inr ⟨(name, value), ⟨given, rest, rfl, consistent, differs⟩, ?_⟩
        rw [next, failed]
        rfl

/-- New and distinct names can always be bound. -/
theorem exists_bindAll {entries : List (String × Value)} (distinct : (entries.map Prod.fst).Nodup)
    (fresh : ∀ entry ∈ entries, bindings.get? entry.1 = none) :
    ∃ after, bindings.bindAll entries = .ok after := by
  induction entries generalizing bindings with
  | nil => exact ⟨bindings, rfl⟩
  | cons entry rest ih =>
      obtain ⟨absent, distinct⟩ := List.nodup_cons.mp distinct
      obtain ⟨unbound, fresh⟩ := List.forall_mem_cons.mp fresh
      have bound : bindings.bind entry.1 entry.2 = .ok (bindings.insert entry.1 entry.2) := by
        unfold bind
        rw [unbound]
      have still : ∀ other ∈ rest, (bindings.insert entry.1 entry.2).get? other.1 = none := by
        intro other member
        have differs : other.1 ≠ entry.1 := fun same => absent (same ▸ List.mem_map_of_mem member)
        rw [Keyed.get?_insert_of_ne _ differs, fresh other member]
      obtain ⟨after, later⟩ := ih distinct still
      refine ⟨after, ?_⟩
      change bindings.bind entry.1 entry.2 >>= _ = _
      rw [bound]
      exact later

theorem bindAll_append (front behind : List (String × Value)) :
    bindings.bindAll (front ++ behind) = bindings.bindAll front >>= (·.bindAll behind) := by
  induction front generalizing bindings with
  | nil => rfl
  | cons entry rest ih =>
      change bindings.bind entry.1 entry.2 >>= (fun after => after.bindAll (rest ++ behind)) =
        (bindings.bind entry.1 entry.2 >>= fun after => after.bindAll rest) >>= _
      rw [bind_assoc]
      exact congrArg _ (funext fun after => ih)

/-- Distinct reserved names between those of the caller are never in the way. -/
theorem settles_bindAll {front generated behind : List (String × Value)}
    (unreserved : ∀ entry ∈ front ++ behind, isReserved entry.1 = false)
    (reserved : ∀ entry ∈ generated, isReserved entry.1 = true)
    (distinct : (generated.map Prod.fst).Nodup) :
    Settles (bindAll .empty (front ++ (generated ++ behind))) (Consistent (front ++ behind))
      fun cause => ∃ entry, BreaksAt Consistent (front ++ behind) entry ∧
        cause = .malformedFilter (.boundTwice entry.1) := by
  have early : ∀ entry ∈ front, isReserved entry.1 = false := fun entry member =>
    unreserved entry (List.mem_append_left _ member)
  have late : ∀ entry ∈ behind, isReserved entry.1 = false := fun entry member =>
    unreserved entry (List.mem_append_right _ member)
  have start : Holds .empty [] := fun _ _ => rfl
  apply settles_of_breaks prefixClosed_consistent
    fun entry => Cause.malformedFilter (.boundTwice entry.1)
  rw [bindAll_append]
  -- A fault is in front of the generated names, which bind without one, or behind them.
  rcases bindAll_outcome start List.Pairwise.nil early with
    ⟨consistent, first, bound⟩ | ⟨entry, breaks, failed⟩
  · have unbound : ∀ entry ∈ generated, first.get? entry.1 = none := by
      intro entry member
      rw [get?_bindAll bound]
      apply lookup_of_not_mem
      intro given
      obtain ⟨other, known, same⟩ := List.mem_map.mp given
      have free := early other known
      rw [same, reserved entry member] at free
      cases free
    obtain ⟨second, fresh⟩ := exists_bindAll distinct unbound
    have holds : second.Holds front := by
      intro name free
      have unmet : generated.lookup name = none := by
        apply lookup_of_not_mem
        intro member
        obtain ⟨entry, known, rfl⟩ := List.mem_map.mp member
        rw [reserved entry known] at free
        cases free
      rw [get?_bindAll fresh, unmet, Option.or_none]
      exact start.bindAll bound name free
    have whole : (Except.ok first >>= fun after => after.bindAll (generated ++ behind)) =
        second.bindAll behind := by
      change first.bindAll (generated ++ behind) = _
      rw [bindAll_append, fresh]
      rfl
    rw [bound, whole]
    exact bindAll_outcome holds consistent late
  · rw [failed]
    exact .inr ⟨entry, breaks.append behind, rfl⟩

end Bindings

/-! ## A whole read -/

namespace GetQuery

def idValue (query : GetQuery) : List (String × Value) := query.id.toList.map ("id", ·)

def pageValues (query : GetQuery) : List (String × Value) :=
  [("limit", .int64 query.page.meantLimit), ("offset", .int64 query.page.meantOffset)]

/-- The values that are given to names which are not generated, in order. -/
def givenValues (query : GetQuery) : List (String × Value) :=
  query.idValue ++ boundValues query.filters.explicit ++ query.pageValues

structure Sound (query : GetQuery) : Prop where
  requestKeys : ∀ key ∈ query.requestKeys, PassesRequest query.allowed key
  names : ∀ name ∈ boundNames query.filters.explicit, isReserved name = false
  filterKeys : ∀ key ∈ query.filters.filterKeys, Listed query.allowed key
  values : Consistent query.givenValues

/-- The first fault of a read, in the order of the stages and in the order of each list. -/
inductive FirstFault (query : GetQuery) : Cause → Prop where
  | requestKey {key : String}
      (first : BreaksAt (AllPass (PassesRequest query.allowed)) query.requestKeys key) :
      FirstFault query (requestFault key)
  | reservedName {name : String}
      (requestKeys : ∀ key ∈ query.requestKeys, PassesRequest query.allowed key)
      (first : BreaksAt (AllPass (isReserved · = false)) (boundNames query.filters.explicit) name) :
      FirstFault query (.malformedFilter (.reservedName name))
  | unlistedKey {key : String}
      (requestKeys : ∀ key ∈ query.requestKeys, PassesRequest query.allowed key)
      (names : ∀ name ∈ boundNames query.filters.explicit, isReserved name = false)
      (first : BreaksAt (AllPass (Listed query.allowed)) query.filters.filterKeys key) :
      FirstFault query (.fieldNotAllowed key)
  | boundTwice {entry : String × Value}
      (requestKeys : ∀ key ∈ query.requestKeys, PassesRequest query.allowed key)
      (names : ∀ name ∈ boundNames query.filters.explicit, isReserved name = false)
      (filterKeys : ∀ key ∈ query.filters.filterKeys, Listed query.allowed key)
      (first : BreaksAt Consistent query.givenValues entry) :
      FirstFault query (.malformedFilter (.boundTwice entry.1))

theorem bindings_eq (query : GetQuery) (predicates : List Predicate) :
    query.bindings predicates =
      Bindings.bindAll .empty (query.idValue ++ (boundValues predicates ++ query.pageValues)) := by
  have own : Bindings.bindOptional .empty "id" query.id =
      Bindings.bindAll .empty query.idValue := by
    unfold idValue
    cases query.id with
    | none => rfl
    | some value => exact (bind_pure _).symm
  have paged (before : Bindings) : before.bindAll query.pageValues =
      before.bind "limit" (.int64 query.page.effectiveLimit) >>= fun after =>
        after.bind "offset" (.int64 query.page.effectiveOffset) := by
    rw [query.page.effectiveLimit_eq, query.page.effectiveOffset_eq]
    exact congrArg (_ >>= ·) (funext fun _ => bind_pure _)
  unfold bindings
  simp only [own, Bindings.bindAll_append, paged]
  rfl

/-- The names of all given values may be bound by a caller. -/
theorem unreserved_givenValues {query : GetQuery}
    (names : ∀ name ∈ boundNames query.filters.explicit, isReserved name = false) :
    ∀ entry ∈ query.givenValues, isReserved entry.1 = false := by
  intro entry member
  rcases List.mem_append.mp member with front | page
  · rcases List.mem_append.mp front with own | given
    · obtain ⟨value, _, rfl⟩ := List.mem_map.mp own
      exact (by decide : isReserved "id" = false)
    · apply names
      rw [boundNames_eq]
      exact List.mem_map_of_mem given
  · rcases List.mem_pair.mp page with rfl | rfl
    · exact (by decide : isReserved "limit" = false)
    · exact (by decide : isReserved "offset" = false)

theorem settles_bindings {query : GetQuery} {predicates : List Predicate}
    (known : query.predicates = .ok predicates) :
    Settles (query.bindings predicates) (Consistent query.givenValues) fun cause =>
      ∃ entry, BreaksAt Consistent query.givenValues entry ∧
        cause = .malformedFilter (.boundTwice entry.1) := by
  obtain ⟨ofEntries, ofTerms, rfl, made⟩ := FilterSet.exists_made known
  rw [bindings_eq, boundValues_append, List.append_assoc, ← List.append_assoc]
  apply Bindings.settles_bindAll (unreserved_givenValues made.unreserved)
  · intro entry member
    apply made.reserved
    rw [boundNames_eq]
    exact List.mem_map_of_mem member
  · obtain ⟨count, names⟩ := made.names
    rw [← boundNames_eq, names]
    exact nodup_generatedNames .filter 1 count

/-- Making the predicates of a read fails first at reserved names, and then at keys off the list. -/
theorem settles_predicates (query : GetQuery) :
    Settles query.predicates
      (AllPass (isReserved · = false) (boundNames query.filters.explicit) ∧
        AllPass (Listed query.allowed) query.filters.filterKeys) fun cause =>
      (∃ name, BreaksAt (AllPass (isReserved · = false)) (boundNames query.filters.explicit) name ∧
        cause = .malformedFilter (.reservedName name)) ∨
      AllPass (isReserved · = false) (boundNames query.filters.explicit) ∧
        ∃ key, BreaksAt (AllPass (Listed query.allowed)) query.filters.filterKeys key ∧
          cause = .fieldNotAllowed key := by
  obtain ⟨made, known⟩ := query.filters.exists_predicates query.mapping query.allowed {}
  have inTurn : query.predicates =
      (boundNames query.filters.explicit).forM refuseReserved >>= fun _ =>
        query.filters.filterKeys.forM (checkAllowed query.allowed) >>= fun _ => .ok made.1 := by
    unfold GetQuery.predicates
    rw [known]
    cases (boundNames query.filters.explicit).forM refuseReserved with
    | error cause => rfl
    | ok => cases query.filters.filterKeys.forM (checkAllowed query.allowed) <;> rfl
  have ofNames := settles_forM checks_reserved (boundNames query.filters.explicit)
  have ofKeys := settles_forM (checks_allowed query.allowed) query.filters.filterKeys
  rw [inTurn]
  exact ofNames.bind fun _ _ => ofKeys.andThen fun _ => made.1

/-- The stages of a read, each with what it asks for and with the faults it finds. -/
theorem settles_compile (query : GetQuery) :
    Settles query.compile query.Sound query.FirstFault := by
  have ofKeys := settles_forM query.checks_requestKey query.requestKeys
  have whole := ofKeys.bind fun _ _ => query.settles_predicates.bind fun predicates known =>
    (settles_bindings known).andThen fun bindings =>
      bindings.compile (.select (query.statement predicates))
  refine ⟨whole.ok_iff.trans ⟨?_, ?_⟩, fun cause => (whole.error_iff cause).trans ⟨?_, ?_⟩⟩
  · rintro ⟨requestKeys, ⟨names, filterKeys⟩, values⟩
    exact ⟨requestKeys, names, filterKeys, values⟩
  · rintro ⟨requestKeys, names, filterKeys, values⟩
    exact ⟨requestKeys, ⟨names, filterKeys⟩, values⟩
  · rintro (⟨key, first, rfl⟩ | ⟨requestKeys, (⟨name, first, rfl⟩ | ⟨names, key, first, rfl⟩) |
      ⟨⟨names, filterKeys⟩, entry, first, rfl⟩⟩)
    · exact .requestKey first
    · exact .reservedName requestKeys first
    · exact .unlistedKey requestKeys names first
    · exact .boundTwice requestKeys names filterKeys first
  · intro fault
    cases fault with
    | requestKey first => exact .inl ⟨_, first, rfl⟩
    | reservedName requestKeys first => exact .inr ⟨requestKeys, .inl (.inl ⟨_, first, rfl⟩)⟩
    | unlistedKey requestKeys names first =>
        exact .inr ⟨requestKeys, .inl (.inr ⟨names, _, first, rfl⟩)⟩
    | boundTwice requestKeys names filterKeys first =>
        exact .inr ⟨requestKeys, .inr ⟨⟨names, filterKeys⟩, _, first, rfl⟩⟩

end GetQuery

/-- A read compiles exactly when it is without a fault, and else it is refused for its first. -/
theorem compiles_exactly_when (query : GetQuery) :
    ((∃ compiled, query.compile = .ok compiled) ↔ query.Sound) ∧
      ∀ cause, query.compile = .error cause ↔ query.FirstFault cause :=
  ⟨query.settles_compile.ok_iff, query.settles_compile.error_iff⟩

end RelationQuery
