/-!
# Sets of characters

A set of characters is kept as the code points at which membership changes, in increasing order.
Every combination of two sets is one merge of their changes; `insideAt_mergeChanges` says that the
merge combines membership place by place.
-/

namespace RelationQuery.Text

/-- Whether `n` is inside behind all changes up to it; `inside` holds in front of the first. -/
def insideAt : Bool → List Nat → Nat → Bool
  | inside, [], _ => inside
  | inside, change :: rest, n => if n < change then inside else insideAt (!inside) rest n

/-- Puts a place in front of others if something changes there. -/
def changeAt (before after : Bool) (place : Nat) (rest : List Nat) : List Nat :=
  if before == after then rest else place :: rest

/-- The changes of a combination, where `a` and `b` hold in front of the changes of the two. -/
def mergeChanges (combine : Bool → Bool → Bool) (a b : Bool) : List Nat → List Nat → List Nat
  | [], [] => []
  | x :: xs, [] =>
      changeAt (combine a b) (combine (!a) b) x (mergeChanges combine (!a) b xs [])
  | [], y :: ys =>
      changeAt (combine a b) (combine a (!b)) y (mergeChanges combine a (!b) [] ys)
  | x :: xs, y :: ys =>
      if x < y then
        changeAt (combine a b) (combine (!a) b) x (mergeChanges combine (!a) b xs (y :: ys))
      else if y < x then
        changeAt (combine a b) (combine a (!b)) y (mergeChanges combine a (!b) (x :: xs) ys)
      else
        changeAt (combine a b) (combine (!a) (!b)) x (mergeChanges combine (!a) (!b) xs ys)
  termination_by xs ys => xs.length + ys.length

theorem insideAt_of_lt {inside : Bool} {changes : List Nat} {n : Nat}
    (before : ∀ change ∈ changes, n < change) : insideAt inside changes n = inside := by
  cases changes with
  | nil => rfl
  | cons change rest => simp [insideAt, before change (by simp)]

theorem insideAt_changeAt {before after : Bool} {place n : Nat} {rest : List Nat}
    (behind : ∀ change ∈ rest, place ≤ change) :
    insideAt before (changeAt before after place rest) n =
      if n < place then before else insideAt after rest n := by
  unfold changeAt
  split
  · next same =>
    have same : before = after := by simpa using same
    subst same
    split
    · next front => exact insideAt_of_lt fun change member => Nat.lt_of_lt_of_le front (behind _ member)
    · rfl
  · next differs =>
    have flipped : (!before) = after := by
      cases before <;> cases after <;> simp_all
    rw [insideAt, flipped]

theorem mem_changeAt {before after : Bool} {place change : Nat} {rest : List Nat}
    (member : change ∈ changeAt before after place rest) : change = place ∨ change ∈ rest := by
  unfold changeAt at member
  split at member
  · exact Or.inr member
  · simpa using member

theorem mem_mergeChanges {combine : Bool → Bool → Bool} {a b : Bool} {xs ys : List Nat}
    {change : Nat} (member : change ∈ mergeChanges combine a b xs ys) :
    change ∈ xs ∨ change ∈ ys := by
  fun_induction mergeChanges combine a b xs ys with
  | case1 => simp at member
  | case2 a b x xs ih => rcases mem_changeAt member with same | further <;> grind
  | case3 a b y ys ih => rcases mem_changeAt member with same | further <;> grind
  | case4 a b x xs y ys less ih => rcases mem_changeAt member with same | further <;> grind
  | case5 a b x xs y ys _ less ih => rcases mem_changeAt member with same | further <;> grind
  | case6 a b x xs y ys _ _ ih => rcases mem_changeAt member with same | further <;> grind

theorem insideAt_mergeChanges (combine : Bool → Bool → Bool) {a b : Bool} {xs ys : List Nat}
    (sorted_xs : xs.Pairwise (· ≤ ·)) (sorted_ys : ys.Pairwise (· ≤ ·)) (n : Nat) :
    insideAt (combine a b) (mergeChanges combine a b xs ys) n =
      combine (insideAt a xs n) (insideAt b ys n) := by
  fun_induction mergeChanges combine a b xs ys with
  | case1 => rfl
  | case2 a b x xs ih =>
    rw [insideAt_changeAt fun change member => by
      grind [List.pairwise_cons, mem_mergeChanges member]]
    grind [insideAt, List.pairwise_cons]
  | case3 a b y ys ih =>
    rw [insideAt_changeAt fun change member => by
      grind [List.pairwise_cons, mem_mergeChanges member]]
    grind [insideAt, List.pairwise_cons]
  | case4 a b x xs y ys less ih =>
    rw [insideAt_changeAt fun change member => by
      grind [List.pairwise_cons, mem_mergeChanges member]]
    grind [insideAt, List.pairwise_cons]
  | case5 a b x xs y ys _ less ih =>
    rw [insideAt_changeAt fun change member => by
      grind [List.pairwise_cons, mem_mergeChanges member]]
    grind [insideAt, List.pairwise_cons]
  | case6 a b x xs y ys _ _ ih =>
    rw [insideAt_changeAt fun change member => by
      grind [List.pairwise_cons, mem_mergeChanges member]]
    grind [insideAt, List.pairwise_cons]

structure CharSet where
  changes : List Nat
  deriving DecidableEq, Repr

namespace CharSet

def contains (set : CharSet) (c : Char) : Bool := insideAt false set.changes c.toNat

def none : CharSet := ⟨[]⟩

/-- All characters: all code points but the surrogates. -/
def any : CharSet := ⟨[0, 0xD800, 0xE000, 0x110000]⟩

def union (a b : CharSet) : CharSet :=
  ⟨mergeChanges (fun a b => a || b) false false a.changes b.changes⟩

def intersection (a b : CharSet) : CharSet :=
  ⟨mergeChanges (fun a b => a && b) false false a.changes b.changes⟩

def difference (a b : CharSet) : CharSet :=
  ⟨mergeChanges (fun a b => a && !b) false false a.changes b.changes⟩

def symmetricDifference (a b : CharSet) : CharSet :=
  ⟨mergeChanges (fun a b => a != b) false false a.changes b.changes⟩

def complement (set : CharSet) : CharSet := any.difference set

def unionAll (sets : List CharSet) : CharSet := sets.foldl union none

def range (low high : Char) : CharSet :=
  if low ≤ high then intersection any ⟨[low.toNat, high.toNat + 1]⟩ else none

def single (c : Char) : CharSet := ⟨[c.toNat, c.toNat + 1]⟩

/-- The changes of a set of code points in increasing order, where some may stand twice. -/
def changesOfSorted : List Nat → List Nat
  | [] => []
  | n :: rest =>
      match changesOfSorted rest with
      | [] => [n, n + 1]
      | next :: others =>
          if next ≤ n then next :: others
          else if next = n + 1 then n :: others
          else n :: (n + 1) :: next :: others

def ofCodePoints (codes : List Nat) : CharSet := ⟨changesOfSorted (codes.mergeSort (· ≤ ·))⟩

def ofList (chars : List Char) : CharSet := ofCodePoints (chars.map Char.toNat)

def ranges (set : CharSet) : List (Nat × Nat) := go set.changes
where
  go : List Nat → List (Nat × Nat)
    | low :: past :: rest => (low, past - 1) :: go rest
    | _ => []

def isEmpty (set : CharSet) : Bool := set.changes.isEmpty

def isAscii (set : CharSet) : Bool := set.changes.all (· ≤ 128)

def only? (set : CharSet) : Option Char :=
  match set.changes with
  | [low, past] => if past = low + 1 then some (Char.ofNat low) else Option.none
  | _ => Option.none

end CharSet

end RelationQuery.Text
