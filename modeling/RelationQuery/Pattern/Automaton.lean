import Std.Data.HashMap
import RelationQuery.Pattern.Simplify
import RelationQuery.Text.CharSet

/-!
# How large the automata of a pattern are

A pattern is searched by automata over bytes, one that reads a text forward and one that reads it
backward, and it is refused if either takes too much memory. The automata are drafted here as far as
their size goes. A state takes 32 bytes; a state that chooses among others takes 4 bytes more for
each of them, and a state with ranges of bytes 8 bytes more for each range. States that read the
same bytes of characters are shared if a table of limited size still knows of them.

The characters of a range are written in UTF-8 as products of ranges of bytes: one range for each
place of a form. A range is cut where the number of bytes changes, and where a byte in front changes
while those behind it do not go through all their values.
-/

namespace RelationQuery.Pattern

/-! ## Characters as ranges of bytes -/

structure ByteRange where
  low : UInt8
  high : UInt8
  deriving DecidableEq, Repr

namespace ByteRange

def cutBehind (last : Nat) (range : Nat × Nat) : List (Nat × Nat) :=
  if range.1 ≤ last ∧ last < range.2 then [(range.1, last), (last + 1, range.2)] else [range]

/-- Cuts a range that goes over several blocks into what is left of the first block, whole blocks,
and the start of the last block. -/
def cutAtBlocks (block : Nat) (range : Nat × Nat) : List (Nat × Nat) :=
  let (low, high) := range
  if low / block = high / block then [range]
  else
    let first := (low + block - 1) / block * block
    let last := (high + 1) / block * block
    (if low < first then [(low, first - 1)] else []) ++
      (if first < last then [(first, last - 1)] else []) ++
      (if last ≤ high then [(last, high)] else [])

/-- The ranges of code points whose forms have one length each and are products of byte ranges. -/
def evenRanges (range : Nat × Nat) : List (Nat × Nat) :=
  let byLength := [0x7F, 0x7FF, 0xFFFF].foldl (fun ranges last => ranges.flatMap (cutBehind last))
    [range]
  [0x40, 0x1000, 0x40000].foldl
    (fun ranges block => ranges.flatMap fun range =>
      if range.2 ≤ 0x7F then [range] else cutAtBlocks block range) byLength

def form (range : Nat × Nat) : List ByteRange :=
  List.zipWith ByteRange.mk (String.utf8EncodeChar (Char.ofNat range.1))
    (String.utf8EncodeChar (Char.ofNat range.2))

def forms (chars : Text.CharSet) : List (List ByteRange) :=
  chars.ranges.flatMap fun range => (evenRanges range).map form

end ByteRange

/-! ## Drafts -/

/-- An automaton that is being drafted: how many states it has, and the bytes of the lists that
belong to them. States are numbered in the order in which they are placed. -/
structure Draft where
  states : Nat
  listBytes : Nat
  deriving DecidableEq, Repr

namespace Draft

def bytes (draft : Draft) : Nat := draft.states * 32 + draft.listBytes

def limit : Nat := 10485760

def checked? (draft : Draft) : Option Draft := if draft.bytes ≤ limit then some draft else none

def place? (draft : Draft) (states listBytes : Nat) : Option Draft :=
  checked? ⟨draft.states + states, draft.listBytes + listBytes⟩

end Draft

/-- What a part of an automaton leaves: the draft, and whether the state at its end is one that
chooses, which takes 4 bytes more for whatever follows. -/
structure Drafted where
  draft : Draft
  choosesAtEnd : Bool

namespace Drafted

def connect? (drafted : Drafted) : Option Draft :=
  if drafted.choosesAtEnd then drafted.draft.place? 0 4 else some drafted.draft

end Drafted

/-! ## Characters -/

def hashStep (hash : UInt64) (n : Nat) : UInt64 := (hash ^^^ n.toUInt64) * 1099511628211

def hashStart : UInt64 := 14695981039346656037

structure Arrow where
  range : ByteRange
  target : Nat
  deriving DecidableEq

namespace Arrow

def hash (hash : UInt64) (arrow : Arrow) : UInt64 :=
  hashStep (hashStep (hashStep hash arrow.range.low.toNat) arrow.range.high.toNat) arrow.target

/-- The place of the arrows of a state in a table of ten thousand places. -/
def slot (arrows : List Arrow) : Nat := (arrows.foldl hash hashStart).toNat % 10000

end Arrow

/-- The states known so far, by places of a table; a later state takes the place of an earlier
one. -/
abbrev Known (α : Type) := Std.HashMap Nat (α × Nat)

def Known.state? {α : Type} [DecidableEq α] (known : Known α) (slot : Nat) (key : α) : Option Nat :=
  match known[slot]? with
  | some (other, state) => if other = key then some state else none
  | none => none

structure Shared (α : Type) where
  draft : Draft
  known : Known α

def Shared.state? (shared : Shared (List Arrow)) (arrows : List Arrow) :
    Option (Shared (List Arrow) × Nat) :=
  let slot := Arrow.slot arrows
  match shared.known.state? slot arrows with
  | some state => some (shared, state)
  | none => do
      let draft ← shared.draft.place? 1 (8 * arrows.length)
      let state := shared.draft.states
      some (⟨draft, shared.known.insert slot (arrows, state)⟩, state)

/-- A state that is not placed yet: its arrows, the last first, and a range that leads to the state
of the next place of the form. -/
structure OpenState where
  arrows : List Arrow
  last : Option ByteRange

namespace OpenState

def withTarget (state : OpenState) (target : Nat) : OpenState :=
  match state.last with
  | some range => ⟨⟨range, target⟩ :: state.arrows, none⟩
  | none => state

/-- Places open states, each of which leads to the next; the last one leads to `target`. -/
def close? (target : Nat) :
    List OpenState → Shared (List Arrow) → Option (Shared (List Arrow) × Nat)
  | [], shared => some (shared, target)
  | state :: further, shared => do
      let (shared, next) ← close? target further shared
      shared.state? (state.withTarget next).arrows.reverse

/-- Adds a form to the open states of the form before it. What the two have in common stays open;
what only the earlier one has is placed. -/
def add? (target : Nat) :
    List ByteRange → List OpenState → Shared (List Arrow) →
      Option (Shared (List Arrow) × List OpenState)
  | [], spine, shared => some (shared, spine)
  | form, [], shared => some (shared, form.map fun range => ⟨[], some range⟩)
  | range :: form, state :: further, shared =>
      if state.last = some range then do
        let (shared, further) ← add? target form further shared
        some (shared, state :: further)
      else do
        let (shared, next) ← close? target further shared
        some (shared, ⟨(state.withTarget next).arrows, some range⟩ ::
          form.map fun range => ⟨[], some range⟩)

def addAll? (target : Nat) :
    List (List ByteRange) → List OpenState → Shared (List Arrow) →
      Option (Shared (List Arrow) × List OpenState)
  | [], spine, shared => some (shared, spine)
  | form :: forms, spine, shared => do
      let (shared, spine) ← add? target form spine shared
      addAll? target forms spine shared

end OpenState

/-- A set of characters read forward. The forms come in increasing order, so equal ends of theirs
are found as soon as they are complete. -/
def forwardSet? (chars : Text.CharSet) (draft : Draft) : Option Draft := do
  let target := draft.states
  let draft ← draft.place? 1 0
  let (shared, spine) ←
    OpenState.addAll? target (ByteRange.forms chars) [⟨[], none⟩] ⟨draft, {}⟩
  let (shared, _) ← OpenState.close? target spine shared
  some shared.draft

def Arrow.backwardSlot (arrow : Arrow) : Nat :=
  (hashStep (hashStep (hashStep hashStart arrow.target) arrow.range.low.toNat)
    arrow.range.high.toNat).toNat % 1000

def backwardForm? : List ByteRange → Nat → Shared Arrow → Option (Shared Arrow)
  | [], _, shared => (shared.draft.place? 0 4).map fun draft => ⟨draft, shared.known⟩
  | range :: form, target, shared =>
      let arrow : Arrow := ⟨range, target⟩
      match shared.known.state? arrow.backwardSlot arrow with
      | some state => backwardForm? form state shared
      | none => do
          let draft ← shared.draft.place? 1 0
          let state := shared.draft.states
          backwardForm? form state ⟨draft, shared.known.insert arrow.backwardSlot (arrow, state)⟩

def backwardForms? : List (List ByteRange) → Nat → Shared Arrow → Option (Shared Arrow)
  | [], _, shared => some shared
  | form :: forms, target, shared => do
      backwardForms? forms target (← backwardForm? form target shared)

/-- A set of characters read backward: a choice among the forms. -/
def backwardSet? (chars : Text.CharSet) (draft : Draft) : Option Draft := do
  let target := draft.states + 1
  let shared ← backwardForms? (ByteRange.forms chars) target ⟨← draft.place? 2 0, {}⟩
  some shared.draft

inductive Direction where
  | forward
  | backward
  deriving DecidableEq, Repr

/-- A set of characters. ASCII characters need one state for all ranges. -/
def draftSet? (direction : Direction) (chars : Text.CharSet) (draft : Draft) : Option Draft :=
  if chars.isAscii then draft.place? 2 (8 * chars.ranges.length)
  else
    match direction with
    | .forward => forwardSet? chars draft
    | .backward => backwardSet? chars draft

/-! ## Literals -/

def utf8 (text : List Char) : List UInt8 := text.flatMap String.utf8EncodeChar

/-- The states and the list bytes of a tree of literals, without the state at its end. What follows
a literal that ends in a node is kept apart from what comes in front of it. -/
def treeSize : Nat → List (List UInt8) → Nat × Nat
  | 0, _ => (0, 0)
  | fuel + 1, literals =>
      if literals.all List.isEmpty then (0, 0)
      else
        let literals := match literals.head? with
          | some [] => [] :: literals.dropWhile List.isEmpty
          | _ => literals
        let runs := literals.splitOnP List.isEmpty
        let filled := runs.filter fun run => !run.isEmpty
        let inner := filled.map fun run =>
          let firsts := (run.filterMap List.head?).eraseDups
          let below := firsts.map fun byte =>
            treeSize fuel ((run.filter fun literal => literal.head? == some byte).map List.tail)
          ((below.map (·.1)).sum + 1,
            (below.map (·.2)).sum + if firsts.length = 1 then 0 else 8 * firsts.length)
        ((inner.map (·.1)).sum + 1,
          (inner.map (·.2)).sum + 4 * (filled.length + (runs.length - 1)))

def literal? : Pattern → Option (List Char)
  | .literal text => some text
  | _ => none

/-- A choice among literals is a tree. -/
def draftTree? (direction : Direction) (literals : List (List Char)) (draft : Draft) :
    Option Draft :=
  let forms := literals.map fun text =>
    match direction with
    | .forward => utf8 text
    | .backward => (utf8 text).reverse
  let size := treeSize (forms.foldl (fun most form => max most form.length) 0 + 1) forms
  draft.place? (size.1 + 1) size.2

/-! ## The whole -/

/-- A part that is drafted in front of more parts, some of which may be there already. -/
def follow? (step : Draft → Option Drafted) (drafted : Drafted) : Option Drafted := do
  step (← drafted.connect?)

def draftTimes? (step : Draft → Option Drafted) : Nat → Drafted → Option Drafted
  | 0, drafted => some drafted
  | count + 1, drafted =>
      match follow? step drafted with
      | some drafted => draftTimes? step count drafted
      | none => none

/-- As many parts in a row as are given; none at all take an empty state. -/
def draftExactly? (step : Draft → Option Drafted) (count : Nat) (draft : Draft) :
    Option Drafted :=
  match count with
  | 0 => do some ⟨← draft.place? 1 0, false⟩
  | count + 1 => do draftTimes? step count (← step draft)

def draftOptional? (step : Draft → Option Drafted) (draft : Draft) : Option Drafted := do
  step (← draft.place? 1 8)

def draftEndless? (step : Draft → Option Drafted) (consumes : Bool) (least : Nat) (draft : Draft) :
    Option Drafted :=
  match least with
  | 0 =>
      if consumes then do
        let inner ← step (← draft.place? 1 4)
        some ⟨← inner.connect?, true⟩
      else do
        let inner ← (← step draft).connect?
        some ⟨← inner.place? 3 16, false⟩
  | least + 1 => do
      let last ← draftTimes? step least (← step draft)
      some ⟨← (← last.connect?).place? 1 4, true⟩

def draftBounded? (step : Draft → Option Drafted) (least most : Nat) (draft : Draft) :
    Option Drafted := do
  let front ← draftExactly? step least draft
  let last ← draftTimes? (draftOptional? step) (most - least)
    ⟨← front.draft.place? 1 0, front.choosesAtEnd⟩
  some ⟨← last.connect?, false⟩

def draftRepeated? (step : Draft → Option Drafted) (consumes : Bool) (least : Nat)
    (most : Option Nat) (draft : Draft) : Option Drafted :=
  match most with
  | none => draftEndless? step consumes least draft
  | some most =>
      if least = 0 ∧ most = 1 then do
        let inner ← draftOptional? step draft
        some ⟨← (← inner.connect?).place? 1 0, false⟩
      else if least = most then draftExactly? step least draft
      else draftBounded? step least most draft

mutual

def draft? (direction : Direction) : Pattern → Draft → Option Drafted
  | .empty, draft => do some ⟨← draft.place? 1 0, false⟩
  | .literal text, draft => do some ⟨← draft.place? (utf8 text).length 0, false⟩
  | .set chars, draft => do some ⟨← draftSet? direction chars draft, false⟩
  | .look _, draft => do some ⟨← draft.place? 1 0, false⟩
  | .group _ pattern, draft =>
      match direction with
      | .forward => do
          let inner ← draft? direction pattern (← draft.place? 1 0)
          some ⟨← (← inner.connect?).place? 1 0, false⟩
      | .backward => draft? direction pattern draft
  | .repeated pattern least most _, draft =>
      draftRepeated? (draft? direction pattern) pattern.consumes least most draft
  | .sequence parts, draft =>
      match direction with
      | .forward => draftForward? direction parts ⟨draft, false⟩
      | .backward => draftBackward? direction parts ⟨draft, false⟩
  | .choice branches, draft =>
      match branches.mapM literal? with
      | some literals => do some ⟨← draftTree? direction literals draft, false⟩
      | none => do some ⟨← draftBranches? direction 2 branches draft, false⟩

def draftForward? (direction : Direction) : List Pattern → Drafted → Option Drafted
  | [], drafted => some drafted
  | part :: parts, drafted => do
      draftForward? direction parts (← follow? (draft? direction part) drafted)

def draftBackward? (direction : Direction) : List Pattern → Drafted → Option Drafted
  | [], drafted => some drafted
  | part :: parts, drafted => do
      follow? (draft? direction part) (← draftBackward? direction parts drafted)

/-- Drafts branches, each of which is chosen at the front and connected at its end. The states for
this are placed when `ahead` branches are. -/
def draftBranches? (direction : Direction) : Nat → List Pattern → Draft → Option Draft
  | _, [], draft => some draft
  | ahead, branch :: branches, draft => do
      let inner ← (← draft? direction branch draft).connect?
      draftBranches? direction (ahead - 1) branches
        (← inner.place? (if ahead = 1 then 2 else 0) 4)

end

/-- Drafts the automaton of a whole pattern. Unless a match can only be at the edge where the
reading starts, it may start anywhere; the forward automaton remembers the place of the match. -/
def draftWhole? (direction : Direction) (pattern : Pattern) : Option Draft := do
  let anchored := match direction with
    | .forward => pattern.startsWith .textStart
    | .backward => pattern.endsWith .textEnd
  let front ← if anchored then Draft.place? ⟨0, 0⟩ 1 0 else Draft.place? ⟨0, 0⟩ 3 16
  let whole := match direction with
    | .forward => .group 0 pattern
    | .backward => pattern
  let inner ← (← draft? direction whole front).connect?
  inner.place? 1 0

/-- Whether a pattern is a choice among so many literals that they are looked up in a table of their
own, and no automaton is built. -/
def isWordList : Pattern → Bool
  | .choice branches => 3000 ≤ branches.length && branches.all fun branch => branch.literal?.isSome
  | _ => false

/-- Whether both automata of a pattern have a size that is allowed, if they are needed. -/
def isSmall (pattern : Pattern) : Bool :=
  pattern.isWordList ||
    (draftWhole? .forward pattern).isSome && (draftWhole? .backward pattern).isSome

end RelationQuery.Pattern
