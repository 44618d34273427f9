/-!
# Look-up of code points in sorted tables

A property of characters is given as a sorted list of entries `(first, last, value)`, one for each
run of code points that share a value.  `RangeTree.ofEntries` folds such a list into a search tree
that is as flat as the number of its entries allows, and `find?` walks down one branch of it.  A
list in another order is sorted first (`sortEntries`).
-/

namespace ContentChecksum.Unicode

/-- A run of code points, from `first` to `last`, with the value they share. -/
structure RangeEntry (α : Type) where
  first : Nat
  last : Nat
  value : α
deriving Repr

/-- A search tree over disjoint runs, smaller ones to the left. -/
inductive RangeTree (α : Type)
  | leaf
  | node (left : RangeTree α) (entry : RangeEntry α) (right : RangeTree α)

namespace RangeTree

variable {α : Type}

/-- The value of the run that holds `x`. -/
def find? : RangeTree α → Nat → Option α
  | leaf, _ => none
  | node left entry right, x =>
    if x < entry.first then left.find? x
    else if entry.last < x then right.find? x
    else some entry.value

/-- A tree of the given depth over the first entries of a list, and the entries that did not find
room in it. -/
def build : Nat → List (RangeEntry α) → RangeTree α × List (RangeEntry α)
  | 0, entries => (leaf, entries)
  | depth + 1, entries =>
    match build depth entries with
    | (left, []) => (left, [])
    | (left, entry :: rest) =>
      match build depth rest with
      | (right, rest) => (node left entry right, rest)

/-- The tree over all entries of a sorted list. -/
def ofEntries (entries : List (RangeEntry α)) : RangeTree α :=
  (build (entries.length.log2 + 1) entries).1

/-- The entries of a tree from left to right. -/
def toList : RangeTree α → List (RangeEntry α)
  | leaf => []
  | node left entry right => left.toList ++ entry :: right.toList

/-! ### Sorting entries

Merging is written as two nested loops over lists, so that it also runs inside the kernel, where the
facts about a whole table are checked. -/

/-- Merge `x` and what follows it into a list; `mergeRest` merges what follows `x`. -/
def mergeFrom (x : RangeEntry α) (rest : List (RangeEntry α))
    (mergeRest : List (RangeEntry α) → List (RangeEntry α)) :
    List (RangeEntry α) → List (RangeEntry α)
  | [] => x :: rest
  | y :: ys =>
    if x.first ≤ y.first then x :: mergeRest (y :: ys) else y :: mergeFrom x rest mergeRest ys

/-- Merge two sorted lists. -/
def merge : List (RangeEntry α) → List (RangeEntry α) → List (RangeEntry α)
  | [] => id
  | x :: rest => mergeFrom x rest (merge rest)

/-- Sort the first `2 ^ depth` entries of a list; the second list is what lies behind them. -/
def sortFront : Nat → List (RangeEntry α) → List (RangeEntry α) × List (RangeEntry α)
  | 0, [] => ([], [])
  | 0, e :: rest => ([e], rest)
  | depth + 1, entries =>
    match sortFront depth entries with
    | (front, []) => (front, [])
    | (front, rest) =>
      match sortFront depth rest with
      | (back, rest) => (merge front back, rest)

/-- The entries in the order of their first code points. -/
def sortEntries (entries : List (RangeEntry α)) : List (RangeEntry α) :=
  (sortFront (entries.length.log2 + 1) entries).1

/-! ### Nothing is lost on the way into the tree -/

/-- No entry is lost: those that a tree does not take up are left over. -/
theorem toList_build (depth : Nat) (entries : List (RangeEntry α)) :
    (build depth entries).1.toList ++ (build depth entries).2 = entries := by
  induction depth generalizing entries with
  | zero => rfl
  | succ depth ih =>
    simp only [build]
    have hl := ih entries
    split
    · rename_i left hb
      rw [hb] at hl; simpa using hl
    · rename_i left entry rest hb
      rw [hb] at hl
      have hr := ih rest
      simp only [toList, List.append_assoc, List.cons_append]
      rw [hr]; exact hl

/-- A tree takes up as many as its depth has room for. -/
theorem length_build_le (depth : Nat) (entries : List (RangeEntry α)) :
    (build depth entries).2.length ≤ entries.length + 1 - Nat.pow 2 depth := by
  induction depth generalizing entries with
  | zero => simp [build]
  | succ depth ih =>
    simp only [build]
    have hl := ih entries
    split
    · simp
    · rename_i left entry rest hb
      rw [hb] at hl
      have hr := ih rest
      have hpow : Nat.pow 2 (depth + 1) = 2 * Nat.pow 2 depth := Nat.pow_succ'
      simp only [List.length_cons, hpow] at hl hr ⊢
      omega

/-- The tree holds exactly the entries of the list, in their order. -/
@[simp] theorem toList_ofEntries (entries : List (RangeEntry α)) :
    (ofEntries entries).toList = entries := by
  have h := toList_build (entries.length.log2 + 1) entries
  have hlen := length_build_le (entries.length.log2 + 1) entries
  have hpow : entries.length + 1 ≤ Nat.pow 2 (entries.length.log2 + 1) := Nat.lt_log2_self
  have : (build (entries.length.log2 + 1) entries).2 = [] := by
    apply List.eq_nil_of_length_eq_zero; omega
  rw [this, List.append_nil] at h
  exact h

end RangeTree

/-! ### Sets of code points -/

/-- A tree that only tells whether a code point is in one of the runs. -/
def runTree (runs : List (Nat × Nat)) : RangeTree Unit :=
  .ofEntries (runs.map fun (first, last) => ⟨first, last, ()⟩)

/-- Whether a code point is in one of the runs. -/
def RangeTree.covers (t : RangeTree Unit) (x : Nat) : Bool :=
  (t.find? x).isSome

-- Four runs make a tree of depth three.
example : (RangeTree.ofEntries [⟨1, 3, 'a'⟩, ⟨5, 5, 'b'⟩, ⟨7, 9, 'c'⟩, ⟨20, 30, 'd'⟩]).find? 8 =
    some 'c' := by decide

end ContentChecksum.Unicode
