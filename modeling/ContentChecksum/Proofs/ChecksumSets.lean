import ContentChecksum.Checksum.Set
import ContentChecksum.Proofs.StoredForms
import Mathlib.Data.Finset.Card

namespace ContentChecksum.Checksum

/-!
# Checksums, and sets of them, as pairs

Checksums are compared and hashed by their canonical forms.  No two pairs of version and digest have
the same form (`canonical_inj`), so a checksum may be thought of as its pair, and a hash set of
checksums as a finite set of pairs.

* `pair`, `Set.pairs` — a checksum and a set seen this way;
* `Set.Call` — what can be asked of a set, done on a hash set by `Set.Call.perform` and on a finite set
  of pairs by `Set.Call.onPairs`;
* `Set.perform_pairs` — one call does the same to both, and has the same answer;
* `Set.performAll_pairs` — hence so do any calls in a row;
* `checksums_are_pairs` — comparing, and calls on a set, in terms of pairs.
-/

/-! ### One checksum -/

/-- Equal canonical forms are equal checksums, so hash sets are lawful. -/
instance : LawfulBEq Checksum where
  rfl := beq_eq_true_iff.2 rfl
  eq_of_beq := beq_eq_true_iff.1

/-- A checksum as a pair of version and digest. -/
def pair (c : Checksum) : Nat × String :=
  (c.version, c.digest)

/-- A checksum is told by its pair. -/
theorem pair_inj {a b : Checksum} : a.pair = b.pair ↔ a = b := by
  rw [pair, pair, Prod.mk.injEq, eq_iff]

/-- Every pair is that of a checksum. -/
theorem exists_pair_eq (p : Nat × String) : ∃ c : Checksum, c.pair = p :=
  ⟨⟨p.1, p.2⟩, rfl⟩

namespace Set

/-! ### A set and its pairs -/

/-- The members of a set, as pairs. -/
def pairs (s : Set) : Finset (Nat × String) :=
  (s.toList.map pair).toFinset

variable {s : Set} {c : Checksum}

/-- The pairs of a set are those of its members. -/
@[simp] theorem pair_mem_pairs : c.pair ∈ pairs s ↔ c ∈ s := by
  simp only [pairs, List.mem_toFinset, List.mem_map, pair_inj, exists_eq_right,
    Std.HashSet.mem_toList]

/-- A set lists each of its pairs once. -/
theorem nodup_map_pair (s : Set) : (s.toList.map pair).Nodup := by
  rw [List.Nodup, List.pairwise_map]
  refine Std.HashSet.distinct_toList.imp ?_
  intro a b hne hpair
  rw [pair_inj.1 hpair, BEq.rfl] at hne
  exact nomatch hne

/-- It has as many members as pairs. -/
theorem card_pairs (s : Set) : (pairs s).card = s.size := by
  rw [pairs, List.toFinset_card_of_nodup (nodup_map_pair s), List.length_map,
    Std.HashSet.length_toList]

/-- Sets of pairs are told apart by the checksums whose pairs are in them. -/
theorem pairs_ext {m m' : Finset (Nat × String)}
    (h : ∀ c : Checksum, c.pair ∈ m ↔ c.pair ∈ m') : m = m' := by
  ext p
  obtain ⟨c, rfl⟩ := exists_pair_eq p
  exact h c

/-- A new set has none. -/
theorem pairs_empty : pairs empty = ∅ := by
  apply pairs_ext
  intro c
  rw [pair_mem_pairs]
  simp [empty]

/-! ### One call -/

/-- Putting in tells whether the checksum was missing. -/
theorem insert_eq (s : Set) (c : Checksum) :
    insert s c = (!s.contains c, Std.HashSet.insert s c) := by
  rw [insert, ← Std.HashSet.containsThenInsert_fst, ← Std.HashSet.containsThenInsert_snd]

/-- Putting a checksum in puts its pair in. -/
theorem pairs_insert (s : Set) (c : Checksum) :
    pairs (insert s c).2 = Insert.insert c.pair (pairs s) := by
  apply pairs_ext
  intro x
  rw [insert_eq, pair_mem_pairs, Std.HashSet.mem_insert, beq_iff_eq, Finset.mem_insert,
    pair_mem_pairs, pair_inj, eq_comm]

/-- Taking it out takes its pair out. -/
theorem pairs_remove (s : Set) (c : Checksum) :
    pairs (remove s c).2 = (pairs s).erase c.pair := by
  apply pairs_ext
  intro x
  rw [remove, pair_mem_pairs, Std.HashSet.mem_erase, beq_eq_false_iff_ne, Finset.mem_erase,
    pair_mem_pairs, ne_eq, ne_eq, pair_inj, eq_comm]

/-- A checksum is looked for by its pair. -/
theorem contains_eq (s : Set) (c : Checksum) : s.contains c = decide (c.pair ∈ pairs s) := by
  rw [Bool.eq_iff_iff, decide_eq_true_iff, pair_mem_pairs, Std.HashSet.mem_iff_contains]

/-- What can be asked of a set. -/
inductive Call
  | insert (c : Checksum)
  | contains (c : Checksum)
  | remove (c : Checksum)

/-- A call on a hash set: the answer, and the set after it. -/
def Call.perform : Call → Set → Bool × Set
  | .insert c, s => Set.insert s c
  | .contains c, s => (s.contains c, s)
  | .remove c, s => Set.remove s c

/-- A call on a set of pairs. -/
def Call.onPairs : Call → Finset (Nat × String) → Bool × Finset (Nat × String)
  | .insert c, m => (decide (c.pair ∉ m), Insert.insert c.pair m)
  | .contains c, m => (decide (c.pair ∈ m), m)
  | .remove c, m => (decide (c.pair ∈ m), m.erase c.pair)

/-- **One call.** It has the answer that it has on the pairs, and does to them what it does there. -/
theorem perform_pairs (call : Call) (s : Set) :
    call.onPairs (pairs s) = ((call.perform s).1, pairs (call.perform s).2) := by
  cases call with
  | insert c =>
    have hanswer : (insert s c).1 = decide (c.pair ∉ pairs s) := by
      rw [insert_eq, contains_eq, decide_not]
    exact Prod.ext hanswer.symm (pairs_insert s c).symm
  | contains c => exact Prod.ext (contains_eq s c).symm rfl
  | remove c => exact Prod.ext (contains_eq s c).symm (pairs_remove s c).symm

/-! ### Calls in a row -/

/-- Calls one after the other, each made by `step`: all answers in order, and the set after the last. -/
def performAll {σ : Type} (step : Call → σ → Bool × σ) : List Call → σ → List Bool × σ
  | [], s => ([], s)
  | call :: calls, s =>
    let (answers, s') := performAll step calls (step call s).2
    ((step call s).1 :: answers, s')

/-- **Calls in a row.** All answers are those that there are on the pairs, and so is what is left. -/
theorem performAll_pairs (calls : List Call) (s : Set) :
    performAll Call.onPairs calls (pairs s) =
      ((performAll Call.perform calls s).1, pairs (performAll Call.perform calls s).2) := by
  induction calls generalizing s with
  | nil => rfl
  | cons call calls ih => simp only [performAll, perform_pairs, ih]

end Set

/-- **Checksums are pairs.** Whatever the versions and digests are, two canonical forms are the same only
    if both are.  So comparing finds no change if both agree, a change of content if only the digests
    differ, and another algorithm, with both versions named, if the versions differ.  And calls on a
    hash set of checksums, in any number and order, have the answers that they have on the set of its
    pairs, and leave the pairs that they leave there, each listed once and counted once. -/
theorem checksums_are_pairs :
    (∀ a b : Checksum, a.canonical = b.canonical ↔ a.version = b.version ∧ a.digest = b.digest) ∧
    (∀ a b : Checksum, (a == b) = true ↔ a.version = b.version ∧ a.digest = b.digest) ∧
    (∀ stored fresh : Checksum,
      (compare stored fresh = .unchanged ↔
        stored.version = fresh.version ∧ stored.digest = fresh.digest) ∧
      (compare stored fresh = .changed ↔
        stored.version = fresh.version ∧ stored.digest ≠ fresh.digest) ∧
      (∀ old new, compare stored fresh = .algorithmChanged old new ↔
        old = stored.version ∧ new = fresh.version ∧ stored.version ≠ fresh.version)) ∧
    Set.pairs Set.empty = ∅ ∧
    ∀ (calls : List Set.Call) (s : Set),
      (Set.performAll Set.Call.perform calls s).1 =
        (Set.performAll Set.Call.onPairs calls (Set.pairs s)).1 ∧
      Set.pairs (Set.performAll Set.Call.perform calls s).2 =
        (Set.performAll Set.Call.onPairs calls (Set.pairs s)).2 ∧
      ((Set.performAll Set.Call.perform calls s).2.toList.map pair).Nodup ∧
      (Set.performAll Set.Call.perform calls s).2.size =
        (Set.performAll Set.Call.onPairs calls (Set.pairs s)).2.card := by
  refine ⟨fun a b => canonical_inj.trans eq_iff, fun a b => beq_eq_true_iff.trans eq_iff,
    fun stored fresh => ⟨?_, compare_eq_changed_iff, fun old new => ?_⟩, Set.pairs_empty, ?_⟩
  · exact compare_eq_unchanged_iff.trans eq_iff
  · exact compare_eq_algorithmChanged_iff
  · intro calls s
    -- one statement on both the answers and the pairs, so that either can be read off
    rw [Set.performAll_pairs]
    exact ⟨rfl, rfl, Set.nodup_map_pair _, (Set.card_pairs _).symm⟩

end ContentChecksum.Checksum
