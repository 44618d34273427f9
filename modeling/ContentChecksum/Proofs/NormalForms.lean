import ContentChecksum.Unicode.NormalForm

namespace ContentChecksum.Unicode

/-!
# Characters that normal forms do not make

Canonical composition takes a text apart by the tables and puts it together again by the tables, so
the only new characters in its result are those the tables name and the letters and syllables of
Hangul.  `Inert` says of a character that it is none of these:

* `RangeTree.exists_mem_of_find?` / `RangeTree.mem_of_mem_sortEntries` — what a look-up answers
  stands in the list the tree was made from, sorted or not;
* `Inert.mem_of_mem_decompose`, `mem_reorder`, `Inert.mem_of_mem_compose` — none of the three passes
  makes an inert character.  The last comes from a single step of the composition
  (`Inert.mem_of_mem_flush_push`) by induction over the text;
* `Inert.mem_of_mem_nfc` — neither do all of them together.
-/

/-! ### Look-up in trees -/

namespace RangeTree

variable {α : Type}

/-- A value that is found is the value of some entry, one that holds what was looked for. -/
theorem exists_mem_of_find? {t : RangeTree α} {x : Nat} {v : α} (h : t.find? x = some v) :
    ∃ e ∈ t.toList, e.first ≤ x ∧ x ≤ e.last ∧ e.value = v := by
  induction t with
  | leaf => simp [find?] at h
  | node left entry right ihl ihr =>
    rw [find?] at h
    split at h
    · obtain ⟨e, he, hv⟩ := ihl h
      exact ⟨e, List.mem_append_left _ he, hv⟩
    · split at h
      · obtain ⟨e, he, hv⟩ := ihr h
        exact ⟨e, List.mem_append_right _ (List.mem_cons_of_mem _ he), hv⟩
      · exact ⟨entry, List.mem_append_right _ List.mem_cons_self, Nat.le_of_not_lt ‹_›,
          Nat.le_of_not_lt ‹_›, Option.some.inj h⟩

/-- Merging in one entry and what follows it, when what follows it is merged in correctly. -/
theorem mem_mergeFrom {e x : RangeEntry α} {rest : List (RangeEntry α)}
    {mergeRest : List (RangeEntry α) → List (RangeEntry α)}
    (hrest : ∀ ys, e ∈ mergeRest ys ↔ e ∈ rest ∨ e ∈ ys) (ys : List (RangeEntry α)) :
    e ∈ mergeFrom x rest mergeRest ys ↔ e ∈ x :: rest ∨ e ∈ ys := by
  induction ys with
  | nil => simp [mergeFrom]
  | cons y ys ih =>
    rw [mergeFrom]
    split
    · rw [List.mem_cons, hrest, List.mem_cons (l := rest), or_assoc]
    · rw [List.mem_cons, ih, List.mem_cons (l := ys), or_left_comm]

/-- Merging two lists loses nothing and adds nothing. -/
theorem mem_merge {e : RangeEntry α} (xs ys : List (RangeEntry α)) :
    e ∈ merge xs ys ↔ e ∈ xs ∨ e ∈ ys := by
  induction xs generalizing ys with
  | nil => simp [merge]
  | cons x rest ih => exact mem_mergeFrom ih ys

/-- The sorted front and what lies behind it hold the same entries as the list. -/
theorem mem_sortFront {e : RangeEntry α} (depth : Nat) (entries : List (RangeEntry α)) :
    e ∈ (sortFront depth entries).1 ∨ e ∈ (sortFront depth entries).2 ↔ e ∈ entries := by
  induction depth generalizing entries with
  | zero => cases entries <;> simp [sortFront]
  | succ depth ih =>
    have hfront := ih entries
    rw [sortFront]
    split
    · rename_i front heq
      rw [heq] at hfront
      exact hfront
    · rename_i front rest _ heq
      rw [heq] at hfront
      have hback := ih rest
      show e ∈ merge front _ ∨ _ ↔ _
      rw [mem_merge, or_assoc, hback, hfront]

/-- Sorting adds no entry. -/
theorem mem_of_mem_sortEntries {e : RangeEntry α} {entries : List (RangeEntry α)}
    (h : e ∈ sortEntries entries) : e ∈ entries :=
  (mem_sortFront _ entries).1 (Or.inl h)

end RangeTree

/-- The parts a table of composites gives for a code point stand in the table beside it. -/
theorem exists_of_find?_pairTree {pairs : List (Nat × Nat × Nat)} {n : Nat} {parts : Char × Char}
    (h : (pairTree pairs).find? n = some parts) :
    ∃ e ∈ pairs, e.1 = n ∧ Char.ofNat e.2.1 = parts.1 ∧ Char.ofNat e.2.2 = parts.2 := by
  obtain ⟨entry, hmem, hle, hge, rfl⟩ := RangeTree.exists_mem_of_find? h
  rw [pairTree, RangeTree.toList_ofEntries, List.mem_map] at hmem
  obtain ⟨e, he, rfl⟩ := hmem
  exact ⟨e, he, Nat.le_antisymm hle hge, rfl, rfl⟩

/-- The same for the characters that stand for another one. -/
theorem exists_of_find?_singletonTree {n : Nat} {c : Char} (h : singletonTree.find? n = some c) :
    ∃ e ∈ singletons, e.1 = n ∧ Char.ofNat e.2 = c := by
  obtain ⟨entry, hmem, hle, hge, rfl⟩ := RangeTree.exists_mem_of_find? h
  rw [singletonTree, RangeTree.toList_ofEntries, List.mem_map] at hmem
  obtain ⟨e, he, rfl⟩ := hmem
  exact ⟨e, he, Nat.le_antisymm hle hge, rfl⟩

/-- And for the composites by the key of their parts. -/
theorem exists_of_find?_compositeTree {key : Nat} {c : Char}
    (h : compositeTree.find? key = some c) :
    ∃ e ∈ primaryComposites, pairKey e.2.1 e.2.2 = key ∧ Char.ofNat e.1 = c := by
  obtain ⟨entry, hmem, hle, hge, rfl⟩ := RangeTree.exists_mem_of_find? h
  rw [compositeTree, RangeTree.toList_ofEntries] at hmem
  obtain ⟨e, he, rfl⟩ := List.mem_map.1 (RangeTree.mem_of_mem_sortEntries hmem)
  exact ⟨e, he, Nat.le_antisymm hle hge, rfl⟩

/-! ### Hangul -/

namespace Hangul

/-- From the first letter to the last syllable. -/
def Spans (c : Char) : Prop :=
  leadingBase ≤ c.toNat ∧ c.toNat < syllableBase + syllableCount

/-- All of it lies below the surrogates, where a number is a character. -/
theorem toNat_ofNat {n : Nat} (hlt : n < syllableBase + syllableCount) :
    (Char.ofNat n).toNat = n := by
  have hvalid : n.isValidChar := Or.inl (Nat.lt_trans hlt (by decide))
  rw [Char.ofNat, dif_pos hvalid]
  rfl

/-- Numbers of letters and syllables give letters and syllables. -/
theorem spans_ofNat {n : Nat} (hle : leadingBase ≤ n) (hlt : n < syllableBase + syllableCount) :
    Spans (Char.ofNat n) := by
  rw [Spans, toNat_ofNat hlt]
  exact ⟨hle, hlt⟩

/-- A place is below the count, and counted from the base. -/
theorem lt_and_toNat_eq_of_place? {base count : Nat} {c : Char} {k : Nat}
    (h : place? base count c = some k) : k < count ∧ c.toNat = base + k := by
  rw [place?] at h
  split at h
  · have hk := Option.some.inj h
    omega
  · simp at h

/-- The letters of a syllable lie where the letters are. -/
theorem letter_of_mem_decompose? {c l : Char} {letters : List Char}
    (h : decompose? c = some letters) (hl : l ∈ letters) :
    leadingBase ≤ l.toNat ∧ l.toNat < trailingBase + trailingCount := by
  rw [decompose?, Option.map_eq_some_iff] at h
  obtain ⟨s, hs, rfl⟩ := h
  obtain ⟨i, j, k, hi, hj, hk, hletter⟩ : ∃ i j k,
      i < leadingCount ∧ j < vowelCount ∧ k < trailingCount ∧
      (l = Char.ofNat (leadingBase + i) ∨ l = Char.ofNat (vowelBase + j) ∨
        l = Char.ofNat (trailingBase + k)) := by
    -- the three places are quotients and remainders of the place of the syllable
    have hlt : s < perLeading * leadingCount := Nat.mul_comm _ _ ▸ (lt_and_toNat_eq_of_place? hs).1
    have hmod : s % perLeading < trailingCount * vowelCount := Nat.mod_lt s (by decide)
    refine ⟨_, _, _, Nat.div_lt_of_lt_mul hlt, Nat.div_lt_of_lt_mul hmod,
      Nat.mod_lt s (by decide), ?_⟩
    dsimp only at hl
    split at hl
    · rw [List.mem_cons, List.mem_singleton] at hl
      exact hl.imp_right Or.inl
    · simpa using hl
  have hbelow : trailingBase + trailingCount ≤ syllableBase + syllableCount := by decide
  simp only [leadingBase, vowelBase, trailingBase, leadingCount, vowelCount, trailingCount]
    at hi hj hk hletter hbelow ⊢
  rcases hletter with rfl | rfl | rfl <;> rw [toNat_ofNat (by omega)] <;> omega

/-- A syllable is taken apart into letters. -/
theorem spans_of_mem_decompose? {c l : Char} {letters : List Char}
    (h : decompose? c = some letters) (hl : l ∈ letters) : Spans l := by
  obtain ⟨hle, hlt⟩ := letter_of_mem_decompose? h hl
  exact ⟨hle, Nat.lt_trans hlt (by decide)⟩

/-- A syllable that is put together. -/
theorem spans_of_compose? {first second c : Char} (h : compose? first second = some c) :
    Spans c := by
  unfold compose? at h
  split at h
  · rename_i l v hl hv
    rw [← Option.some.inj h]
    -- places of letters are below the numbers of letters, so that of the syllable is too
    have hl := (lt_and_toNat_eq_of_place? hl).1
    have hv := (lt_and_toNat_eq_of_place? hv).1
    simp only [leadingCount, vowelCount] at hl hv
    apply spans_ofNat <;>
      simp only [leadingBase, syllableBase, syllableCount, leadingCount, perLeading, vowelCount,
        trailingCount] <;> omega
  · split at h
    · rename_i s t hs ht
      split at h
      · rename_i hopen
        rw [← Option.some.inj h, (lt_and_toNat_eq_of_place? hs).2]
        have hs := (lt_and_toNat_eq_of_place? hs).1
        have ht := (lt_and_toNat_eq_of_place? ht).1
        simp only [trailingCount, syllableCount, leadingCount, perLeading, vowelCount]
          at hs ht hopen
        apply spans_ofNat <;>
          simp only [leadingBase, syllableBase, syllableCount, leadingCount, perLeading,
            vowelCount, trailingCount] <;> omega
      · simp at h
    · simp at h

end Hangul

/-! ### Inert characters -/

/-- The characters one step of decomposition leads to. -/
def Mapping.parts : Mapping → List Char
  | one c => [c]
  | two first second => [first, second]

set_option maxRecDepth 4000 in
/-- One step of taking apart. -/
theorem expand_succ (depth : Nat) (c : Char) (tail : List Char) :
    expand (depth + 1) c tail = match mapping? c with
      | none => c :: tail
      | some (.one a) => expand depth a tail
      | some (.two a b) => expand depth a (b :: tail) := rfl

/-- No table names the character, and it is no letter or syllable of Hangul. -/
structure Inert (x : Char) : Prop where
  primary : ∀ e ∈ primaryComposites, x ∉ [Char.ofNat e.1, Char.ofNat e.2.1, Char.ofNat e.2.2]
  excluded : ∀ e ∈ excludedComposites, x ∉ [Char.ofNat e.1, Char.ofNat e.2.1, Char.ofNat e.2.2]
  singleton : ∀ e ∈ singletons, x ∉ [Char.ofNat e.1, Char.ofNat e.2]
  hangul : ¬ Hangul.Spans x

namespace Inert

variable {x : Char} (hx : Inert x)

include hx

/-- One step of taking apart leads to no inert character. -/
theorem not_mem_parts {c : Char} {m : Mapping} (h : mapping? c = some m) : x ∉ m.parts := by
  unfold mapping? at h
  split at h
  · rename_i a b hfind
    obtain ⟨e, he, -, rfl, rfl⟩ := exists_of_find?_pairTree hfind
    rw [← Option.some.inj h]
    exact fun hmem => hx.primary e he (List.mem_cons_of_mem _ hmem)
  · split at h
    · rename_i a hfind
      obtain ⟨e, he, -, rfl⟩ := exists_of_find?_singletonTree hfind
      rw [← Option.some.inj h]
      exact fun hmem => hx.singleton e he (List.mem_cons_of_mem _ hmem)
    · obtain ⟨⟨a, b⟩, hfind, rfl⟩ := Option.map_eq_some_iff.1 h
      obtain ⟨e, he, -, rfl, rfl⟩ := exists_of_find?_pairTree hfind
      exact fun hmem => hx.excluded e he (List.mem_cons_of_mem _ hmem)

/-- An inert character does not come out of another. -/
theorem mem_of_mem_expand {depth : Nat} {c : Char} {tail : List Char}
    (h : x ∈ expand depth c tail) : x ∈ c :: tail := by
  induction depth generalizing c tail with
  | zero => exact h
  | succ depth ih =>
    rw [expand_succ] at h
    split at h
    · exact h
    · rename_i a hm
      rcases List.mem_cons.1 (ih h) with rfl | htail
      · exact absurd List.mem_cons_self (hx.not_mem_parts hm)
      · exact List.mem_cons_of_mem c htail
    · rename_i a b hm
      have hab := hx.not_mem_parts hm
      rcases List.mem_cons.1 (ih h) with rfl | hb
      · exact absurd List.mem_cons_self hab
      · rcases List.mem_cons.1 hb with rfl | htail
        · exact absurd (List.mem_cons_of_mem a List.mem_cons_self) hab
        · exact List.mem_cons_of_mem c htail

/-- So it comes out of itself alone. -/
theorem eq_of_mem_fullDecomposition {c : Char} (h : x ∈ fullDecomposition c) : x = c := by
  rw [fullDecomposition] at h
  split at h
  · exact List.mem_singleton.1 h
  · split at h
    · rename_i letters hl
      exact absurd (Hangul.spans_of_mem_decompose? hl h) hx.hangul
    · exact List.mem_singleton.1 (hx.mem_of_mem_expand h)

/-- Taking apart makes no inert character. -/
theorem mem_of_mem_decompose {text : List Char} (h : x ∈ decompose text) : x ∈ text := by
  obtain ⟨c, hc, hxc⟩ := List.mem_flatMap.1 h
  rw [hx.eq_of_mem_fullDecomposition hxc]
  exact hc

/-- No two characters are composed into an inert one. -/
theorem ne_of_composite? {first second c : Char} (h : composite? first second = some c) :
    x ≠ c := by
  rintro rfl
  rw [composite?] at h
  split at h
  · simp at h
  · split at h
    · rename_i hc
      rw [Option.some.inj h] at hc
      exact hx.hangul (Hangul.spans_of_compose? hc)
    · obtain ⟨e, he, -, hec⟩ := exists_of_find?_compositeTree h
      exact hx.primary e he (hec ▸ List.mem_cons_self)

end Inert

/-! ### Marks in order -/

/-- A character that is taken in is there, and so are those that were. -/
theorem Reordering.mem_flush_push (s : Reordering) {c d : Char} :
    d ∈ (s.push c).flush ↔ d = c ∨ d ∈ s.flush := by
  have hflush : ∀ s : Reordering, d ∈ s.flush ↔ d ∈ s.marks ∨ d ∈ s.done := by
    intro s
    rw [flush, List.reverseAux_eq, List.mem_append, List.mem_reverse, mem_sortMarks,
      List.mem_reverse]
  rw [push]
  split
  · simp [hflush]
  · simp [hflush, or_assoc]

/-- So are all characters of a text that is taken in. -/
theorem Reordering.mem_flush_foldl {text : List Char} (s : Reordering) {c : Char} :
    c ∈ (text.foldl push s).flush ↔ c ∈ text ∨ c ∈ s.flush := by
  induction text generalizing s with
  | nil => simp
  | cons d text ih =>
    rw [List.foldl_cons, ih, mem_flush_push, List.mem_cons, or_left_comm, or_assoc]

/-- Putting marks in order loses no character and adds none. -/
theorem mem_reorder {text : List Char} {c : Char} : c ∈ reorder text ↔ c ∈ text := by
  rw [reorder, List.mem_reverse, Reordering.mem_flush_foldl]
  simp [Reordering.empty, Reordering.flush, sortMarks, classesOf]

/-! ### Putting together -/

namespace Composition

/-- A composition under way is made of its marks, its starter and what is finished. -/
theorem mem_flush (s : Composition) {c : Char} :
    c ∈ s.flush ↔ c ∈ s.marks ∨ s.starter = some c ∨ c ∈ s.done := by
  rw [flush]
  split
  · rename_i h
    simp [h]
  · rename_i k h
    simp [h, eq_comm]

/-- A character that is not composed is there afterwards. -/
theorem mem_flush_append (s : Composition) {c d : Char} :
    d ∈ (s.append c).flush ↔ d = c ∨ d ∈ s.flush := by
  rw [append]
  split
  · simp [mem_flush, eq_comm]
  · split
    · simp only [mem_flush, List.mem_cons, or_left_comm (b := d = c)]
    · simp only [mem_flush, List.mem_cons, or_assoc]

end Composition

namespace Inert

variable {x : Char} (hx : Inert x)

include hx

/-- One step: a composite that takes the place of the starter is no inert character. -/
theorem mem_of_mem_flush_push {s : Composition} {c : Char} (h : x ∈ (s.push c).flush) :
    x = c ∨ x ∈ s.flush := by
  rw [Composition.push] at h
  split at h
  · exact (Composition.mem_flush_append s).1 h
  · split at h
    · exact (Composition.mem_flush_append s).1 h
    · split at h
      · rename_i p hp
        rw [Composition.mem_flush] at h ⊢
        rcases h with h | h | h
        · exact Or.inr (Or.inl h)
        · exact absurd (Option.some.inj h).symm (hx.ne_of_composite? hp)
        · exact Or.inr (Or.inr (Or.inr h))
      · exact (Composition.mem_flush_append s).1 h

/-- Any number of steps. -/
theorem mem_of_mem_flush_foldl {text : List Char} {s : Composition}
    (h : x ∈ (text.foldl Composition.push s).flush) : x ∈ text ∨ x ∈ s.flush := by
  induction text generalizing s with
  | nil => exact Or.inr h
  | cons c text ih =>
    rcases ih h with h | h
    · exact Or.inl (List.mem_cons_of_mem c h)
    · rcases hx.mem_of_mem_flush_push h with rfl | h
      · exact Or.inl List.mem_cons_self
      · exact Or.inr h

/-- What nothing is composed to was there before. -/
theorem mem_of_mem_compose {text : List Char} (h : x ∈ compose text) : x ∈ text := by
  rw [compose, List.mem_reverse] at h
  exact (hx.mem_of_mem_flush_foldl h).resolve_right List.not_mem_nil

/-- **No inert character is made.** One that is in the composed form of a text was in the text. -/
theorem mem_of_mem_nfc {text : List Char} (h : x ∈ nfc text) : x ∈ text :=
  hx.mem_of_mem_decompose (mem_reorder.1 (hx.mem_of_mem_compose h))

end Inert

end ContentChecksum.Unicode
