import ContentChecksum.Proofs.NormalForms

namespace ContentChecksum.Unicode

/-!
# Taking apart goes all the way, and putting together is undone by it

Two facts about single characters, on which everything about normal forms rests.  They hold because
the tables are as they are, and are checked there entry by entry:

* `allAtomic_fullDecomposition` — a full decomposition is made of characters that are not taken apart
  any further (`Atomic`);
* `fullDecomposition_of_composite?` — if two characters are composed into a third, the third is taken
  apart into what the first is taken apart into, and the second.

The letters of Hangul and the ideographs lie in stretches of code points that no table has an entry
for (`isBare`), so that for them nothing has to be looked up.
-/

/-- A character that is not taken apart. -/
def Atomic (c : Char) : Prop :=
  fullDecomposition c = [c]

instance : DecidablePred Atomic := fun c => inferInstanceAs (Decidable (fullDecomposition c = [c]))

/-- A text in which no character is taken apart. -/
def AllAtomic (text : List Char) : Prop :=
  ∀ c ∈ text, Atomic c

instance (text : List Char) : Decidable (AllAtomic text) :=
  List.decidableBAll Atomic text

theorem Atomic.all {c : Char} (h : Atomic c) : AllAtomic [c] :=
  List.forall_mem_singleton.2 h

/-- Atomic characters are left as they are. -/
theorem decompose_eq_self {text : List Char} (h : AllAtomic text) : decompose text = text := by
  induction text with
  | nil => rfl
  | cons c text ih =>
    rw [AllAtomic, List.forall_mem_cons] at h
    have hc : fullDecomposition c = [c] := h.1
    have htext : text.flatMap fullDecomposition = text := ih h.2
    rw [decompose, List.flatMap_cons, hc, htext, List.singleton_append]

/-- Texts are taken apart piece by piece. -/
theorem decompose_append (xs ys : List Char) :
    decompose (xs ++ ys) = decompose xs ++ decompose ys :=
  List.flatMap_append

/-- A text of one character is taken apart as that character is. -/
theorem decompose_singleton (c : Char) : decompose [c] = fullDecomposition c := by
  rw [decompose, List.flatMap_singleton]

/-! ### Characters without an entry -/

/-- The mapping of a character stands in one of the tables. -/
inductive Entry (c : Char) : Mapping → Prop
  | primary (e : Nat × Nat × Nat) (he : e ∈ primaryComposites) (hc : e.1 = c.toNat) :
    Entry c (.two (Char.ofNat e.2.1) (Char.ofNat e.2.2))
  | excluded (e : Nat × Nat × Nat) (he : e ∈ excludedComposites) (hc : e.1 = c.toNat) :
    Entry c (.two (Char.ofNat e.2.1) (Char.ofNat e.2.2))
  | singleton (e : Nat × Nat) (he : e ∈ singletons) (hc : e.1 = c.toNat) :
    Entry c (.one (Char.ofNat e.2))

/-- What a character is made of comes from one of the tables. -/
theorem entry_of_mapping? {c : Char} {m : Mapping} (h : mapping? c = some m) : Entry c m := by
  unfold mapping? at h
  split at h
  · rename_i a b hfind
    obtain ⟨e, he, hc, rfl, rfl⟩ := exists_of_find?_pairTree hfind
    exact Option.some.inj h ▸ .primary e he hc
  · split at h
    · rename_i a hfind
      obtain ⟨e, he, hc, rfl⟩ := exists_of_find?_singletonTree hfind
      exact Option.some.inj h ▸ .singleton e he hc
    · obtain ⟨⟨a, b⟩, hfind, rfl⟩ := Option.map_eq_some_iff.1 h
      obtain ⟨e, he, hc, rfl, rfl⟩ := exists_of_find?_pairTree hfind
      exact .excluded e he hc

/-- A character that no table names is made of nothing else. -/
theorem mapping?_eq_none {c : Char} (h : ∀ m, ¬ Entry c m) : mapping? c = none := by
  cases hm : mapping? c with
  | none => rfl
  | some m => exact absurd (entry_of_mapping? hm) (h m)

/-- A character is atomic if it has no mapping and is no syllable. -/
theorem atomic_of_mapping?_eq_none {c : Char} (hm : mapping? c = none)
    (hh : Hangul.decompose? c = none) : Atomic c := by
  rw [Atomic, fullDecomposition]
  split
  · rfl
  · rw [hh, expand_succ, hm]

/-- Stretches without an entry: the letters of Hangul, and the ideographs below the syllables and in
    the second plane. -/
def isBare (n : Nat) : Bool :=
  (0x1100 ≤ n && n < 0x1200) || (0x3400 ≤ n && n < 0xAC00) || (0x20000 ≤ n && n < 0x2F800)

/-- So it is with a character in a stretch without an entry. -/
theorem mapping?_eq_none_of_isBare {c : Char} (h : isBare c.toNat = true) : mapping? c = none := by
  have hprimary : ∀ e ∈ primaryComposites, isBare e.1 = false := by decide +kernel
  have hexcluded : ∀ e ∈ excludedComposites, isBare e.1 = false := by decide +kernel
  have hsingletons : ∀ e ∈ singletons, isBare e.1 = false := by decide +kernel
  refine mapping?_eq_none fun m hentry => ?_
  cases hentry with
  | primary e he hc => exact absurd h (hc ▸ Bool.eq_false_iff.1 (hprimary e he))
  | excluded e he hc => exact absurd h (hc ▸ Bool.eq_false_iff.1 (hexcluded e he))
  | singleton e he hc => exact absurd h (hc ▸ Bool.eq_false_iff.1 (hsingletons e he))

/-- Bare characters are no syllables either. -/
theorem atomic_of_isBare {c : Char} (h : isBare c.toNat = true) : Atomic c := by
  refine atomic_of_mapping?_eq_none (mapping?_eq_none_of_isBare h) ?_
  have hplace : Hangul.place? Hangul.syllableBase Hangul.syllableCount c = none := by
    simp only [isBare, Bool.or_eq_true, Bool.and_eq_true, decide_eq_true_eq] at h
    rw [Hangul.place?, if_neg]
    simp only [Hangul.syllableBase, Hangul.syllableCount, Hangul.leadingCount, Hangul.perLeading,
      Hangul.vowelCount, Hangul.trailingCount]
    omega
  rw [Hangul.decompose?, hplace, Option.map_none]

/-- The letters of Hangul are not taken apart. -/
theorem atomic_of_letter {c : Char} (hle : Hangul.leadingBase ≤ c.toNat)
    (hlt : c.toNat < Hangul.trailingBase + Hangul.trailingCount) : Atomic c := by
  apply atomic_of_isBare
  simp only [Hangul.leadingBase, Hangul.trailingBase, Hangul.trailingCount] at hle hlt
  simp only [isBare, Bool.or_eq_true, Bool.and_eq_true, decide_eq_true_eq]
  omega

/-! ### Full decompositions -/

/-- A character with a mapping is taken apart to the end. -/
theorem allAtomic_of_mapping? {c : Char} {m : Mapping} (hm : mapping? c = some m)
    (hexpand : fullDecomposition c = expand 3 c []) : AllAtomic (fullDecomposition c) := by
  have hself : ∀ n, n = c.toNat → c = Char.ofNat n := fun n hn => by rw [hn, Char.ofNat_toNat]
  have hentry := entry_of_mapping? hm
  cases hentry with
  | primary e he hc =>
    have hall : ∀ e ∈ primaryComposites, AllAtomic (fullDecomposition (Char.ofNat e.1)) := by
      decide +kernel
    rw [hself _ hc]
    exact hall e he
  | excluded e he hc =>
    have hall : ∀ e ∈ excludedComposites, AllAtomic (fullDecomposition (Char.ofNat e.1)) := by
      decide +kernel
    rw [hself _ hc]
    exact hall e he
  | singleton e he hc =>
    have hsigns : ∀ e ∈ singletonSigns, AllAtomic (fullDecomposition (Char.ofNat e.1)) := by
      decide +kernel
    have hideographs : ∀ e ∈ singletonIdeographs ++ singletonSupplement,
        isBare (Char.ofNat e.2).toNat = true := by decide +kernel
    rw [singletons, List.append_assoc, List.mem_append] at he
    rcases he with he | he
    · rw [hself _ hc]
      exact hsigns e he
    · -- what replaces an ideograph is an ideograph again, and has no mapping of its own
      have hbare := hideographs e he
      rw [hexpand, expand_succ, hm]
      show AllAtomic (expand 2 (Char.ofNat e.2) [])
      rw [expand_succ, mapping?_eq_none_of_isBare hbare]
      exact (atomic_of_isBare hbare).all

/-- **Taking apart goes all the way.** -/
theorem allAtomic_fullDecomposition (c : Char) : AllAtomic (fullDecomposition c) := by
  by_cases hlow : c.toNat < 0xC0
  · have hself : Atomic c := by rw [Atomic, fullDecomposition, if_pos hlow]
    rw [hself]
    exact hself.all
  · cases hh : Hangul.decompose? c with
    | some letters =>
      rw [fullDecomposition, if_neg hlow, hh]
      intro l hl
      obtain ⟨hle, hlt⟩ := Hangul.letter_of_mem_decompose? hh hl
      exact atomic_of_letter hle hlt
    | none =>
      have hexpand : fullDecomposition c = expand 3 c [] := by
        rw [fullDecomposition, if_neg hlow, hh]
      cases hm : mapping? c with
      | some m => exact allAtomic_of_mapping? hm hexpand
      | none =>
        rw [hexpand, expand_succ, hm]
        exact (atomic_of_mapping?_eq_none hm hh).all

/-- Something is left of every character. -/
theorem expand_ne_nil (depth : Nat) (c : Char) (tail : List Char) : expand depth c tail ≠ [] := by
  induction depth generalizing c tail with
  | zero => exact List.cons_ne_nil c tail
  | succ depth ih =>
    rw [expand_succ]
    split
    · exact List.cons_ne_nil c tail
    · exact ih _ _
    · exact ih _ _

/-- No character is taken apart into nothing. -/
theorem fullDecomposition_ne_nil (c : Char) : fullDecomposition c ≠ [] := by
  rw [fullDecomposition]
  split
  · exact List.cons_ne_nil c []
  · split
    · rename_i letters h
      obtain ⟨s, -, rfl⟩ := Option.map_eq_some_iff.1 h
      dsimp only
      split <;> exact List.cons_ne_nil _ _
    · exact expand_ne_nil 3 c []

/-! ### Hangul -/

namespace Hangul

/-- A number in a block has its place there. -/
theorem place?_eq_some {base count k : Nat} {c : Char} (hk : k < count) (hc : c.toNat = base + k) :
    place? base count c = some k := by
  rw [place?, if_pos (by omega), hc, Nat.add_sub_cancel_left]

/-- A character is the one of its number. -/
theorem eq_ofNat {c : Char} {n : Nat} (h : c.toNat = n) : c = Char.ofNat n := by
  rw [← h, Char.ofNat_toNat]

/-- A leading letter and a vowel make a syllable that is taken apart into them. -/
theorem decompose?_of_pair {first second : Char} {l v : Nat}
    (hl : place? leadingBase leadingCount first = some l)
    (hv : place? vowelBase vowelCount second = some v) :
    decompose? (Char.ofNat (syllableBase + (l * vowelCount + v) * trailingCount)) =
      some [first, second] := by
  obtain ⟨hl, hfirst⟩ := lt_and_toNat_eq_of_place? hl
  obtain ⟨hv, hsecond⟩ := lt_and_toNat_eq_of_place? hv
  have hlt : (l * vowelCount + v) * trailingCount < syllableCount := by
    simp only [leadingCount, vowelCount, trailingCount, syllableCount, perLeading] at hl hv ⊢
    omega
  have hleading : (l * vowelCount + v) * trailingCount / perLeading = l := by
    simp only [vowelCount, trailingCount, perLeading] at hv ⊢
    omega
  have hvowel : (l * vowelCount + v) * trailingCount % perLeading / trailingCount = v := by
    simp only [vowelCount, trailingCount, perLeading] at hv ⊢
    omega
  have hopen : (l * vowelCount + v) * trailingCount % trailingCount = 0 := Nat.mul_mod_left _ _
  rw [decompose?, place?_eq_some hlt (toNat_ofNat (Nat.add_lt_add_left hlt _)), Option.map_some]
  simp only [hleading, hvowel, hopen, if_true, ← eq_ofNat hfirst, ← eq_ofNat hsecond]

/-- An open syllable and a trailing letter make a syllable that is taken apart into all letters. -/
theorem decompose?_of_open {first second : Char} {s t : Nat}
    (hs : place? syllableBase syllableCount first = some s)
    (ht : place? (trailingBase + 1) (trailingCount - 1) second = some t)
    (hopen : s % trailingCount = 0) :
    ∃ letters, decompose? first = some letters ∧
      decompose? (Char.ofNat (first.toNat + t + 1)) = some (letters ++ [second]) := by
  have hplace := hs
  have hclosed := hopen
  obtain ⟨hs, hfirst⟩ := lt_and_toNat_eq_of_place? hs
  obtain ⟨ht, hsecond⟩ := lt_and_toNat_eq_of_place? ht
  have hsecond' : second.toNat = trailingBase + (t + 1) := by omega
  simp only [trailingCount, syllableCount, leadingCount, perLeading, vowelCount] at hs ht hclosed
  have hlt : s + (t + 1) < syllableCount := by
    simp only [trailingCount, syllableCount, leadingCount, perLeading, vowelCount]
    omega
  -- the trailing letter fills up the place that the open syllable leaves for it
  have hleading : (s + (t + 1)) / perLeading = s / perLeading := by
    simp only [trailingCount, perLeading, vowelCount]
    omega
  have hvowel : (s + (t + 1)) % perLeading / trailingCount = s % perLeading / trailingCount := by
    simp only [trailingCount, perLeading, vowelCount]
    omega
  have htrailing : (s + (t + 1)) % trailingCount = t + 1 := by
    simp only [trailingCount]
    omega
  have hplace' : place? syllableBase syllableCount (Char.ofNat (first.toNat + t + 1)) =
      some (s + (t + 1)) := by
    refine place?_eq_some hlt ?_
    rw [hfirst, Nat.add_assoc, Nat.add_assoc, toNat_ofNat (Nat.add_lt_add_left hlt _)]
  refine ⟨_, by rw [decompose?, hplace, Option.map_some], ?_⟩
  rw [decompose?, hplace', Option.map_some]
  simp only [hleading, hvowel, htrailing, ← eq_ofNat hsecond']
  rw [if_neg (Nat.succ_ne_zero t), if_pos hopen]
  rfl

/-- Syllables lie above what is never looked at. -/
theorem fullDecomposition_of_decompose? {c : Char} {letters : List Char}
    (h : decompose? c = some letters) : fullDecomposition c = letters := by
  obtain ⟨s, hs, -⟩ := Option.map_eq_some_iff.1 h
  have hle : 0xC0 ≤ c.toNat := by
    rw [(lt_and_toNat_eq_of_place? hs).2, syllableBase]
    omega
  rw [fullDecomposition, if_neg (by omega), h]

/-- Letters and syllables that are put together are taken apart again. -/
theorem fullDecomposition_of_compose? {first second c : Char}
    (h : compose? first second = some c) :
    fullDecomposition c = fullDecomposition first ++ [second] := by
  unfold compose? at h
  split at h
  · rename_i l v hl hv
    -- two letters: the first one is whole, and the two are what the syllable is made of
    have hfirst : Atomic first := by
      obtain ⟨hlt, heq⟩ := lt_and_toNat_eq_of_place? hl
      refine atomic_of_letter (by omega) ?_
      simp only [leadingBase, leadingCount, trailingBase, trailingCount] at hlt heq ⊢
      omega
    have hpair := decompose?_of_pair hl hv
    rw [Option.some.inj h] at hpair
    rw [fullDecomposition_of_decompose? hpair, hfirst]
    rfl
  · split at h
    · rename_i s t hs ht
      split at h
      · rename_i hopen
        -- an open syllable, whose letters stand in front of the closing one
        obtain ⟨letters, hletters, hall⟩ := decompose?_of_open hs ht hopen
        rw [Option.some.inj h] at hall
        rw [fullDecomposition_of_decompose? hall, fullDecomposition_of_decompose? hletters]
      · simp at h
    · simp at h

end Hangul

/-! ### Putting together -/

/-- Two characters that are composed by the tables stand there with their composite. -/
theorem exists_entry_of_find?_compositeTree {first second c : Char}
    (h : compositeTree.find? (pairKey first.toNat second.toNat) = some c) :
    ∃ e ∈ primaryComposites, c = Char.ofNat e.1 ∧ first = Char.ofNat e.2.1 ∧
      second = Char.ofNat e.2.2 := by
  have hbound : ∀ e ∈ primaryComposites, e.2.2 < 0x110000 := by decide +kernel
  obtain ⟨e, he, hkey, hc⟩ := exists_of_find?_compositeTree h
  have hlt := hbound e he
  have hsecond : second.toNat < 0x110000 :=
    second.valid.elim (fun h => Nat.lt_trans h (by decide)) And.right
  rw [pairKey, pairKey] at hkey
  exact ⟨e, he, hc.symm, Hangul.eq_ofNat (by omega), Hangul.eq_ofNat (by omega)⟩

/-- **Putting together is undone by taking apart.** -/
theorem fullDecomposition_of_composite? {first second c : Char}
    (h : composite? first second = some c) :
    fullDecomposition c = fullDecomposition first ++ [second] := by
  rw [composite?] at h
  split at h
  · simp at h
  · split at h
    · rename_i hc
      rw [Option.some.inj h] at hc
      exact Hangul.fullDecomposition_of_compose? hc
    · have hall : ∀ e ∈ primaryComposites, fullDecomposition (Char.ofNat e.1) =
          fullDecomposition (Char.ofNat e.2.1) ++ [Char.ofNat e.2.2] := by decide +kernel
      obtain ⟨e, he, rfl, rfl, rfl⟩ := exists_entry_of_find?_compositeTree h
      exact hall e he

end ContentChecksum.Unicode
