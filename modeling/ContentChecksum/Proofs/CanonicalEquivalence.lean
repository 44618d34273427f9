import ContentChecksum.Proofs.Decompositions
import ContentChecksum.Proofs.OrderedMarks

namespace ContentChecksum.Unicode

/-!
# Texts that are canonically equivalent

Two texts are equivalent if they come apart into the same characters, in the same order but for marks
of different classes.  This file shows that both normal forms decide it, and that it may be decided
piece by piece:

* `nfd_eq_iff` — texts have the same decomposed form exactly if they are equivalent;
* `Equivalent.append` — equivalence is a congruence for concatenation;
* `nfd_nfd`, `nfd_nfc` — both forms of a text are equivalent to the text.  For the composed form this
  is an invariant of composing (`Composition.Sound`): what is composed so far and what lies ahead
  would come apart into the text.  A character joins a starter across marks of lower classes only, so
  that taking the composite apart leaves it where it may be moved back from
  (`Composition.Sound.rearranged_across`);
* `nfc_eq_iff` — texts have the same composed form exactly if they are equivalent.
-/

/-- Canonical equivalence: taken apart, the texts are the same but for marks of different classes that
    have changed places. -/
def Equivalent (xs ys : List Char) : Prop :=
  Rearranged (decompose xs) (decompose ys)

/-- **The decomposed form decides equivalence.** -/
theorem nfd_eq_iff {xs ys : List Char} : nfd xs = nfd ys ↔ Equivalent xs ys :=
  reorder_eq_iff

instance (xs ys : List Char) : Decidable (Equivalent xs ys) :=
  decidable_of_iff (nfd xs = nfd ys) nfd_eq_iff

namespace Equivalent

variable {xs ys xs' ys' : List Char}

/-- **A congruence.** -/
theorem append (h : Equivalent xs ys) (h' : Equivalent xs' ys') :
    Equivalent (xs ++ xs') (ys ++ ys') := by
  rw [Equivalent, decompose_append, decompose_append]
  exact Rearranged.append h h'

theorem symm (h : Equivalent xs ys) : Equivalent ys xs :=
  Rearranged.symm h

/-- Nothing but the empty text comes apart into nothing. -/
theorem eq_nil (h : Equivalent xs []) : xs = [] := by
  have hnil : nfd xs = [] := nfd_eq_iff.2 h
  refine List.eq_nil_iff_forall_not_mem.2 fun c hc => ?_
  obtain ⟨d, hd⟩ := List.exists_mem_of_ne_nil _ (fullDecomposition_ne_nil c)
  have hmem : d ∈ nfd xs := mem_reorder.2 (List.mem_flatMap.2 ⟨c, hc, hd⟩)
  rw [hnil] at hmem
  exact List.not_mem_nil hmem

end Equivalent

/-! ### The decomposed form -/

theorem allAtomic_nfd (text : List Char) : AllAtomic (nfd text) := by
  intro c hc
  obtain ⟨d, -, hc⟩ := List.mem_flatMap.1 (mem_reorder.1 hc)
  exact allAtomic_fullDecomposition d c hc

/-- There is nothing left to do in a decomposed text. -/
theorem nfd_nfd (text : List Char) : nfd (nfd text) = nfd text := by
  rw [nfd, decompose_eq_self (allAtomic_nfd text), nfd, reorder_reorder]

/-! ### The composed form -/

namespace Composition

/-- What holds of a composition with the characters `ahead` still to come, out of a decomposed text
    `whole`: what is kept behind the starter are marks that stay in order with what comes, and taking
    everything apart again leads back to the text. -/
structure Sound (whole ahead : List Char) (s : Composition) : Prop where
  unstarted : s.starter = none → s.marks = []
  marks : ∀ c ∈ s.marks, isStarter c = false ∧ Atomic c
  atomic : AllAtomic ahead
  inOrder : InOrder (s.marks.reverse ++ ahead)
  same : Rearranged (decompose s.flush.reverse ++ ahead) whole

variable {whole ahead : List Char} {s : Composition} {c k p : Char}

theorem Sound.inOrder_ahead (h : Sound whole (c :: ahead) s) : InOrder ahead :=
  List.IsChain.tail h.inOrder.right_of_append

/-- A character that is not blocked comes directly behind the starter, or it is a mark of a higher
    class than all marks in between. -/
theorem Sound.of_not_blocks (h : Sound whole (c :: ahead) s) (hblocks : ¬ blocks s.marks c) :
    s.marks = [] ∨ isStarter c = false ∧ ∀ m ∈ s.marks, combiningClass m < combiningClass c := by
  have hmarks := fun m hm => (h.marks m (List.mem_reverse.1 hm)).1
  have hascending := InOrder.pairwise h.inOrder.left_of_append hmarks
  rw [List.pairwise_reverse] at hascending
  cases hs : s.marks with
  | nil => exact Or.inl rfl
  | cons last older =>
    rw [hs] at hblocks hascending
    have hlast : combiningClass last < combiningClass c := by
      simpa [blocks] using hblocks
    have holder := (List.pairwise_cons.1 hascending).1
    refine Or.inr ⟨?_, List.forall_mem_cons.2 ⟨hlast, fun m hm => ?_⟩⟩
    · rw [← Bool.not_eq_true, combiningClass_eq_zero_iff]
      omega
    · exact Nat.lt_of_le_of_lt (holder m hm) hlast

/-- If such a character is taken out from behind the marks, what remains is in order. -/
theorem Sound.inOrder_without (h : Sound whole (c :: ahead) s) (hblocks : ¬ blocks s.marks c) :
    InOrder (s.marks.reverse ++ ahead) := by
  rcases h.of_not_blocks hblocks with hnil | ⟨-, hlower⟩
  · rw [hnil]
    exact h.inOrder_ahead
  · have hnext := (List.isChain_cons.1 h.inOrder.right_of_append).1
    refine h.inOrder.left_of_append.append h.inOrder_ahead fun m hm d hd => ?_
    have hm := hlower m (List.mem_reverse.1 (List.mem_of_getLast? hm))
    exact (hnext d hd).imp_right hm.le.trans

/-- And it may be put in front of them. -/
theorem Sound.rearranged_across (h : Sound whole (c :: ahead) s)
    (hblocks : ¬ blocks s.marks c) :
    Rearranged (c :: s.marks.reverse) (s.marks.reverse ++ [c]) := by
  rcases h.of_not_blocks hblocks with hnil | ⟨hc, hlower⟩
  · rw [hnil]
    exact .refl _
  · refine .cons_append hc fun m hm => ?_
    have hm := List.mem_reverse.1 hm
    exact ⟨(h.marks m hm).1, (hlower m hm).ne⟩

/-- A character that joins nothing comes last. -/
theorem flush_append (h : s.starter = none → s.marks = []) (c : Char) :
    (s.append c).flush = c :: s.flush := by
  rw [append]
  split
  · rfl
  · split
    · rename_i hnone
      simp [flush, hnone, h hnone]
    · rename_i k hk
      simp [flush, hk]

/-- What a composition with a starter comes apart into. -/
theorem decompose_flush (hk : s.starter = some k) (hmarks : AllAtomic s.marks) :
    decompose s.flush.reverse =
      decompose s.done.reverse ++ (fullDecomposition k ++ s.marks.reverse) := by
  have hflush : s.flush.reverse = s.done.reverse ++ ([k] ++ s.marks.reverse) := by
    simp [flush, hk]
  have hself : decompose s.marks.reverse = s.marks.reverse :=
    decompose_eq_self fun c hc => hmarks c (List.mem_reverse.1 hc)
  rw [hflush, decompose_append, decompose_append, decompose_singleton, hself]

/-- One step, for a character that joins nothing. -/
theorem Sound.append (h : Sound whole (c :: ahead) s) : Sound whole ahead (s.append c) := by
  obtain ⟨hc, hatomic⟩ := List.forall_mem_cons.1 h.atomic
  -- the character is atomic, so it is the same in front and behind
  have hsame : Rearranged (decompose (s.append c).flush.reverse ++ ahead) whole := by
    have hself : fullDecomposition c = [c] := hc
    rw [flush_append h.unstarted, List.reverse_cons, decompose_append, decompose_singleton, hself,
      List.append_assoc]
    exact h.same
  rw [Composition.append] at hsame ⊢
  cases hstarter : isStarter c with
  | true =>
    rw [hstarter, if_pos rfl] at hsame
    exact ⟨fun hnone => absurd hnone (Option.some_ne_none c), List.forall_mem_nil _, hatomic,
      h.inOrder_ahead, hsame⟩
  | false =>
    rw [hstarter, if_neg Bool.false_ne_true] at hsame
    rw [if_neg Bool.false_ne_true]
    split at hsame
    · rename_i hnone
      -- without a starter, what is in front of the first one is not looked at
      refine ⟨h.unstarted, h.marks, hatomic, ?_, hsame⟩
      rw [h.unstarted hnone]
      exact h.inOrder_ahead
    · rename_i k hk
      refine ⟨fun hnone => ?_, List.forall_mem_cons.2 ⟨⟨hstarter, hc⟩, h.marks⟩, hatomic, ?_, hsame⟩
      · exact absurd (hk.symm.trans hnone) (Option.some_ne_none k)
      · rw [List.reverse_cons, List.append_assoc]
        exact h.inOrder

/-- One step, for a character that joins the starter.  Taken apart again, it stands in front of the
    marks it was joined across. -/
theorem Sound.join (h : Sound whole (c :: ahead) s) (hk : s.starter = some k)
    (hblocks : ¬ blocks s.marks c) (hp : composite? k c = some p) :
    Sound whole ahead { s with starter := some p } := by
  have hmarks : AllAtomic s.marks := fun m hm => (h.marks m hm).2
  have hsame : Rearranged (decompose (flush { s with starter := some p }).reverse ++ ahead)
      (decompose s.flush.reverse ++ c :: ahead) := by
    have hbefore : decompose s.flush.reverse ++ c :: ahead = decompose s.done.reverse ++
        (fullDecomposition k ++ (s.marks.reverse ++ [c]) ++ ahead) := by
      rw [decompose_flush hk hmarks]
      simp only [List.append_assoc, List.singleton_append]
    have hafter : decompose (flush { s with starter := some p }).reverse ++ ahead =
        decompose s.done.reverse ++ (fullDecomposition k ++ (c :: s.marks.reverse) ++ ahead) := by
      rw [decompose_flush (s := { s with starter := some p }) rfl hmarks,
        fullDecomposition_of_composite? hp]
      simp only [List.append_assoc, List.singleton_append]
    have hacross := h.rearranged_across hblocks
    rw [hbefore, hafter]
    exact ((hacross.append_left _).append_right ahead).append_left _
  exact ⟨fun hnone => absurd hnone (Option.some_ne_none p), h.marks,
    (List.forall_mem_cons.1 h.atomic).2, h.inOrder_without hblocks, hsame.trans h.same⟩

/-- **One step.** -/
theorem Sound.push (h : Sound whole (c :: ahead) s) : Sound whole ahead (s.push c) := by
  rw [Composition.push]
  split
  · exact h.append
  · rename_i k hk
    split
    · exact h.append
    · rename_i hblocks
      split
      · exact h.join hk hblocks ‹_›
      · exact h.append

/-- **A whole text.** -/
theorem Sound.foldl (h : Sound whole ahead s) : Sound whole [] (ahead.foldl Composition.push s) := by
  induction ahead generalizing s with
  | nil => exact h
  | cons c ahead ih => exact ih h.push

end Composition

/-- Taking apart what was put together leads back to the text, but for the order of its marks. -/
theorem compose_rearranged {text : List Char} (horder : InOrder text)
    (hatomic : AllAtomic text) : Rearranged (decompose (compose text)) text := by
  have hempty : Composition.Sound text text .empty :=
    ⟨fun _ => rfl, List.forall_mem_nil _, hatomic, horder, .refl text⟩
  have hsame := hempty.foldl.same
  rwa [List.append_nil] at hsame

/-- **The composed form is equivalent to the text.** -/
theorem nfd_nfc (text : List Char) : nfd (nfc text) = nfd text := by
  have horder : InOrder (nfd text) := inOrder_reorder _
  have hsame := compose_rearranged horder (allAtomic_nfd text)
  rw [nfd, nfc, hsame.reorder_eq, nfd, reorder_reorder]

/-- **The composed form decides equivalence.** -/
theorem nfc_eq_iff {xs ys : List Char} : nfc xs = nfc ys ↔ Equivalent xs ys := by
  rw [← nfd_eq_iff]
  refine ⟨fun h => ?_, fun h => ?_⟩
  · rw [← nfd_nfc xs, h, nfd_nfc]
  · rw [nfc, nfc, h]

-- A letter with two marks, composed, and apart from them with the marks in the other order.
example : Equivalent [Char.ofNat 0x1E69] ['s', Char.ofNat 0x0307, Char.ofNat 0x0323] := by
  decide +kernel

end ContentChecksum.Unicode
