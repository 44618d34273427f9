import ContentChecksum.Unicode.MarkOrder
import Mathlib.Data.List.Chain
import Mathlib.Data.List.Sort

namespace ContentChecksum.Unicode

/-!
# Texts that have the same form once their marks are in order

What putting marks in order may do to a text can be said without any order: marks of different
classes that stand beside each other change places.  This file shows that the texts that have one form
in order are those that are rearranged into each other in this way:

* `SameClasses` — two runs of marks have the same marks of each class, in the same order.  That is all
  that sorting sees of a run (`sortMarks_congr`);
* `Reordering.Alike` — two states of the reordering that differ only so.  What follows keeps them
  alike (`Alike.foldl`), and in the end they give the same text (`Alike.flush_eq`);
* `Rearranged` — the relation itself.  It is kept by concatenation (`Rearranged.append`), runs of
  marks with the same marks of each class are in it (`Rearranged.of_marks`), and it leads to states
  that are alike (`Rearranged.alike`);
* `InOrder` — no mark stands in front of one of a lower class;
* `reorder_rearranged`, `inOrder_reorder` — reordering a text rearranges it, and leads to order.  Both
  come from one invariant of the state, `Reordering.Sound`, by induction over the text;
* `reorder_eq_iff` — so two texts have one form in order exactly if one is rearranged into the other.
-/

/-! ### Runs of marks -/

/-- The same marks of each class, in the same order. -/
def SameClasses (xs ys : List Char) : Prop :=
  ∀ k, ofClass k xs = ofClass k ys

namespace SameClasses

variable {xs ys xs' ys' : List Char}

/-- A run has the same marks as itself. -/
theorem refl (xs : List Char) : SameClasses xs xs := fun _ => rfl

/-- It does not matter which of two runs comes first. -/
theorem symm (h : SameClasses xs ys) : SameClasses ys xs := fun k => (h k).symm

/-- Nor whether there is a third one between them. -/
theorem trans {zs : List Char} (h : SameClasses xs ys) (h' : SameClasses ys zs) :
    SameClasses xs zs := fun k => (h k).trans (h' k)

/-- Runs can be compared piece by piece. -/
theorem append (h : SameClasses xs ys) (h' : SameClasses xs' ys') :
    SameClasses (xs ++ xs') (ys ++ ys') := by
  intro k
  have hk := h k
  have hk' := h' k
  simp only [ofClass] at hk hk' ⊢
  rw [List.filter_append, List.filter_append, hk, hk']

/-- A mark that both runs begin with can be left out. -/
theorem of_cons {c : Char} (h : SameClasses (c :: xs) (c :: ys)) : SameClasses xs ys := by
  intro k
  have hk := h k
  simp only [ofClass, List.filter_cons] at hk ⊢
  split at hk
  · exact List.tail_eq_of_cons_eq hk
  · exact hk

/-- They are made of the same marks. -/
theorem mem_iff (h : SameClasses xs ys) {c : Char} : c ∈ xs ↔ c ∈ ys := by
  have hmem : ∀ zs : List Char, c ∈ zs ↔ c ∈ ofClass (combiningClass c) zs := fun zs => by
    simp [ofClass]
  rw [hmem xs, h, ← hmem]

end SameClasses

/-- The classes of a run are those that have a mark in it. -/
theorem mem_classesOf_iff_ofClass {xs : List Char} {k : Nat} :
    k ∈ classesOf xs ↔ ofClass k xs ≠ [] := by
  rw [mem_classesOf, ofClass, Ne, List.filter_eq_nil_iff]
  simp

/-- Sorting sees nothing of a run but the marks of each class. -/
theorem sortMarks_congr {xs ys : List Char} (h : SameClasses xs ys) :
    sortMarks xs = sortMarks ys := by
  have hclasses : classesOf xs = classesOf ys := by
    refine (pairwise_classesOf xs).eq_of_mem_iff (pairwise_classesOf ys) fun k => ?_
    rw [mem_classesOf_iff_ofClass, mem_classesOf_iff_ofClass, h k]
  have hof : (fun k => ofClass k xs) = fun k => ofClass k ys := funext h
  rw [sortMarks, sortMarks, hclasses, hof]

/-- Sorting keeps the marks of each class, in their order. -/
theorem sameClasses_sortMarks (xs : List Char) : SameClasses (sortMarks xs) xs :=
  fun k => ofClass_sortMarks k xs

/-- A mark may move past marks of other classes. -/
theorem sameClasses_cons_append {c : Char} {xs : List Char}
    (h : ∀ x ∈ xs, combiningClass x ≠ combiningClass c) : SameClasses (c :: xs) (xs ++ [c]) := by
  intro k
  rw [← List.singleton_append]
  simp only [ofClass, List.filter_append]
  by_cases hk : combiningClass c = k
  · have hnone : xs.filter (fun x => combiningClass x = k) = [] := by
      rw [List.filter_eq_nil_iff]
      intro x hx
      simpa using hk ▸ h x hx
    rw [hnone, List.nil_append, List.append_nil]
  · rw [List.filter_cons_of_neg (by simpa using hk), List.filter_nil, List.nil_append,
      List.append_nil]

/-- The first mark of a run is the first of its class in the other. -/
theorem SameClasses.exists_of_cons {c : Char} {xs ys : List Char} (h : SameClasses (c :: xs) ys) :
    ∃ front back, ys = front ++ c :: back ∧
      (∀ x ∈ front, combiningClass x ≠ combiningClass c) ∧ SameClasses xs (front ++ back) := by
  have hfirst : (ofClass (combiningClass c) ys).head? = some c := by
    rw [← h, ofClass, List.filter_cons_of_pos (by simp)]
    rfl
  rw [ofClass, List.head?_filter, List.find?_eq_some_iff_append] at hfirst
  obtain ⟨-, front, back, rfl, hfront⟩ := hfirst
  have hne : ∀ x ∈ front, combiningClass x ≠ combiningClass c := fun x hx => by
    simpa using hfront x hx
  have hmove := (sameClasses_cons_append hne).append (.refl back)
  rw [List.append_assoc] at hmove
  exact ⟨front, back, rfl, hne, (h.trans hmove.symm).of_cons⟩

/-! ### States that go on alike -/

namespace Reordering

/-- Two states with the same text in order, and with the same marks of each class behind it. -/
structure Alike (s s' : Reordering) : Prop where
  done_eq : s.done = s'.done
  marks : SameClasses s.marks.reverse s'.marks.reverse

namespace Alike

variable {s s' s'' : Reordering}

/-- Every state is alike to itself. -/
theorem refl (s : Reordering) : Alike s s := ⟨rfl, .refl _⟩

/-- States that are alike to a third one are alike. -/
theorem trans (h : Alike s s') (h' : Alike s' s'') : Alike s s'' :=
  ⟨h.done_eq.trans h'.done_eq, h.marks.trans h'.marks⟩

/-- In the end, states that are alike give the same text. -/
theorem flush_eq (h : Alike s s') : s.flush = s'.flush := by
  rw [flush, flush, sortMarks_congr h.marks, h.done_eq]

/-- One more character. -/
theorem push (h : Alike s s') (c : Char) : Alike (s.push c) (s'.push c) := by
  rw [Reordering.push, Reordering.push]
  split
  · rw [h.flush_eq]
    exact .refl _
  · refine ⟨h.done_eq, ?_⟩
    rw [List.reverse_cons, List.reverse_cons]
    exact h.marks.append (.refl _)

/-- And so do any number of characters keep them. -/
theorem foldl (h : Alike s s') (text : List Char) :
    Alike (text.foldl Reordering.push s) (text.foldl Reordering.push s') := by
  induction text generalizing s s' with
  | nil => exact h
  | cons c text ih => exact ih (h.push c)

end Alike

/-- Marks are put behind those that are there. -/
theorem foldl_push_marks {marks : List Char} (h : ∀ c ∈ marks, isStarter c = false)
    (s : Reordering) : marks.foldl push s = { s with marks := marks.reverse ++ s.marks } := by
  induction marks generalizing s with
  | nil => rfl
  | cons c marks ih =>
    rw [List.forall_mem_cons] at h
    rw [List.foldl_cons, ih h.2, push, if_neg (by simp [h.1]), List.reverse_cons,
      List.append_assoc]
    rfl

end Reordering

/-! ### Marks that change places -/

open Reordering (Alike)

/-- Marks of different classes that stand beside each other change places, any number of times. -/
inductive Rearranged : List Char → List Char → Prop
  | nil : Rearranged [] []
  | cons (c : Char) {xs ys : List Char} (h : Rearranged xs ys) : Rearranged (c :: xs) (c :: ys)
  | swap {c d : Char} (hc : isStarter c = false) (hd : isStarter d = false)
    (hne : combiningClass c ≠ combiningClass d) (rest : List Char) :
    Rearranged (c :: d :: rest) (d :: c :: rest)
  | trans {xs ys zs : List Char} (h : Rearranged xs ys) (h' : Rearranged ys zs) : Rearranged xs zs

namespace Rearranged

variable {xs ys xs' ys' : List Char}

/-- A text is rearranged into itself by no exchange at all. -/
theorem refl (xs : List Char) : Rearranged xs xs := by
  induction xs with
  | nil => exact .nil
  | cons c xs ih => exact .cons c ih

/-- Every exchange can be undone. -/
theorem symm (h : Rearranged xs ys) : Rearranged ys xs := by
  induction h with
  | nil => exact .nil
  | cons c _ ih => exact .cons c ih
  | swap hc hd hne rest => exact .swap hd hc hne.symm rest
  | trans _ _ ih ih' => exact ih'.trans ih

/-- Exchanges can be made in front of any text. -/
theorem append_right (h : Rearranged xs ys) (zs : List Char) : Rearranged (xs ++ zs) (ys ++ zs) := by
  induction h with
  | nil => exact .refl zs
  | cons c _ ih => exact .cons c ih
  | swap hc hd hne rest => exact .swap hc hd hne (rest ++ zs)
  | trans _ _ ih ih' => exact ih.trans ih'

/-- And behind any text. -/
theorem append_left (zs : List Char) (h : Rearranged xs ys) : Rearranged (zs ++ xs) (zs ++ ys) := by
  induction zs with
  | nil => exact h
  | cons c zs ih => exact .cons c ih

/-- **A congruence.** Parts may be rearranged inside any text. -/
theorem append (h : Rearranged xs ys) (h' : Rearranged xs' ys') :
    Rearranged (xs ++ xs') (ys ++ ys') :=
  (h.append_right xs').trans (h'.append_left ys)

/-- A mark may move past marks of other classes. -/
theorem cons_append {c : Char} (hc : isStarter c = false)
    (hxs : ∀ x ∈ xs, isStarter x = false ∧ combiningClass x ≠ combiningClass c) :
    Rearranged (c :: xs) (xs ++ [c]) := by
  induction xs with
  | nil => exact .refl [c]
  | cons x xs ih =>
    rw [List.forall_mem_cons] at hxs
    obtain ⟨⟨hx, hne⟩, hxs⟩ := hxs
    exact (Rearranged.swap hc hx hne.symm xs).trans (.cons x (ih hxs))

/-- Runs of marks with the same marks of each class are rearranged into each other: the first mark of
    one run is moved to the front of the other. -/
theorem of_marks (h : SameClasses xs ys) (hxs : ∀ c ∈ xs, isStarter c = false)
    (hys : ∀ c ∈ ys, isStarter c = false) : Rearranged xs ys := by
  induction xs generalizing ys with
  | nil =>
    rw [List.eq_nil_iff_forall_not_mem.2 fun c hc => List.not_mem_nil (h.mem_iff.2 hc)]
    exact .nil
  | cons c xs ih =>
    obtain ⟨front, back, rfl, hne, hsame⟩ := h.exists_of_cons
    rw [List.forall_mem_cons] at hxs
    rw [List.forall_mem_append, List.forall_mem_cons] at hys
    have hrest : Rearranged xs (front ++ back) :=
      ih hsame hxs.2 (List.forall_mem_append.2 ⟨hys.1, hys.2.2⟩)
    have hmove : Rearranged (c :: front) (front ++ [c]) :=
      .cons_append hxs.1 fun x hx => ⟨hys.1 x hx, hne x hx⟩
    have hback := hmove.append_right back
    rw [List.append_assoc] at hback
    exact (Rearranged.cons c hrest).trans hback

/-- States that texts lead to go on alike if the texts are rearranged into each other. -/
theorem alike (h : Rearranged xs ys) (s : Reordering) :
    Alike (xs.foldl Reordering.push s) (ys.foldl Reordering.push s) := by
  induction h generalizing s with
  | nil => exact .refl s
  | cons c _ ih => exact ih (s.push c)
  | @swap c d hc hd hne rest =>
    have hpair : Alike ([c, d].foldl Reordering.push s) ([d, c].foldl Reordering.push s) := by
      rw [Reordering.foldl_push_marks (by simp [hc, hd]),
        Reordering.foldl_push_marks (by simp [hc, hd])]
      have hswap : SameClasses [c, d] [d, c] := sameClasses_cons_append (by simpa using hne.symm)
      refine ⟨rfl, ?_⟩
      rw [List.reverse_append, List.reverse_append, List.reverse_reverse, List.reverse_reverse]
      exact (SameClasses.refl _).append hswap
    exact hpair.foldl rest
  | trans _ _ ih ih' => exact (ih s).trans (ih' s)

/-- Texts that are rearranged into each other have one form in order. -/
theorem reorder_eq (h : Rearranged xs ys) : reorder xs = reorder ys := by
  rw [reorder, reorder, (h.alike _).flush_eq]

end Rearranged

/-! ### Marks in order -/

/-- No mark stands in front of one of a lower class. -/
def InOrder (text : List Char) : Prop :=
  text.IsChain fun c d => isStarter d = true ∨ combiningClass c ≤ combiningClass d

/-- The starters are the characters of class zero. -/
theorem combiningClass_eq_zero_iff {c : Char} : isStarter c = true ↔ combiningClass c = 0 := by
  rw [isStarter, decide_eq_true_eq]

/-- Marks that are sorted are in order. -/
theorem inOrder_sortMarks (marks : List Char) : InOrder (sortMarks marks) :=
  ((pairwise_sortMarks marks).imp fun h => Or.inr h).isChain

/-- A starter may stand in front of anything. -/
theorem InOrder.append_of_starter {xs ys : List Char} (h : InOrder xs) (h' : InOrder ys)
    (hend : ∀ c ∈ xs.getLast?, isStarter c = true) : InOrder (xs ++ ys) := by
  refine List.isChain_append.2 ⟨h, h', fun c hc d _ => Or.inr ?_⟩
  rw [combiningClass_eq_zero_iff.1 (hend c hc)]
  exact Nat.zero_le _

/-- And behind anything. -/
theorem InOrder.concat_starter {xs : List Char} {c : Char} (h : InOrder xs)
    (hc : isStarter c = true) : InOrder (xs ++ [c]) := by
  refine List.isChain_append.2 ⟨h, .singleton c, fun _ _ d hd => Or.inl ?_⟩
  rw [← Option.some.inj hd, hc]

/-- Among marks, order reaches from any of them to any later one. -/
theorem InOrder.pairwise {marks : List Char} (h : InOrder marks)
    (hmarks : ∀ c ∈ marks, isStarter c = false) :
    marks.Pairwise fun c d => combiningClass c ≤ combiningClass d := by
  have hchain : marks.IsChain fun c d => combiningClass c ≤ combiningClass d :=
    h.imp_of_mem_imp fun c d _ hd hcd => hcd.resolve_left (by simp [hmarks d hd])
  exact hchain.pairwise

namespace Reordering

/-- What holds of a reordering that has taken in `text`: what is done is in order and ends with a
    starter, only marks are behind it, and both together are the text rearranged. -/
structure Sound (text : List Char) (s : Reordering) : Prop where
  marks : ∀ c ∈ s.marks, isStarter c = false
  done_inOrder : InOrder s.done.reverse
  done_ends : ∀ c ∈ s.done.head?, isStarter c = true
  same : Rearranged (s.done.reverse ++ s.marks.reverse) text

/-- The invariant holds at the start of a text. -/
theorem Sound.empty : Sound [] empty where
  marks := List.forall_mem_nil _
  done_inOrder := .nil
  done_ends _ hc := nomatch hc
  same := .refl _

/-- The text of a state is what is done, and then the marks behind it, sorted. -/
theorem reverse_flush (s : Reordering) :
    s.flush.reverse = s.done.reverse ++ sortMarks s.marks.reverse := by
  rw [flush, List.reverseAux_eq, List.reverse_append, List.reverse_reverse]

variable {text : List Char} {s : Reordering}

/-- Sorting the marks that are behind changes nothing that matters. -/
theorem Sound.flush_rearranged (h : Sound text s) : Rearranged s.flush.reverse text := by
  have hmarks : ∀ c ∈ s.marks.reverse, isStarter c = false := fun c hc =>
    h.marks c (List.mem_reverse.1 hc)
  have hsorted : Rearranged (sortMarks s.marks.reverse) s.marks.reverse :=
    .of_marks (sameClasses_sortMarks _) (fun c hc => hmarks c (mem_sortMarks.1 hc)) hmarks
  rw [reverse_flush]
  exact (hsorted.append_left _).trans h.same

/-- Once the marks behind are sorted, everything is in order. -/
theorem Sound.flush_inOrder (h : Sound text s) : InOrder s.flush.reverse := by
  rw [reverse_flush]
  refine h.done_inOrder.append_of_starter (inOrder_sortMarks _) fun c hc => h.done_ends c ?_
  rwa [List.getLast?_reverse] at hc

/-- **One step.** A starter ends the run of marks in front of it, and a mark joins the run. -/
theorem Sound.push (h : Sound text s) (c : Char) : Sound (text ++ [c]) (s.push c) := by
  rw [Reordering.push]
  cases hc : isStarter c with
  | true =>
    rw [if_pos rfl]
    refine ⟨List.forall_mem_nil _, ?_, ?_, ?_⟩
    · rw [List.reverse_cons]
      exact h.flush_inOrder.concat_starter hc
    · intro d hd
      rw [← Option.some.inj hd, hc]
    · rw [List.reverse_nil, List.append_nil, List.reverse_cons]
      exact h.flush_rearranged.append_right [c]
  | false =>
    rw [if_neg Bool.false_ne_true]
    refine ⟨List.forall_mem_cons.2 ⟨hc, h.marks⟩, h.done_inOrder, h.done_ends, ?_⟩
    rw [List.reverse_cons, ← List.append_assoc]
    exact h.same.append_right [c]

/-- **A whole text.** -/
theorem Sound.foldl (h : Sound text s) (more : List Char) :
    Sound (text ++ more) (more.foldl Reordering.push s) := by
  induction more generalizing text s with
  | nil => rwa [List.append_nil]
  | cons c more ih =>
    rw [← List.singleton_append, ← List.append_assoc]
    exact ih (h.push c)

end Reordering

/-- Reordering a text rearranges it. -/
theorem reorder_rearranged (text : List Char) : Rearranged (reorder text) text :=
  (Reordering.Sound.empty.foldl text).flush_rearranged

/-- Reordering puts every mark in order. -/
theorem inOrder_reorder (text : List Char) : InOrder (reorder text) :=
  (Reordering.Sound.empty.foldl text).flush_inOrder

/-- **Order.** Two texts are the same in order exactly if they are rearranged into each other. -/
theorem reorder_eq_iff {xs ys : List Char} : reorder xs = reorder ys ↔ Rearranged xs ys := by
  refine ⟨fun h => ?_, Rearranged.reorder_eq⟩
  have hxs := reorder_rearranged xs
  rw [h] at hxs
  exact hxs.symm.trans (reorder_rearranged ys)

/-- A text in order is left as it is. -/
theorem reorder_reorder (text : List Char) : reorder (reorder text) = reorder text :=
  (reorder_rearranged text).reorder_eq

-- A mark below and a mark above change places; a starter between them would keep them apart.
example : reorder ['a', Char.ofNat 0x0301, Char.ofNat 0x0323] =
    reorder ['a', Char.ofNat 0x0323, Char.ofNat 0x0301] := by decide +kernel

end ContentChecksum.Unicode
