import ContentChecksum.Unicode.CombiningClass

/-!
# The order of marks

Marks of different classes look the same in any order, so a text is compared after each run of marks
has been put in the order of their classes.  Marks of one class keep their order, since they may
look different in another.

* `sortMarks` sorts one run, class by class;
* `reorder` sorts every run of a text, and leaves the starters between them in place.
-/

namespace ContentChecksum.Unicode

/-! ### One run of marks -/

/-- Add a number to an ascending list that may hold it already. -/
def addAscending (k : Nat) : List Nat → List Nat
  | [] => [k]
  | j :: rest =>
    if k < j then k :: j :: rest else if k = j then j :: rest else j :: addAscending k rest

/-- The classes of some marks, each of them once and in ascending order. -/
def classesOf (marks : List Char) : List Nat :=
  marks.foldl (fun classes c => addAscending (combiningClass c) classes) []

/-- The marks of one class. -/
def ofClass (k : Nat) (marks : List Char) : List Char :=
  marks.filter fun c => combiningClass c = k

/-- A run of marks in the order of their classes. -/
def sortMarks (marks : List Char) : List Char :=
  (classesOf marks).flatMap fun k => ofClass k marks

/-! ### A whole text -/

/-- A text that is being put in order: what is in order already, and the marks behind it, which are
not; both lists are kept back to front. -/
structure Reordering where
  done : List Char
  marks : List Char

namespace Reordering

/-- Before the first character. -/
def empty : Reordering :=
  ⟨[], []⟩

/-- The whole text in order, back to front. -/
def flush (s : Reordering) : List Char :=
  (sortMarks s.marks.reverse).reverseAux s.done

/-- Take in the next character. -/
def push (s : Reordering) (c : Char) : Reordering :=
  if isStarter c then ⟨c :: s.flush, []⟩ else { s with marks := c :: s.marks }

end Reordering

/-- Every run of marks in the order of their classes. -/
def reorder (text : List Char) : List Char :=
  (text.foldl Reordering.push Reordering.empty).flush.reverse

/-! ### What sorting does to a run -/

/-- A class that is added is there, and so are those that were. -/
theorem mem_addAscending {j k : Nat} {classes : List Nat} :
    j ∈ addAscending k classes ↔ j = k ∨ j ∈ classes := by
  induction classes with
  | nil => simp [addAscending]
  | cons i rest ih =>
    unfold addAscending
    split
    · simp
    · split
      · rename_i h; subst h; simp
      · simp only [List.mem_cons, ih]
        constructor <;> rintro (h | h | h) <;> simp [h]

/-- Adding a class keeps the order, and none is there twice. -/
theorem pairwise_addAscending {k : Nat} {classes : List Nat} (h : classes.Pairwise (· < ·)) :
    (addAscending k classes).Pairwise (· < ·) := by
  induction classes with
  | nil => simp [addAscending]
  | cons i rest ih =>
    rw [List.pairwise_cons] at h
    unfold addAscending
    split
    · rename_i hki
      refine List.pairwise_cons.2 ⟨fun j hj => ?_, List.pairwise_cons.2 h⟩
      rcases List.mem_cons.1 hj with rfl | hj
      · exact hki
      · exact Nat.lt_trans hki (h.1 j hj)
    · split
      · exact List.pairwise_cons.2 h
      · refine List.pairwise_cons.2 ⟨fun j hj => ?_, ih h.2⟩
        rcases mem_addAscending.1 hj with rfl | hj
        · omega
        · exact h.1 j hj

/-- So does adding the classes of any marks. -/
theorem pairwise_foldl_addAscending (marks : List Char) {classes : List Nat}
    (h : classes.Pairwise (· < ·)) :
    (marks.foldl (fun classes c => addAscending (combiningClass c) classes) classes).Pairwise
      (· < ·) := by
  induction marks generalizing classes with
  | nil => exact h
  | cons c marks ih => exact ih (pairwise_addAscending h)

/-- Afterwards the classes of these marks are there, beside those that were. -/
theorem mem_foldl_addAscending (marks : List Char) {classes : List Nat} {k : Nat} :
    k ∈ marks.foldl (fun classes c => addAscending (combiningClass c) classes) classes ↔
      k ∈ classes ∨ ∃ c ∈ marks, combiningClass c = k := by
  induction marks generalizing classes with
  | nil => simp
  | cons c marks ih =>
    simp only [List.foldl_cons, ih, mem_addAscending, List.mem_cons, exists_eq_or_imp]
    constructor
    · rintro ((h | h) | h)
      · exact Or.inr (Or.inl h.symm)
      · exact Or.inl h
      · exact Or.inr (Or.inr h)
    · rintro (h | h | h)
      · exact Or.inl (Or.inr h)
      · exact Or.inl (Or.inl h.symm)
      · exact Or.inr h

/-- The classes of a run are those of its marks. -/
theorem mem_classesOf {marks : List Char} {k : Nat} :
    k ∈ classesOf marks ↔ ∃ c ∈ marks, combiningClass c = k := by
  simp [classesOf, mem_foldl_addAscending]

/-- They ascend. -/
theorem pairwise_classesOf (marks : List Char) : (classesOf marks).Pairwise (· < ·) :=
  pairwise_foldl_addAscending marks List.Pairwise.nil

/-- Nothing is lost or added. -/
theorem mem_sortMarks {marks : List Char} {c : Char} : c ∈ sortMarks marks ↔ c ∈ marks := by
  simp only [sortMarks, ofClass, List.mem_flatMap, mem_classesOf, List.mem_filter,
    decide_eq_true_eq]
  constructor
  · rintro ⟨_, _, h, _⟩
    exact h
  · intro h
    exact ⟨_, ⟨c, h, rfl⟩, h, rfl⟩

/-- The classes ascend. -/
theorem pairwise_sortMarks (marks : List Char) :
    (sortMarks marks).Pairwise fun c d => combiningClass c ≤ combiningClass d := by
  refine List.pairwise_flatMap.2 ⟨fun k _ => ?_, (pairwise_classesOf marks).imp fun {j k} h => ?_⟩
  · refine List.Pairwise.imp_of_mem ?_ (List.pairwise_of_forall fun _ _ => trivial)
    intro c d hc hd _
    simp only [ofClass, List.mem_filter, decide_eq_true_eq] at hc hd
    omega
  · intro c hc d hd
    simp only [ofClass, List.mem_filter, decide_eq_true_eq] at hc hd
    omega

/-- There are no marks of two classes. -/
theorem ofClass_ofClass (j k : Nat) (marks : List Char) :
    ofClass k (ofClass j marks) = if j = k then ofClass k marks else [] := by
  unfold ofClass
  rw [List.filter_filter]
  split
  · rename_i h
    subst h
    simp
  · rename_i h
    rw [List.filter_eq_nil_iff]
    intro c _
    simp only [Bool.and_eq_true, decide_eq_true_eq]
    omega

/-- From runs of one class each, put behind each other, the marks of a class are got back. -/
theorem ofClass_flatMap {classes : List Nat} (k : Nat) (marks : List Char)
    (h : classes.Pairwise (· < ·)) :
    ofClass k (classes.flatMap fun j => ofClass j marks) =
      if k ∈ classes then ofClass k marks else [] := by
  induction classes with
  | nil => simp [ofClass]
  | cons j rest ih =>
    rw [List.pairwise_cons] at h
    rw [List.flatMap_cons, ofClass, List.filter_append, ← ofClass, ← ofClass, ofClass_ofClass,
      ih h.2]
    by_cases hjk : j = k
    · subst hjk
      have : j ∉ rest := fun hj => Nat.lt_irrefl j (h.1 j hj)
      simp [this]
    · simp [hjk, Ne.symm hjk]

/-- Marks of one class keep their order. -/
theorem ofClass_sortMarks (k : Nat) (marks : List Char) :
    ofClass k (sortMarks marks) = ofClass k marks := by
  rw [sortMarks, ofClass_flatMap k marks (pairwise_classesOf marks)]
  split
  · rfl
  · rename_i h
    refine (List.filter_eq_nil_iff.2 fun c hc => ?_).symm
    have : combiningClass c ≠ k := fun hk => h (mem_classesOf.2 ⟨c, hc, hk⟩)
    simpa using this

-- The cedilla goes before the accents, and these keep their order.
example : sortMarks [Char.ofNat 0x0301, Char.ofNat 0x0300, Char.ofNat 0x0327] =
    [Char.ofNat 0x0327, Char.ofNat 0x0301, Char.ofNat 0x0300] := by decide +kernel

end ContentChecksum.Unicode
