import ContentChecksum.Proofs.CanonicalEquivalence

namespace ContentChecksum.Unicode

/-!
# Characters that normal forms stop at

A `Barrier` is a starter that no table names, as the control characters are.  It is not taken apart,
no mark moves past it and nothing is composed with it, so what stands on its two sides is brought into
normal form as if it stood alone:

* `Reordering.foldl_behind` / `Composition.foldl_behind` — what is finished only has to be put in
  front of what comes out of the rest.  Reordering finishes everything at a starter
  (`reorder_append`).  In composing a barrier is a starter that waits for characters to join it; none
  does, and the next starter finishes it (`Composition.flush_foldl_waiting`, `compose_append`);
* `Barrier.nfd_append` / `Barrier.nfc_append` — so both normal forms stop at barriers;
* `Form` — what the two have in common, and all that is used of them where texts are cleaned.
-/

/-- A starter that no table names, and no letter or syllable of Hangul. -/
structure Barrier (x : Char) : Prop extends Inert x where
  starter : isStarter x = true

/-- No table names a control character, and none of them is a mark. -/
theorem Barrier.of_control {c : Char} (h : c.toNat < 0x20) : Barrier c := by
  have hprimary : ∀ e ∈ primaryComposites,
      ∀ n ∈ [e.1, e.2.1, e.2.2], 0x20 ≤ (Char.ofNat n).toNat := by decide +kernel
  have hexcluded : ∀ e ∈ excludedComposites,
      ∀ n ∈ [e.1, e.2.1, e.2.2], 0x20 ≤ (Char.ofNat n).toNat := by decide +kernel
  have hsingleton : ∀ e ∈ singletons, ∀ n ∈ [e.1, e.2], 0x20 ≤ (Char.ofNat n).toNat := by
    decide +kernel
  have hstarter : ∀ n : Fin 0x20, isStarter (Char.ofNat n.val) = true := by decide +kernel
  have hnot : ∀ {numbers : List Nat}, (∀ n ∈ numbers, 0x20 ≤ (Char.ofNat n).toNat) →
      c ∉ numbers.map Char.ofNat := by
    intro numbers hnumbers hc
    obtain ⟨n, hn, rfl⟩ := List.mem_map.1 hc
    exact absurd h (Nat.not_lt.2 (hnumbers n hn))
  refine ⟨⟨fun e he => ?_, fun e he => ?_, fun e he => ?_, fun hspans => ?_⟩, ?_⟩
  · exact hnot (hprimary e he)
  · exact hnot (hexcluded e he)
  · exact hnot (hsingleton e he)
  · exact absurd (Nat.lt_of_le_of_lt hspans.1 h) (by decide)
  · have hc := hstarter ⟨c.toNat, h⟩
    rwa [Char.ofNat_toNat] at hc

/-- Line breaks are barriers. -/
theorem Barrier.lf : Barrier '\n' := .of_control (by decide)

/-- So are the CR that are to become line breaks. -/
theorem Barrier.cr : Barrier '\r' := .of_control (by decide)

/-! ### Inert characters are left alone -/

namespace Hangul

/-- A character with a place in a block of letters or syllables is one of Hangul. -/
theorem spans_of_place? {base count k : Nat} {c : Char} (h : place? base count c = some k)
    (hle : leadingBase ≤ base) (hlt : base + count ≤ syllableBase + syllableCount) : Spans c := by
  obtain ⟨hk, hc⟩ := lt_and_toNat_eq_of_place? h
  rw [Spans, hc]
  omega

/-- What is put together are letters and syllables. -/
theorem spans_of_compose?_eq_some {first second c : Char} (h : compose? first second = some c) :
    Spans first ∧ Spans second := by
  unfold compose? at h
  split at h
  · rename_i l v hl hv
    exact ⟨spans_of_place? hl (by decide) (by decide), spans_of_place? hv (by decide) (by decide)⟩
  · split at h
    · rename_i s t hs ht
      exact ⟨spans_of_place? hs (by decide) (by decide), spans_of_place? ht (by decide) (by decide)⟩
    · simp at h

end Hangul

namespace Inert

variable {x c : Char} (hx : Inert x)

include hx

/-- Inert characters are not taken apart. -/
theorem atomic : Atomic x := by
  have hself : ∀ {n}, n = x.toNat → Char.ofNat n = x := fun h => (Hangul.eq_ofNat h.symm).symm
  have hmapping : mapping? x = none := by
    refine mapping?_eq_none fun m hentry => ?_
    cases hentry with
    | primary e he hc => exact hx.primary e he (by rw [hself hc]; exact List.mem_cons_self)
    | excluded e he hc => exact hx.excluded e he (by rw [hself hc]; exact List.mem_cons_self)
    | singleton e he hc => exact hx.singleton e he (by rw [hself hc]; exact List.mem_cons_self)
  refine atomic_of_mapping?_eq_none hmapping ?_
  rw [Hangul.decompose?, Option.map_eq_none_iff, Option.eq_none_iff_forall_ne_some]
  exact fun k hk => hx.hangul (Hangul.spans_of_place? hk (by decide) (by decide))

/-- Inert characters are not composed with any other. -/
theorem not_composed {first second : Char} (h : composite? first second = some c) :
    x ≠ first ∧ x ≠ second := by
  rw [composite?] at h
  split at h
  · simp at h
  · split at h
    · rename_i p hp
      obtain ⟨hfirst, hsecond⟩ := Hangul.spans_of_compose?_eq_some hp
      exact ⟨fun heq => hx.hangul (heq ▸ hfirst), fun heq => hx.hangul (heq ▸ hsecond)⟩
    · obtain ⟨e, he, -, rfl, rfl⟩ := exists_entry_of_find?_compositeTree h
      have hmem := hx.primary e he
      simp only [List.mem_cons, not_or] at hmem
      exact ⟨hmem.2.1, hmem.2.2.1⟩

/-- No character joins an inert one. -/
theorem composite?_left : composite? x c = none :=
  Option.eq_none_iff_forall_ne_some.2 fun _ h => (hx.not_composed h).1 rfl

/-- And it joins no other. -/
theorem composite?_right : composite? c x = none :=
  Option.eq_none_iff_forall_ne_some.2 fun _ h => (hx.not_composed h).2 rfl

end Inert

/-! ### Marks in order -/

namespace Reordering

/-- With more text in order in front of everything. -/
def behind (front : List Char) (s : Reordering) : Reordering :=
  { s with done := s.done ++ front }

/-- Text in front of everything stays in front. -/
theorem flush_behind (front : List Char) (s : Reordering) :
    (s.behind front).flush = s.flush ++ front := by
  rw [flush, flush, behind, List.reverseAux_eq, List.reverseAux_eq, List.append_assoc]

/-- No step looks at what is in order already. -/
theorem push_behind (front : List Char) (s : Reordering) (c : Char) :
    (s.behind front).push c = (s.push c).behind front := by
  rw [push, push]
  split
  · rw [flush_behind]
    rfl
  · rfl

/-- So no text does. -/
theorem foldl_behind (front text : List Char) (s : Reordering) :
    text.foldl push (s.behind front) = (text.foldl push s).behind front := by
  induction text generalizing s with
  | nil => rfl
  | cons c text ih => rw [List.foldl_cons, push_behind, ih, List.foldl_cons]

end Reordering

/-- No mark moves past a starter. -/
theorem reorder_append {x : Char} (hx : isStarter x = true) (a b : List Char) :
    reorder (a ++ x :: b) = reorder a ++ x :: reorder b := by
  have hpush : ∀ s : Reordering, s.push x = Reordering.empty.behind (x :: s.flush) := fun s => by
    rw [Reordering.push, if_pos hx]
    rfl
  rw [reorder, List.foldl_append, List.foldl_cons, hpush, Reordering.foldl_behind,
    Reordering.flush_behind, List.reverse_append, List.reverse_cons, List.append_assoc]
  rfl

/-! ### Putting together -/

namespace Composition

/-- With more text finished in front of everything. -/
def behind (front : List Char) (s : Composition) : Composition :=
  { s with done := s.done ++ front }

/-- Text finished in front of everything stays in front. -/
theorem flush_behind (front : List Char) (s : Composition) :
    (s.behind front).flush = s.flush ++ front := by
  obtain ⟨done, starter, marks⟩ := s
  cases starter <;> simp [flush, behind]

/-- A character that is not composed is put behind it. -/
theorem append_behind (front : List Char) (s : Composition) (c : Char) :
    (s.behind front).append c = (s.append c).behind front := by
  rw [append, append, flush_behind]
  split
  · rfl
  · cases hstarter : s.starter <;> simp [behind, hstarter]

/-- No step looks at what is finished. -/
theorem push_behind (front : List Char) (s : Composition) (c : Char) :
    (s.behind front).push c = (s.push c).behind front := by
  have hstarter : (s.behind front).starter = s.starter := rfl
  have hmarks : (s.behind front).marks = s.marks := rfl
  rw [push, push, append_behind, hstarter, hmarks]
  split
  · rfl
  · split
    · rfl
    · split <;> rfl

/-- So no text does. -/
theorem foldl_behind (front text : List Char) (s : Composition) :
    text.foldl push (s.behind front) = (text.foldl push s).behind front := by
  induction text generalizing s with
  | nil => rfl
  | cons c text ih => rw [List.foldl_cons, push_behind, ih, List.foldl_cons]

/-- A starter that no character joins is waiting.  The marks behind it stay there, as they do in front
    of the first starter, and the next starter finishes it. -/
theorem flush_foldl_waiting {x : Char} (hx : ∀ c, composite? x c = none) (done text : List Char)
    (marks : List Char) :
    (text.foldl push ⟨done, some x, marks⟩).flush =
      (text.foldl push ⟨marks, none, []⟩).flush ++ x :: done := by
  induction text generalizing marks with
  | nil => rfl
  | cons c text ih =>
    -- `c` joins neither side: on the left nothing joins `x`, on the right there is no starter
    have hwaiting : push ⟨done, some x, marks⟩ c = append ⟨done, some x, marks⟩ c := by
      simp only [push, hx, ite_self]
    have hunstarted : push ⟨marks, none, []⟩ c = append ⟨marks, none, []⟩ c := rfl
    rw [List.foldl_cons, List.foldl_cons, hwaiting, hunstarted, append, append]
    cases hc : isStarter c with
    | true =>
      -- the left side finishes `x` here, and both sides go on from the same starter
      have hbehind : (⟨marks ++ x :: done, some c, []⟩ : Composition) =
          behind (x :: done) ⟨marks, some c, []⟩ := rfl
      rw [if_pos rfl, if_pos rfl]
      show (text.foldl push ⟨marks ++ x :: done, some c, []⟩).flush =
        (text.foldl push ⟨marks, some c, []⟩).flush ++ x :: done
      rw [hbehind, foldl_behind, flush_behind]
    | false =>
      rw [if_neg Bool.false_ne_true, if_neg Bool.false_ne_true]
      exact ih (c :: marks)

end Composition

/-- Nothing is composed across a barrier. -/
theorem compose_append {x : Char} (hx : Barrier x) (a b : List Char) :
    compose (a ++ x :: b) = compose a ++ x :: compose b := by
  have hpush : ∀ s : Composition, s.push x = ⟨s.flush, some x, []⟩ := fun s => by
    have happend : s.append x = ⟨s.flush, some x, []⟩ := if_pos hx.starter
    rw [Composition.push, happend]
    split
    · rfl
    · rw [hx.composite?_right, ite_self]
  rw [compose, List.foldl_append, List.foldl_cons, hpush,
    Composition.flush_foldl_waiting fun c => hx.composite?_left, List.reverse_append,
    List.reverse_cons, List.append_assoc]
  rfl

/-! ### Normal forms -/

namespace Barrier

variable {x : Char} (hx : Barrier x)

include hx

/-- **Canonical decomposition stops at a barrier.** -/
theorem nfd_append (a b : List Char) : nfd (a ++ x :: b) = nfd a ++ x :: nfd b := by
  have hself : fullDecomposition x = [x] := hx.atomic
  have hdecompose : decompose (x :: b) = x :: decompose b := by
    rw [← List.singleton_append, decompose_append, decompose_singleton, hself,
      List.singleton_append]
  rw [nfd, decompose_append, hdecompose, reorder_append hx.starter, nfd, nfd]

/-- **Canonical composition stops at a barrier.** -/
theorem nfc_append (a b : List Char) : nfc (a ++ x :: b) = nfc a ++ x :: nfc b := by
  rw [nfc, hx.nfd_append, compose_append hx, nfc, nfc]

end Barrier

/-- A normal form: it is equivalent to the text, and it neither moves barriers nor makes any. -/
structure Form (form : List Char → List Char) : Prop where
  equivalent : ∀ text, Equivalent (form text) text
  append : ∀ {x}, Barrier x → ∀ a b, form (a ++ x :: b) = form a ++ x :: form b
  mem : ∀ {x}, Barrier x → ∀ {text}, x ∈ form text → x ∈ text

/-- Canonical decomposition is a normal form. -/
theorem form_nfd : Form nfd where
  equivalent text := nfd_eq_iff.1 (nfd_nfd text)
  append hx := hx.nfd_append
  mem hx _ h := hx.mem_of_mem_decompose (mem_reorder.1 h)

/-- Canonical composition is a normal form. -/
theorem form_nfc : Form nfc where
  equivalent text := nfd_eq_iff.1 (nfd_nfc text)
  append hx := hx.nfc_append
  mem hx _ h := hx.mem_of_mem_nfc h

end ContentChecksum.Unicode
