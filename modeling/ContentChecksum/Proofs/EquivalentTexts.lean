import ContentChecksum.Proofs.Barriers
import ContentChecksum.Proofs.TextAndStream

namespace ContentChecksum

/-!
# Equivalent texts have the same checksum

A text is composed last, after its line breaks are unified and its replacement characters removed.  A
text that comes in another normal form ends up the same nevertheless, since CR, LF and the replacement
character are barriers:

* `Unicode.Form.unify` — line breaks may be unified before or after a text is brought into a form.
  The text is cut at each CR, and in front of a CR nothing changes;
* `Unicode.Form.equivalent_strip` — the same holds of replacement characters up to equivalence: what
  they kept apart comes together, and is composed only then.  The text is cut at each of them, and the
  pieces are put together by `Equivalent.append`;
* `Unicode.Form.canonical_eq` — so the canonical form does not depend on the form.
-/

namespace Text

open Unicode (Barrier Equivalent Form)

/-- A text is plain, or it has a plain front, the character, and a rest. -/
theorem induction_at {x : Char} {P : List Char → Prop} (plain : ∀ text, x ∉ text → P text)
    (split : ∀ front rest, x ∉ front → P rest → P (front ++ x :: rest)) (text : List Char) :
    P text := by
  by_cases h : x ∈ text
  · obtain ⟨front, rest, heq, hfront⟩ := List.eq_append_cons_of_mem h
    rw [heq]
    exact split front rest hfront (induction_at plain split rest)
  · exact plain text h
termination_by text.length
decreasing_by
  rw [heq, List.length_append, List.length_cons]
  omega

/-- The replacement character is a barrier. -/
theorem barrier_replacement : Barrier replacement where
  toInert := inert_replacement
  starter := by decide +kernel

end Text

namespace Unicode.Form

open Text (replacement strip)

variable {form : List Char → List Char} (hform : Form form) {x : Char} {text : List Char}

include hform

/-- A normal form makes no barriers. -/
theorem not_mem (hx : Barrier x) (h : x ∉ text) : x ∉ form text :=
  fun hmem => h (hform.mem hx hmem)

/-- It makes nothing of nothing. -/
theorem nil : form [] = [] :=
  (hform.equivalent []).eq_nil

/-- A barrier at the front stays there. -/
theorem cons (hx : Barrier x) (rest : List Char) : form (x :: rest) = x :: form rest := by
  have happend := hform.append hx [] rest
  rwa [hform.nil] at happend

/-- And only nothing becomes nothing. -/
theorem eq_nil (h : form text = []) : text = [] := by
  have hequivalent := hform.equivalent text
  rw [h] at hequivalent
  exact hequivalent.symm.eq_nil

/-- A form begins with a barrier exactly if the text does. -/
theorem head?_iff (hx : Barrier x) : (form text).head? = some x ↔ text.head? = some x := by
  by_cases hmem : x ∈ text
  · obtain ⟨front, rest, rfl, hfront⟩ := List.eq_append_cons_of_mem hmem
    rw [hform.append hx]
    cases front with
    | nil =>
      rw [hform.nil]
      exact iff_of_true rfl rfl
    | cons c front =>
      -- the front is not empty in either, and the barrier is not in it
      obtain ⟨d, out, hout⟩ := List.exists_cons_of_ne_nil (mt hform.eq_nil (List.cons_ne_nil c front))
      have hd := hform.not_mem hx hfront
      rw [hout] at hd ⊢
      refine iff_of_false (fun h => hd ?_) (fun h => hfront ?_)
      · rw [Option.some.inj h]
        exact List.mem_cons_self
      · rw [Option.some.inj h]
        exact List.mem_cons_self
  · refine iff_of_false (fun h => hmem (hform.mem hx ?_)) (fun h => hmem ?_)
    · exact List.mem_of_mem_head? h
    · exact List.mem_of_mem_head? h

/-! ### Line breaks -/

/-- **Line breaks** may be unified before or after. -/
theorem unify (text : List Char) : Newline.unify (form text) = form (Newline.unify text) := by
  induction text using Text.induction_at (x := '\r') with
  | plain text h =>
    rw [Newline.unify_eq_self h, Newline.unify_eq_self (hform.not_mem .cr h)]
  | split front rest hfront ih =>
    rw [hform.append .cr, Newline.unify_append (hform.not_mem .cr hfront),
      Newline.unify_append hfront]
    by_cases hlf : rest.head? = some '\n'
    · rw [Newline.unify_cr_of_head?_eq ((hform.head?_iff .lf).2 hlf),
        Newline.unify_cr_of_head?_eq hlf, ih]
      obtain ⟨tail, rfl⟩ := List.head?_eq_some_iff.1 hlf
      rw [Newline.unify_cons (by decide), hform.append .lf, hform.cons .lf]
    · rw [Newline.unify_cr_of_head?_ne (mt (hform.head?_iff .lf).1 hlf),
        Newline.unify_cr_of_head?_ne hlf, ih, hform.append .lf]

/-! ### Replacement characters -/

/-- **Replacement characters** may be removed before or after, up to equivalence. -/
theorem equivalent_strip (text : List Char) : Equivalent (strip (form text)) (strip text) := by
  induction text using Text.induction_at (x := replacement) with
  | plain text h =>
    rw [Text.strip_eq_self h, Text.strip_eq_self (hform.not_mem Text.barrier_replacement h)]
    exact hform.equivalent text
  | split front rest hfront ih =>
    have hform_front := hform.not_mem Text.barrier_replacement hfront
    rw [hform.append Text.barrier_replacement, Text.strip_append, Text.strip_append,
      Text.strip_cons_replacement, Text.strip_cons_replacement, Text.strip_eq_self hfront,
      Text.strip_eq_self hform_front]
    exact (hform.equivalent front).append ih

/-- **Canonical text.** It is the same for a text and for any form of it. -/
theorem canonical_eq (text : List Char) : Text.canonical (form text) = Text.canonical text := by
  have hclean : Equivalent (Text.clean (form text)) (Text.clean text) := by
    rw [Text.clean_eq_strip, Text.clean_eq_strip, hform.unify]
    exact hform.equivalent_strip _
  exact nfc_eq_iff.2 hclean

end Unicode.Form

namespace Text

/-- Equivalent texts have the same canonical form: that of the text they both come apart into. -/
theorem canonical_congr {xs ys : List Char} (h : Unicode.Equivalent xs ys) :
    canonical xs = canonical ys := by
  have hnfd : Unicode.nfd xs = Unicode.nfd ys := Unicode.nfd_eq_iff.2 h
  rw [← Unicode.form_nfd.canonical_eq xs, hnfd, Unicode.form_nfd.canonical_eq]

end Text

namespace Checksum

open Text Unicode

/-- **Normal forms do not matter.** Neither decomposing nor composing a text changes what is hashed
    for it, and texts that are canonically equivalent have the same checksum. -/
theorem equivalent_texts_same_checksum (text other : String) :
    canonicalBytes (nfd text.toList) = canonicalBytes text.toList ∧
    canonicalBytes (nfc text.toList) = canonicalBytes text.toList ∧
    (Equivalent text.toList other.toList → ofText text = ofText other) := by
  refine ⟨?_, ?_, fun h => ?_⟩
  · rw [canonicalBytes, canonicalBytes, form_nfd.canonical_eq]
  · rw [canonicalBytes, canonicalBytes, form_nfc.canonical_eq]
  · rw [ofText, ofText, canonicalBytes, canonicalBytes, canonical_congr h]

/-- A letter with two marks that a replacement character keeps apart.  The mark in front of it is
    composed with the letter in one of the texts, and both marks are when it is gone. -/
theorem same_checksum_across_replacement :
    Equivalent "s\u0307\uFFFD\u0323\r\n".toList "\u1E61\uFFFD\u0323\r\n".toList ∧
      ofText "s\u0307\uFFFD\u0323\r\n" = ofText "\u1E61\uFFFD\u0323\r\n" := by
  have hequivalent : Equivalent "s\u0307\uFFFD\u0323\r\n".toList "\u1E61\uFFFD\u0323\r\n".toList := by
    decide +kernel
  exact ⟨hequivalent, (equivalent_texts_same_checksum _ _).2.2 hequivalent⟩

end Checksum

end ContentChecksum
