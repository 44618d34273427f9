import ContentChecksum.Proofs.EquivalentTexts

namespace ContentChecksum

/-!
# Canonical texts

The canonical form of a text is reached in three steps, of which the second could undo what the first
has done, and the third what the first two have.  None of them does:

* `Text.IsCanonical` — what each step by itself leaves behind: no CR, no replacement character, and
  a composed text;
* `Text.isCanonical_canonical` — all three hold at the end.  Removing characters makes none, and
  composing makes no barrier (`Unicode.Form.mem`);
* `Text.canonical_eq_self_iff` — a canonical text is one on which all three steps have nothing to do.
  So bringing a text into canonical form twice is bringing it there once.
-/

namespace Unicode

/-- There is nothing left to do in a composed text. -/
theorem nfc_nfc (text : List Char) : nfc (nfc text) = nfc text :=
  nfc_eq_iff.2 (form_nfc.equivalent text)

end Unicode

/-- Unified line breaks have no CR. -/
theorem Newline.cr_not_mem_unify (text : List Char) : '\r' ∉ unify text := by
  induction text using Text.induction_at (x := '\r') with
  | plain text h => rwa [unify_eq_self h]
  | split front rest hfront ih =>
    rw [unify_append hfront, List.mem_append, not_or]
    refine ⟨hfront, ?_⟩
    by_cases hlf : rest.head? = some '\n'
    · rwa [unify_cr_of_head?_eq hlf]
    · rw [unify_cr_of_head?_ne hlf, List.mem_cons, not_or]
      exact ⟨by decide, ih⟩

namespace Text

/-- A text without CR and replacement characters, in composed form. -/
structure IsCanonical (text : List Char) : Prop where
  cr_not_mem : '\r' ∉ text
  replacement_not_mem : replacement ∉ text
  composed : Unicode.nfc text = text

theorem cr_not_mem_clean (text : List Char) : '\r' ∉ clean text := fun hmem =>
  Newline.cr_not_mem_unify text (List.mem_of_mem_filter hmem)

/-- **The canonical form is canonical.** -/
theorem isCanonical_canonical (text : List Char) : IsCanonical (canonical text) where
  cr_not_mem hmem := cr_not_mem_clean text (Unicode.form_nfc.mem .cr hmem)
  replacement_not_mem := replacement_not_mem_canonical text
  composed := Unicode.nfc_nfc _

-- Removing U+FFFD brings an accent to its letter; the line breaks were counted before that.
example : canonical ['e', replacement, Char.ofNat 0x0301, '\r', replacement, '\n'] =
    [Char.ofNat 0x00E9, '\n', '\n'] := by decide +kernel

/-- Cleaning a text without CR and replacement characters leaves it as it is. -/
theorem IsCanonical.clean_eq {text : List Char} (h : IsCanonical text) : clean text = text := by
  rw [clean_eq_strip, Newline.unify_eq_self h.cr_not_mem, strip_eq_self h.replacement_not_mem]

/-- The canonical texts are those that are their own canonical form. -/
theorem canonical_eq_self_iff {text : List Char} : canonical text = text ↔ IsCanonical text := by
  constructor
  · intro heq
    rw [← heq]
    exact isCanonical_canonical text
  · intro h
    rw [canonical, h.clean_eq, h.composed]

/-- **Canonical form once and for all.** The canonical form of any text has no CR and no replacement
    character in it.  Bringing it into canonical form again changes nothing, so it has the checksum
    of the text; and the texts that nothing is changed of are those without CR and replacement
    character that are composed already. -/
theorem canonical_form_is_fixed (text : String) :
    '\r' ∉ canonical text.toList ∧
    replacement ∉ canonical text.toList ∧
    canonical (canonical text.toList) = canonical text.toList ∧
    Checksum.ofText (String.ofList (canonical text.toList)) = Checksum.ofText text ∧
    (canonical text.toList = text.toList ↔ IsCanonical text.toList) := by
  have hcanonical := isCanonical_canonical text.toList
  have hfixed := canonical_eq_self_iff.2 hcanonical
  refine ⟨hcanonical.cr_not_mem, hcanonical.replacement_not_mem, hfixed, ?_, canonical_eq_self_iff⟩
  rw [Checksum.ofText, Checksum.ofText, String.toList_ofList, canonicalBytes, canonicalBytes, hfixed]

end Text

end ContentChecksum
