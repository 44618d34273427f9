import ContentChecksum.Checksum.Compute

namespace ContentChecksum

/-!
# Replacement characters between the halves of a line break

Line breaks are unified before replacement characters are removed, so a CR and an LF with nothing but
replacement characters between them are two line breaks.  Had the characters been removed first, the
two would be one.  This is the only difference that it makes:

* `Text.strip` — a text without its replacement characters;
* `Text.BeginsTornPair` / `Text.tornPairs` — a CR, one or more replacement characters and an LF, and
  the number of places of a text where such a *torn pair* begins.  No two of them overlap, as the only
  CR of each is its first character;
* `Text.clean_cons_of_torn` / `Text.clean_cons_of_not_torn` — one step: cleaning the text and cleaning
  it stripped let out the same for a character, unless a torn pair begins there; then the first lets
  out one LF more;
* `Text.count_clean` and `Text.clean_strip_eq_iff` follow by induction over the text.
-/

namespace Text

/-! ### Torn pairs -/

/-- The text without its replacement characters. -/
def strip (text : List Char) : List Char :=
  text.filter (· ≠ replacement)

/-- The text begins with a CR, one or more replacement characters, and an LF. -/
def BeginsTornPair (text : List Char) : Prop :=
  ∃ n rest, text = '\r' :: (List.replicate (n + 1) replacement ++ '\n' :: rest)

/-- Somewhere in the text stand a CR, one or more replacement characters, and an LF. -/
def HasTornPair (text : List Char) : Prop :=
  ∃ front back, text = front ++ back ∧ BeginsTornPair back

/-- All other characters stay. -/
theorem strip_cons {c : Char} (h : c ≠ replacement) (text : List Char) :
    strip (c :: text) = c :: strip text :=
  List.filter_cons_of_pos (decide_eq_true h)

theorem strip_cons_replacement (text : List Char) : strip (replacement :: text) = strip text :=
  List.filter_cons_of_neg (by simp)

/-- Texts are stripped piece by piece. -/
theorem strip_append (xs ys : List Char) : strip (xs ++ ys) = strip xs ++ strip ys :=
  List.filter_append ..

/-- A text without replacement characters stays as it is. -/
theorem strip_eq_self {text : List Char} (h : replacement ∉ text) : strip text = text := by
  rw [strip, List.filter_eq_self]
  exact fun c hc => decide_eq_true fun heq => h (heq ▸ hc)

/-- Any number of them in front of a text goes. -/
theorem strip_replicate_append (n : Nat) (text : List Char) :
    strip (List.replicate n replacement ++ text) = strip text := by
  induction n with
  | zero => rfl
  | succ n ih => rw [List.replicate_succ, List.cons_append, strip_cons_replacement, ih]

/-- Replacement characters are all that can stand in front of the first character that is none. -/
theorem exists_replicate_of_head?_strip {text : List Char} {c : Char}
    (h : (strip text).head? = some c) :
    ∃ n rest, text = List.replicate n replacement ++ c :: rest := by
  rw [strip, List.head?_filter, List.find?_eq_some_iff_append] at h
  obtain ⟨-, front, rest, rfl, hfront⟩ := h
  have hall : ∀ x ∈ front, x = replacement := fun x hx => by simpa using hfront x hx
  exact ⟨front.length, rest, by rw [← List.eq_replicate_of_mem hall]⟩

/-- A torn pair shows by the CR, by what is beside it, and by what is beside it once the replacement
    characters are gone. -/
theorem beginsTornPair_cons_iff {c : Char} {rest : List Char} :
    BeginsTornPair (c :: rest) ↔
      c = '\r' ∧ rest.head? ≠ some '\n' ∧ (strip rest).head? = some '\n' := by
  constructor
  · rintro ⟨n, back, heq⟩
    obtain ⟨rfl, rfl⟩ := List.cons.inj heq
    refine ⟨rfl, by simp [List.replicate_succ, replacement], ?_⟩
    rw [strip_replicate_append, strip_cons (by decide)]
    rfl
  · rintro ⟨rfl, hne, hlf⟩
    obtain ⟨n, back, rfl⟩ := exists_replicate_of_head?_strip hlf
    cases n with
    | zero => exact absurd rfl hne
    | succ n => exact ⟨n, back, rfl⟩

instance : DecidablePred BeginsTornPair
  | [] => .isFalse fun ⟨_, _, h⟩ => nomatch h
  | _ :: _ => decidable_of_iff' _ beginsTornPair_cons_iff

/-- The number of places at which a torn pair begins. -/
def tornPairs : List Char → Nat
  | [] => 0
  | c :: rest => (if BeginsTornPair (c :: rest) then 1 else 0) + tornPairs rest

/-- A torn pair is at the front of a text or behind its first character. -/
theorem hasTornPair_cons_iff {c : Char} {text : List Char} :
    HasTornPair (c :: text) ↔ BeginsTornPair (c :: text) ∨ HasTornPair text := by
  constructor
  · rintro ⟨front, back, heq, h⟩
    cases front with
    | nil =>
      rw [heq]
      exact Or.inl h
    | cons d front => exact Or.inr ⟨front, back, (List.cons.inj heq).2, h⟩
  · rintro (h | ⟨front, back, rfl, h⟩)
    · exact ⟨[], _, rfl, h⟩
    · exact ⟨c :: front, back, rfl, h⟩

/-- None is counted exactly if there is none. -/
theorem tornPairs_eq_zero_iff {text : List Char} : tornPairs text = 0 ↔ ¬ HasTornPair text := by
  induction text with
  | nil =>
    refine ⟨fun _ => ?_, fun _ => rfl⟩
    rintro ⟨front, back, heq, n, rest, rfl⟩
    simp at heq
  | cons c text ih =>
    rw [tornPairs, hasTornPair_cons_iff, not_or, ← ih]
    by_cases h : BeginsTornPair (c :: text) <;> simp [h]

/-- Torn pairs do not overlap: behind the CR of one the next can begin only after its LF. -/
theorem tornPairs_torn_append (n : Nat) (rest : List Char) :
    tornPairs ('\r' :: (List.replicate (n + 1) replacement ++ '\n' :: rest)) =
      tornPairs rest + 1 := by
  have hskip : ∀ {c : Char} {tail : List Char}, c ≠ '\r' →
      tornPairs (c :: tail) = tornPairs tail := by
    intro c tail hc
    rw [tornPairs, if_neg fun h => hc (beginsTornPair_cons_iff.mp h).1, Nat.zero_add]
  have hinside : ∀ k,
      tornPairs (List.replicate k replacement ++ '\n' :: rest) = tornPairs rest := by
    intro k
    induction k with
    | zero => exact hskip (by decide)
    | succ k ih => rw [List.replicate_succ, List.cons_append, hskip (by decide), ih]
  rw [tornPairs, if_pos ⟨n, rest, rfl⟩, hinside, Nat.add_comm]

/-! ### One step of cleaning -/

theorem clean_eq_strip (text : List Char) : clean text = strip (Newline.unify text) := rfl

/-- Where a torn pair begins, cleaning lets out an LF that is not let out when the text is stripped
    before. -/
theorem clean_cons_of_torn {c : Char} {rest : List Char} (h : BeginsTornPair (c :: rest)) :
    clean (c :: rest) = '\n' :: clean rest ∧ clean (strip (c :: rest)) = clean (strip rest) := by
  obtain ⟨rfl, hne, hlf⟩ := beginsTornPair_cons_iff.mp h
  constructor
  · rw [clean_eq_strip, Newline.unify_cr_of_head?_ne hne, strip_cons (by decide), clean_eq_strip]
  · rw [strip_cons (by decide), clean_eq_strip, Newline.unify_cr_of_head?_eq hlf, clean_eq_strip]

/-- Anywhere else the same is let out for a character, whether the text is stripped before or not. -/
theorem clean_cons_of_not_torn {c : Char} {rest : List Char} (h : ¬ BeginsTornPair (c :: rest)) :
    ∃ out, clean (c :: rest) = out ++ clean rest ∧
      clean (strip (c :: rest)) = out ++ clean (strip rest) := by
  simp only [clean_eq_strip]
  by_cases hcr : c = '\r'
  · subst hcr
    rw [strip_cons (by decide)]
    by_cases hlf : rest.head? = some '\n'
    · -- a pair as it stands is a pair when stripped, and its CR goes either way
      have hlf' : (strip rest).head? = some '\n' := by
        obtain ⟨tail, rfl⟩ := List.head?_eq_some_iff.1 hlf
        rw [strip_cons (by decide)]
        rfl
      refine ⟨[], ?_, ?_⟩
      · rw [Newline.unify_cr_of_head?_eq hlf, List.nil_append]
      · rw [Newline.unify_cr_of_head?_eq hlf', List.nil_append]
    · -- no LF behind the CR, and none comes there by stripping, as the pair is not torn
      have hlf' : (strip rest).head? ≠ some '\n' := fun hlf' =>
        h (beginsTornPair_cons_iff.mpr ⟨rfl, hlf, hlf'⟩)
      refine ⟨['\n'], ?_, ?_⟩
      · rw [Newline.unify_cr_of_head?_ne hlf, strip_cons (by decide), List.singleton_append]
      · rw [Newline.unify_cr_of_head?_ne hlf', strip_cons (by decide), List.singleton_append]
  · rw [Newline.unify_cons hcr]
    by_cases hc : c = replacement
    · subst hc
      exact ⟨[], by rw [strip_cons_replacement, List.nil_append],
        by rw [strip_cons_replacement, List.nil_append]⟩
    · refine ⟨[c], by rw [strip_cons hc, List.singleton_append], ?_⟩
      rw [strip_cons hc, Newline.unify_cons hcr, strip_cons hc, List.singleton_append]

/-! ### A whole text -/

/-- Each torn pair makes one LF more. -/
theorem count_clean (text : List Char) :
    (clean text).count '\n' = (clean (strip text)).count '\n' + tornPairs text := by
  induction text with
  | nil => rfl
  | cons c text ih =>
    rw [tornPairs]
    by_cases h : BeginsTornPair (c :: text)
    · obtain ⟨hclean, hstrip⟩ := clean_cons_of_torn h
      rw [hclean, hstrip, List.count_cons_self, ih, if_pos h]
      omega
    · obtain ⟨out, hclean, hstrip⟩ := clean_cons_of_not_torn h
      rw [hclean, hstrip, List.count_append, List.count_append, ih, if_neg h]
      omega

/-- Without torn pairs it does not matter which of the two is done first. -/
theorem clean_strip_of_tornPairs_eq_zero {text : List Char} (h : tornPairs text = 0) :
    clean (strip text) = clean text := by
  induction text with
  | nil => rfl
  | cons c text ih =>
    rw [tornPairs] at h
    have hnot : ¬ BeginsTornPair (c :: text) := by
      intro htorn
      rw [if_pos htorn] at h
      omega
    rw [if_neg hnot, Nat.zero_add] at h
    obtain ⟨out, hclean, hstrip⟩ := clean_cons_of_not_torn hnot
    rw [hclean, hstrip, ih h]

/-- Stripping the text before makes no difference exactly if there is no torn pair in it. -/
theorem clean_strip_eq_iff {text : List Char} :
    clean (strip text) = clean text ↔ ¬ HasTornPair text := by
  rw [← tornPairs_eq_zero_iff]
  refine ⟨fun h => ?_, clean_strip_of_tornPairs_eq_zero⟩
  have hcount := count_clean text
  rw [h] at hcount
  omega

end Text

namespace Checksum

open Text

/-- **Replacement characters.** What is composed and hashed for a text is the same if its replacement
    characters are removed beforehand exactly if the text has no torn pair, and then the checksums
    are the same.  Otherwise it has one LF more for each of the torn pairs, which do not overlap. -/
theorem clean_strip_and_ofText_strip (text : String) :
    (clean (strip text.toList) = clean text.toList ↔ ¬ HasTornPair text.toList) ∧
    (¬ HasTornPair text.toList → ofText (String.ofList (strip text.toList)) = ofText text) ∧
    (clean text.toList).count '\n' =
      (clean (strip text.toList)).count '\n' + tornPairs text.toList ∧
    (∀ n rest, tornPairs ('\r' :: (List.replicate (n + 1) replacement ++ '\n' :: rest)) =
      tornPairs rest + 1) := by
  refine ⟨clean_strip_eq_iff, fun h => ?_, count_clean _, tornPairs_torn_append⟩
  rw [ofText_congr (clean_strip_eq_iff.mpr h), String.ofList_toList]

/-- Replacement characters beside a pair and behind a lone CR tear nothing. -/
theorem ofText_strip_of_untorn :
    ¬ HasTornPair "\uFFFD\r\n\uFFFD\r\uFFFDa".toList ∧
      ofText "\r\n\ra" = ofText "\uFFFD\r\n\uFFFD\r\uFFFDa" := by
  have huntorn : ¬ HasTornPair "\uFFFD\r\n\uFFFD\r\uFFFDa".toList :=
    tornPairs_eq_zero_iff.mp (by decide +kernel)
  have hstrip : String.ofList (strip "\uFFFD\r\n\uFFFD\r\uFFFDa".toList) = "\r\n\ra" := by
    decide +kernel
  refine ⟨huntorn, ?_⟩
  rw [← hstrip]
  exact (clean_strip_and_ofText_strip "\uFFFD\r\n\uFFFD\r\uFFFDa").2.1 huntorn

end Checksum

end ContentChecksum
