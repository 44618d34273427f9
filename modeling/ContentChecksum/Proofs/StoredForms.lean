import ContentChecksum.Checksum.Compute

namespace ContentChecksum

/-!
# Stored forms and what comparing them tells

* `Checksum.canonical_inj` — the canonical form gives version and digest away: a number has no
  delimiter in it, so the first delimiter ends the version, whatever the digest looks like.  Hence
  comparing canonical forms is comparing the pairs (`Checksum.compare_eq_unchanged_iff` and the two
  beside it);
* `Checksum.Shape` — a stored form cut into digit, delimiter, run of letters and digits, and a rest
  that does not go on with one.  It is what `splitVersion?` looks for (`splitVersion?_of_shape`,
  `exists_shape`);
* `Checksum.Fresh` — the checksums that are computed and not read.  Their digest is 32 lowercase
  hexadecimal digits;
* `Checksum.compare_parse_eq_unchanged_iff` and the two beside it — any stored form there is,
  compared with a fresh checksum.
-/

namespace Checksum

/-! ### The canonical form is unambiguous -/

/-- The canonical form is the version in decimal digits, the delimiter and the digest. -/
theorem toList_canonical (c : Checksum) :
    c.canonical.toList = Nat.toDigits 10 c.version ++ delimiter :: c.digest.toList := by
  rw [canonical, String.toList_ofList]

/-- The version is what stands in front of the first character that is no digit. -/
theorem takeWhile_canonical (c : Checksum) :
    c.canonical.toList.takeWhile Char.isDigit = Nat.toDigits 10 c.version := by
  have hdigits : ∀ d ∈ Nat.toDigits 10 c.version, d.isDigit = true := fun d hd =>
    Nat.isDigit_of_mem_toDigits (by decide) (by decide) hd
  rw [toList_canonical, List.takeWhile_append_of_pos hdigits,
    List.takeWhile_cons_of_neg (by decide), List.append_nil]

/-- **The canonical form is unambiguous**, also when the digest has digits and delimiters in it. -/
theorem canonical_inj {a b : Checksum} : a.canonical = b.canonical ↔ a = b := by
  refine ⟨fun h => ?_, fun h => by rw [h]⟩
  have hdigits : Nat.toDigits 10 a.version = Nat.toDigits 10 b.version := by
    rw [← takeWhile_canonical, ← takeWhile_canonical, h]
  have hversion : a.version = b.version := by
    have := congrArg (fun digits => Nat.ofDigitChars 10 digits 0) hdigits
    simpa only [Nat.ofDigitChars_ten_toDigits] using this
  have hdigest : a.digest = b.digest := by
    have := congrArg String.toList h
    rw [toList_canonical, toList_canonical, hversion] at this
    exact String.toList_inj.mp (List.cons.inj (List.append_cancel_left this)).2
  obtain ⟨version, digest⟩ := a
  subst hversion hdigest
  rfl

/-- Checksums that are taken as equal are equal. -/
theorem beq_eq_true_iff {a b : Checksum} : (a == b) = true ↔ a = b := by
  show (a.canonical == b.canonical) = true ↔ a = b
  rw [beq_iff_eq, canonical_inj]

/-! ### Comparing -/

variable {stored fresh : Checksum}

/-- They are if they have the same version and the same digest. -/
theorem eq_iff :
    stored = fresh ↔ stored.version = fresh.version ∧ stored.digest = fresh.digest := by
  obtain ⟨version, digest⟩ := stored
  obtain ⟨version', digest'⟩ := fresh
  rw [mk.injEq]

/-- Only the checksum itself is found unchanged. -/
theorem compare_eq_unchanged_iff : compare stored fresh = .unchanged ↔ stored = fresh := by
  rw [compare]
  by_cases h : stored = fresh
  · rw [if_pos (beq_eq_true_iff.mpr h)]
    simp [h]
  · rw [if_neg (mt beq_eq_true_iff.mp h)]
    split <;> simp [h]

/-- A change of content is another digest under the same version. -/
theorem compare_eq_changed_iff : compare stored fresh = .changed ↔
    stored.version = fresh.version ∧ stored.digest ≠ fresh.digest := by
  rw [compare]
  by_cases h : stored = fresh
  · rw [if_pos (beq_eq_true_iff.mpr h)]
    simp [h]
  · rw [if_neg (mt beq_eq_true_iff.mp h)]
    rw [eq_iff] at h
    split <;> simp_all

/-- Checksums of two versions are set apart, whatever their digests, and both versions named. -/
theorem compare_eq_algorithmChanged_iff {old new : Nat} :
    compare stored fresh = .algorithmChanged old new ↔
      old = stored.version ∧ new = fresh.version ∧ stored.version ≠ fresh.version := by
  rw [compare]
  by_cases h : stored = fresh
  · rw [if_pos (beq_eq_true_iff.mpr h)]
    simp [h]
  · rw [if_neg (mt beq_eq_true_iff.mp h)]
    split <;> simp_all [eq_comm]

/-! ### The shape of a stored form -/

/-- A stored form that begins with a version: a digit, the delimiter, a run of letters and digits,
    and a rest that does not go on with one. -/
structure Shape (stored : List Char) (d : Char) (run rest : List Char) : Prop where
  eq : stored = d :: delimiter :: (run ++ rest)
  isDigit : d.isDigit = true
  ne_nil : run ≠ []
  isAlphanum : ∀ c ∈ run, c.isAlphanum = true
  ends : ∀ c ∈ rest.head?, c.isAlphanum = false

/-- The number that a digit stands for. -/
def digitValue (d : Char) : Nat :=
  d.toNat - '0'.toNat

/-- The run ends where the letters and digits do. -/
theorem Shape.takeWhile_eq {stored run rest : List Char} {d : Char} (h : Shape stored d run rest) :
    (run ++ rest).takeWhile Char.isAlphanum = run := by
  rw [List.takeWhile_append_of_pos h.isAlphanum]
  cases rest with
  | nil => rw [List.takeWhile_nil, List.append_nil]
  | cons c rest =>
    have hc := h.ends c rfl
    rw [List.takeWhile_cons_of_neg (by simp [hc]), List.append_nil]

/-- A digit, the delimiter and anything that goes on with letters and digits have the shape, cut where
    these end. -/
theorem shape_takeWhile {d : Char} {tail : List Char} (hd : d.isDigit = true)
    (hne : tail.takeWhile Char.isAlphanum ≠ []) :
    Shape (d :: delimiter :: tail) d (tail.takeWhile Char.isAlphanum)
      (tail.dropWhile Char.isAlphanum) where
  eq := by rw [List.takeWhile_append_dropWhile]
  isDigit := hd
  ne_nil := hne
  isAlphanum c hc := List.all_eq_true.mp List.all_takeWhile c hc
  ends c hc := by
    have := List.head?_dropWhile_not Char.isAlphanum tail
    rwa [hc] at this

/-- Of a form that has the shape, number and run are split off. -/
theorem splitVersion?_of_shape {stored run rest : List Char} {d : Char}
    (h : Shape stored d run rest) : splitVersion? stored = some (digitValue d, run) := by
  rw [h.eq, splitVersion?, h.takeWhile_eq, if_pos ⟨h.isDigit, rfl, h.ne_nil⟩]
  rfl

-- What stands behind the run is left out, and two digits in front give no version.
example : splitVersion? "8:abc-def".toList = some (8, ['a', 'b', 'c']) ∧
    splitVersion? "12:abc".toList = none := by decide +kernel

/-- They are what is read, whatever stands behind them. -/
theorem parse_of_shape {form : String} {run rest : List Char} {d : Char}
    (h : Shape form.toList d run rest) : parse form = ⟨digitValue d, String.ofList run⟩ := by
  rw [parse, splitVersion?_of_shape h]

/-- Nothing is split off unless the form has the shape. -/
theorem exists_shape {stored run : List Char} {version : Nat}
    (h : splitVersion? stored = some (version, run)) :
    ∃ d rest, Shape stored d run rest ∧ version = digitValue d := by
  match stored with
  | [] => simp [splitVersion?] at h
  | [d] => simp [splitVersion?] at h
  | d :: s :: tail =>
    rw [splitVersion?] at h
    split at h
    · rename_i hcond
      obtain ⟨hd, rfl, hne⟩ := hcond
      obtain ⟨rfl, rfl⟩ := Prod.mk.inj (Option.some.inj h)
      exact ⟨d, tail.dropWhile Char.isAlphanum, shape_takeWhile hd hne, rfl⟩
    · simp at h

/-- The version that a stored form begins with, the legacy one if it begins with none: it takes a
    digit, the delimiter and a letter or digit to begin with one. -/
def leadingVersion : List Char → Nat
  | d :: s :: c :: _ =>
    if d.isDigit ∧ s = delimiter ∧ c.isAlphanum then digitValue d else legacyVersion
  | _ => legacyVersion

/-- A form that has the shape begins with its digit. -/
theorem leadingVersion_of_shape {stored run rest : List Char} {d : Char}
    (h : Shape stored d run rest) : leadingVersion stored = digitValue d := by
  obtain ⟨c, run, rfl⟩ := List.exists_cons_of_ne_nil h.ne_nil
  have hc := h.isAlphanum c List.mem_cons_self
  rw [h.eq, List.cons_append, leadingVersion, if_pos ⟨h.isDigit, rfl, hc⟩]

/-- A form of which nothing is split off begins with no version. -/
theorem leadingVersion_of_splitVersion?_eq_none {stored : List Char}
    (h : splitVersion? stored = none) : leadingVersion stored = legacyVersion := by
  match stored with
  | [] => rfl
  | [d] => rfl
  | [d, s] => rfl
  | d :: s :: c :: tail =>
    rw [leadingVersion, if_neg]
    rintro ⟨hd, hs, hc⟩
    rw [splitVersion?, List.takeWhile_cons_of_pos hc,
      if_pos ⟨hd, hs, List.cons_ne_nil _ _⟩] at h
    exact Option.some_ne_none _ h

/-- The version that is read is the one that the form begins with. -/
theorem version_parse (stored : String) :
    (parse stored).version = leadingVersion stored.toList := by
  rw [parse]
  cases hsplit : splitVersion? stored.toList with
  | none => exact (leadingVersion_of_splitVersion?_eq_none hsplit).symm
  | some p =>
    obtain ⟨version, run⟩ := p
    obtain ⟨d, rest, hshape, hversion⟩ := exists_shape hsplit
    rw [leadingVersion_of_shape hshape]
    exact hversion

/-! ### Stored forms of the current version -/

/-- `stored` is `8:` with `run` behind it, and does not go on with a letter or digit. -/
def HasDigest (stored : String) (run : List Char) : Prop :=
  ∃ rest, stored.toList = '8' :: ':' :: (run ++ rest) ∧ ∀ c ∈ rest.head?, c.isAlphanum = false

/-- Only one digit stands for the current version. -/
theorem eq_of_digitValue_eq_eight {d : Char} (h : digitValue d = 8) : d = '8' := by
  have hd : d.toNat = 56 := by
    have : d.toNat - 48 = 8 := h
    omega
  rw [← Char.ofNat_toNat d, hd]

/-- What is read from a form of the current version. -/
theorem parse_of_hasDigest {stored : String} {run : List Char} (h : HasDigest stored run)
    (hne : run ≠ []) (hrun : ∀ c ∈ run, c.isAlphanum = true) :
    parse stored = ⟨8, String.ofList run⟩ := by
  obtain ⟨rest, heq, hends⟩ := h
  have hshape : Shape stored.toList '8' run rest := ⟨heq, by decide, hne, hrun, hends⟩
  rw [parse_of_shape hshape]
  rfl

/-- Nothing else is read as a checksum of the current version. -/
theorem hasDigest_of_version_eq {stored : String} (h : (parse stored).version = 8) :
    ∃ run, run ≠ [] ∧ (∀ c ∈ run, c.isAlphanum = true) ∧ HasDigest stored run := by
  rw [parse] at h
  cases hsplit : splitVersion? stored.toList with
  | none =>
    rw [hsplit] at h
    exact absurd h (show legacyVersion ≠ 8 by decide)
  | some p =>
    obtain ⟨version, run⟩ := p
    obtain ⟨d, rest, hshape, hversion⟩ := exists_shape hsplit
    rw [hsplit] at h
    obtain rfl := eq_of_digitValue_eq_eight (hversion.symm.trans h)
    exact ⟨run, hshape.ne_nil, hshape.isAlphanum, rest, hshape.eq, hshape.ends⟩

/-! ### Fresh checksums -/

/-- The checksums that are computed: of a text, or of a stream that could be read to its end. -/
inductive Fresh : Checksum → Prop
  | text (text : String) : Fresh (.ofText text)
  | stream {ρ : Type} [Reader ρ] {unify : Bool} {r : ρ} {c : Checksum}
      (h : (Checksum.ofReader unify r).1 = .ok c) : Fresh c

end Checksum

/-- The digest of a reader is as long as any. -/
theorem HashFunction.length_digestReader {ρ : Type} [Reader ρ] {h : HashFunction} {r : ρ}
    {summary : HashFunction.Summary} (hr : (h.digestReader r).1 = .ok summary) :
    summary.digest.length = h.digestSize := by
  rw [HashFunction.digestReader] at hr
  split at hr
  · obtain rfl := Except.ok.inj hr
    exact h.length_finish _
  · exact nomatch hr

/-- Lowercase hexadecimal digits are ASCII letters and digits. -/
theorem Hex.isAlphanum_of_isDigit {c : Char} (h : Hex.isDigit c = true) : c.isAlphanum = true := by
  show ((c.isUpper || c.isLower) || c.isDigit) = true
  rw [Hex.isDigit, Bool.or_eq_true, Bool.and_eq_true, decide_eq_true_eq, decide_eq_true_eq] at h
  rcases h with h | ⟨ha, hf⟩
  · rw [h, Bool.or_true]
  · have hz : c ≤ 'z' := UInt32.le_trans hf (by decide)
    have hlower : c.isLower = true := by
      show (decide ('a' ≤ c) && decide (c ≤ 'z')) = true
      rw [decide_eq_true ha, decide_eq_true hz, Bool.and_self]
    rw [hlower, Bool.or_true, Bool.true_or]

namespace Checksum

/-- Whichever way a stream is read, there is the digest of a summary or a fault. -/
theorem exists_ofReader_eq {ρ : Type} [Reader ρ] (unify : Bool) (r : ρ) :
    ∃ answer : Except Fault HashFunction.Summary,
      (∀ summary, answer = .ok summary → summary.digest.length = 16) ∧
      (Checksum.ofReader unify r).1 = match answer with
        | .ok summary => .ok (.ofDigest summary.digest)
        | .error fault => .error (.read fault) := by
  cases unify with
  | true =>
    refine ⟨(md5.digestReader (Newline.UnifyingReader.wrap r)).1,
      fun _ => HashFunction.length_digestReader, ?_⟩
    rw [Checksum.ofReader, Computed.ofReader, if_pos rfl]
    rcases md5.digestReader (Newline.UnifyingReader.wrap r) with ⟨fault | summary, rest⟩ <;> rfl
  | false =>
    refine ⟨(md5.digestReader r).1, fun _ => HashFunction.length_digestReader, ?_⟩
    rw [Checksum.ofReader, Computed.ofReader, if_neg Bool.false_ne_true]
    rcases md5.digestReader r with ⟨fault | summary, rest⟩ <;> rfl

/-- A fresh checksum is made of a digest of sixteen bytes. -/
theorem Fresh.exists_digest {c : Checksum} (h : Fresh c) :
    ∃ digest : List UInt8, digest.length = 16 ∧ c = .ofDigest digest := by
  cases h with
  | text text => exact ⟨_, md5.length_finish _, rfl⟩
  | @stream ρ _ unify r c h =>
    obtain ⟨fault | summary, hlen, hread⟩ := exists_ofReader_eq unify r
    · rw [hread] at h
      exact nomatch h
    · rw [hread] at h
      exact ⟨summary.digest, hlen summary rfl, (Except.ok.inj h).symm⟩

/-- What is computed has the current version. -/
theorem Fresh.version_eq {c : Checksum} (h : Fresh c) : c.version = 8 := by
  obtain ⟨digest, -, rfl⟩ := h.exists_digest
  rfl

/-- Its digest is not empty. -/
theorem Fresh.digest_ne_nil {c : Checksum} (h : Fresh c) : c.digest.toList ≠ [] := by
  obtain ⟨digest, hlen, rfl⟩ := h.exists_digest
  intro hnil
  have := congrArg List.length hnil
  rw [ofDigest, String.toList_ofList, Hex.length_encode, hlen] at this
  exact absurd this (by decide)

/-- Its digest is made of letters and digits. -/
theorem Fresh.isAlphanum {c : Checksum} (h : Fresh c) :
    ∀ x ∈ c.digest.toList, x.isAlphanum = true := by
  obtain ⟨digest, -, rfl⟩ := h.exists_digest
  intro x hx
  rw [ofDigest, String.toList_ofList] at hx
  exact Hex.isAlphanum_of_isDigit (Hex.isDigit_of_mem_encode hx)

/-- So this is how it is written. -/
theorem Fresh.canonical_eq {c : Checksum} (h : Fresh c) : c.canonical = "8:" ++ c.digest := by
  rw [← String.toList_inj, toList_canonical, String.toList_append, h.version_eq]
  rfl

/-! ### Comparing what was stored with what is fresh -/

/-- `stored` is `8:` with a run of letters and digits behind it that is not `digest`. -/
def HasOtherDigest (stored : String) (digest : List Char) : Prop :=
  ∃ run, run ≠ [] ∧ (∀ c ∈ run, c.isAlphanum = true) ∧ run ≠ digest ∧ HasDigest stored run

/-- Nothing has changed exactly if the form has the fresh digest. -/
theorem compare_parse_eq_unchanged_iff (hf : Fresh fresh) (form : String) :
    compare (parse form) fresh = .unchanged ↔ HasDigest form fresh.digest.toList := by
  rw [compare_eq_unchanged_iff]
  constructor
  · intro heq
    obtain ⟨run, hne, hrun, hform⟩ := hasDigest_of_version_eq (heq ▸ hf.version_eq)
    rw [parse_of_hasDigest hform hne hrun] at heq
    rw [← heq, String.toList_ofList]
    exact hform
  · intro hform
    rw [parse_of_hasDigest hform hf.digest_ne_nil hf.isAlphanum, String.ofList_toList,
      ← hf.version_eq]

/-- The content has changed exactly if the form has another digest under the current version. -/
theorem compare_parse_eq_changed_iff (hf : Fresh fresh) (form : String) :
    compare (parse form) fresh = .changed ↔ HasOtherDigest form fresh.digest.toList := by
  rw [compare_eq_changed_iff, hf.version_eq]
  constructor
  · rintro ⟨hversion, hdigest⟩
    obtain ⟨run, hne, hrun, hform⟩ := hasDigest_of_version_eq hversion
    refine ⟨run, hne, hrun, fun heq => hdigest ?_, hform⟩
    rw [parse_of_hasDigest hform hne hrun, heq, String.ofList_toList]
  · rintro ⟨run, hne, hrun, hdigest, hform⟩
    rw [parse_of_hasDigest hform hne hrun]
    refine ⟨rfl, fun heq => hdigest ?_⟩
    rw [← heq, String.toList_ofList]

/-- Whatever is neither unchanged nor changed is of another version. -/
theorem compare_parse_eq_algorithmChanged_iff (hf : Fresh fresh) (form : String) {old new : Nat} :
    compare (parse form) fresh = .algorithmChanged old new ↔
      old = leadingVersion form.toList ∧ new = 8 ∧ ¬HasDigest form fresh.digest.toList ∧
        ¬HasOtherDigest form fresh.digest.toList := by
  rw [← compare_parse_eq_unchanged_iff hf, ← compare_parse_eq_changed_iff hf, ← version_parse,
    ← hf.version_eq]
  cases hcompare : compare (parse form) fresh with
  | unchanged => simp
  | changed => simp
  | algorithmChanged old' new' =>
    obtain ⟨rfl, rfl, -⟩ := compare_eq_algorithmChanged_iff.mp hcompare
    simp [eq_comm]

/-- **The verdict on a stored form.** A fresh checksum is `8:` and a digest.  A stored form is found
    unchanged exactly if it is that, with or without something behind it that does not prolong
    the digest; changed exactly if it is `8:` and another run of letters and digits, with the
    same leave; and in every other case it is set apart as of another version, the one that it
    begins with or the legacy one.  So a stored form that does not begin with version 8 is never
    taken for a match or for a change of content, whatever its digest looks like. -/
theorem compare_parse_fresh (form : String) {fresh : Checksum} (hf : Fresh fresh) :
    fresh.canonical = "8:" ++ fresh.digest ∧
    (compare (parse form) fresh = .unchanged ↔ HasDigest form fresh.digest.toList) ∧
    (compare (parse form) fresh = .changed ↔ HasOtherDigest form fresh.digest.toList) ∧
    (∀ old new, compare (parse form) fresh = .algorithmChanged old new ↔
      old = leadingVersion form.toList ∧ new = 8 ∧ ¬HasDigest form fresh.digest.toList ∧
        ¬HasOtherDigest form fresh.digest.toList) ∧
    (leadingVersion form.toList ≠ 8 →
      compare (parse form) fresh = .algorithmChanged (leadingVersion form.toList) 8) := by
  refine ⟨hf.canonical_eq, compare_parse_eq_unchanged_iff hf form,
    compare_parse_eq_changed_iff hf form,
    fun old new => compare_parse_eq_algorithmChanged_iff hf form, fun hne => ?_⟩
  rw [← version_parse] at hne ⊢
  rw [compare_eq_algorithmChanged_iff, hf.version_eq]
  exact ⟨rfl, rfl, hne⟩

/-- A digest in upper case with a line feed behind it: other content, not another version. -/
theorem compare_parse_upper_case :
    Fresh (.ofText "abc") ∧
      compare (parse "8:900150983CD24FB0D6963F7D28E17F72\n") (.ofText "abc") = .changed := by
  have hf : Fresh (.ofText "abc") := .text "abc"
  refine ⟨hf, (compare_parse_fresh _ hf).2.2.1.mpr ?_⟩
  have hrun : "900150983CD24FB0D6963F7D28E17F72".toList.all Char.isAlphanum = true := by decide
  refine ⟨_, ?_, List.all_eq_true.mp hrun, ?_, ['\n'], ?_, ?_⟩
  · decide
  · decide +kernel
  · decide +kernel
  · intro c hc
    rw [← Option.some.inj hc]
    rfl

end Checksum

end ContentChecksum
