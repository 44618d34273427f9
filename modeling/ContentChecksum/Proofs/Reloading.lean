import ContentChecksum.Proofs.StoredForms
import ContentChecksum.Proofs.StringsInJson

namespace ContentChecksum.Checksum

/-!
# Reloading a stored checksum

What is stored of a checksum is its canonical form, as it is or as a JSON string.  Reading that form
is no inverse of writing it: the form of a legacy digest gains a version, and is then cut after the
first letters and digits behind it, or taken whole as a longer legacy digest.  Here is what survives:

* `Built` — every checksum there is, computed or read.  Its version is below ten
  (`Built.version_lt_ten`), so the form has one digit in front, as reading expects;
* `Lasting` — a digest that is a run of ASCII letters and digits, and not empty;
* `parse_canonical_eq_iff` — the checksums that are read back as themselves are those with a lasting
  digest.  A fresh digest is lasting (`Fresh.lasting`);
* `reload_beq_iff` — the same for both ways of storing.
-/

/-! ### What reading a form can give -/

/-- Reading gives the number and the run of a form that has the shape, or takes the whole form. -/
theorem parse_cases (form : String) :
    (∃ d run rest, Shape form.toList d run rest ∧
      parse form = ⟨digitValue d, String.ofList run⟩) ∨
    (hasVersion form = false ∧ parse form = ⟨legacyVersion, form⟩) := by
  rw [hasVersion, parse]
  cases hsplit : splitVersion? form.toList with
  | none => exact Or.inr ⟨rfl, rfl⟩
  | some p =>
    obtain ⟨version, run⟩ := p
    obtain ⟨d, rest, hshape, rfl⟩ := exists_shape hsplit
    exact Or.inl ⟨d, run, rest, hshape, rfl⟩

/-- A form without a version is taken whole. -/
theorem parse_of_legacy {form : String} (h : hasVersion form = false) :
    parse form = ⟨legacyVersion, form⟩ := by
  have hsplit : splitVersion? form.toList = none := by simpa [hasVersion] using h
  rw [parse, hsplit]

/-- A JSON text that is read as a checksum holds a stored form. -/
theorem exists_parse_of_ofJson {text : String} {c : Checksum} (h : ofJson text = .ok c) :
    ∃ form, c = parse form := by
  rw [ofJson] at h
  split at h
  · split at h
    · exact ⟨_, (Except.ok.inj h).symm⟩
    · cases h
  · cases h
  · cases h

/-! ### All checksums there are -/

/-- The checksums that are computed or read, whichever way. -/
inductive Built : Checksum → Prop
  | fresh {c : Checksum} (h : Fresh c) : Built c
  | parsed (form : String) : Built (parse form)
  | json {text : String} {c : Checksum} (h : ofJson text = .ok c) : Built c

/-- A digit stands for a number below ten. -/
theorem digitValue_lt_ten {d : Char} (h : d.isDigit = true) : digitValue d < 10 := by
  have hle : d.toNat ≤ 57 := by
    rw [Char.isDigit, Bool.and_eq_true, decide_eq_true_eq, decide_eq_true_eq] at h
    exact h.2
  show d.toNat - 48 < 10
  omega

/-- So no version that is read is larger. -/
theorem version_parse_lt_ten (form : String) : (parse form).version < 10 := by
  obtain ⟨d, run, rest, hshape, heq⟩ | ⟨-, heq⟩ := parse_cases form
  · rw [heq]
    exact digitValue_lt_ten hshape.isDigit
  · rw [heq]
    show legacyVersion < 10
    decide

/-- Versions have one digit. -/
theorem Built.version_lt_ten {c : Checksum} (h : Built c) : c.version < 10 := by
  cases h with
  | fresh h =>
    rw [h.version_eq]
    decide
  | parsed form => exact version_parse_lt_ten form
  | json h =>
    obtain ⟨form, rfl⟩ := exists_parse_of_ofJson h
    exact version_parse_lt_ten form

/-! ### Digests that last -/

/-- A run of ASCII letters and digits that is not empty. -/
def Lasting (digest : String) : Prop :=
  digest ≠ "" ∧ ∀ x ∈ digest.toList, x.isAlphanum = true

/-- The run of a form is lasting. -/
theorem Shape.lasting {stored run rest : List Char} {d : Char} (h : Shape stored d run rest) :
    Lasting (String.ofList run) := by
  refine ⟨fun hnil => h.ne_nil ?_, fun x hx => h.isAlphanum x ?_⟩
  · rw [← String.toList_ofList (l := run), hnil]
    rfl
  · rwa [String.toList_ofList] at hx

/-- And so is every digest that is computed. -/
theorem Fresh.lasting {c : Checksum} (h : Fresh c) : Lasting c.digest :=
  ⟨fun hnil => h.digest_ne_nil (by rw [hnil]; rfl), h.isAlphanum⟩

/-- Only legacy digests can fail to be lasting. -/
theorem lasting_of_version_parse_ne {form : String} (h : (parse form).version ≠ legacyVersion) :
    Lasting (parse form).digest := by
  obtain ⟨d, run, rest, hshape, heq⟩ | ⟨-, heq⟩ := parse_cases form
  · rw [heq]
    exact hshape.lasting
  · rw [heq] at h
    exact absurd rfl h

/-- Versions are written with digits. -/
theorem isAlphanum_of_mem_toDigits {n : Nat} {x : Char} (h : x ∈ Nat.toDigits 10 n) :
    x.isAlphanum = true := by
  have hdigit : x.isDigit = true := Nat.isDigit_of_mem_toDigits (by decide) (by decide) h
  rw [Char.isAlphanum, hdigit, Bool.or_true]

/-- A lasting digest is stored in letters, digits and the delimiter. -/
theorem Lasting.of_mem_canonical {c : Checksum} (h : Lasting c.digest) {x : Char}
    (hx : x ∈ c.canonical.toList) : x.isAlphanum = true ∨ x = delimiter := by
  rw [toList_canonical, List.mem_append, List.mem_cons] at hx
  rcases hx with hversion | hdelimiter | hdigest
  · exact Or.inl (isAlphanum_of_mem_toDigits hversion)
  · exact Or.inr hdelimiter
  · exact Or.inl (h.2 x hdigest)

/-- What makes a digest not lasting. -/
theorem not_lasting_iff {digest : String} :
    ¬ Lasting digest ↔ digest = "" ∨ ∃ x ∈ digest.toList, x.isAlphanum = false := by
  simp [Lasting, Classical.or_iff_not_imp_left]

/-! ### Reading what was written -/

/-- A number below ten has a digit, which stands for it. -/
theorem isDigit_and_digitValue_digitChar {n : Nat} (h : n < 10) :
    (Nat.digitChar n).isDigit = true ∧ digitValue (Nat.digitChar n) = n := by
  have hall : ∀ m : Fin 10,
      (Nat.digitChar m.val).isDigit = true ∧ digitValue (Nat.digitChar m.val) = m.val := by decide
  exact hall ⟨n, h⟩

/-- The canonical form of a lasting digest has the shape, with nothing behind the run. -/
theorem shape_canonical {c : Checksum} (hversion : c.version < 10) (h : Lasting c.digest) :
    Shape c.canonical.toList (Nat.digitChar c.version) c.digest.toList [] where
  eq := by rw [toList_canonical, Nat.toDigits_of_lt_base hversion, List.append_nil]; rfl
  isDigit := (isDigit_and_digitValue_digitChar hversion).1
  ne_nil hnil := h.1 (String.toList_inj.mp (hnil.trans rfl))
  isAlphanum := h.2
  ends x hx := nomatch hx

/-- The canonical form is longer than the digest. -/
theorem digest_ne_canonical (c : Checksum) : c.digest ≠ c.canonical := by
  intro heq
  have hlen := congrArg (fun s : String => s.toList.length) heq
  simp only [toList_canonical, List.length_append, List.length_cons] at hlen
  omega

/-- **Reading what was written.** The checksums that come back as themselves are those whose digest
    is lasting.  Of another digest either the end is lost, or a version is gained. -/
theorem parse_canonical_eq_iff {c : Checksum} (hversion : c.version < 10) :
    parse c.canonical = c ↔ Lasting c.digest := by
  constructor
  · intro heq
    obtain ⟨d, run, rest, hshape, hparse⟩ | ⟨-, hparse⟩ := parse_cases c.canonical
    · have hdigest : c.digest = String.ofList run := congrArg digest (heq.symm.trans hparse)
      rw [hdigest]
      exact hshape.lasting
    · exact absurd (congrArg digest (heq.symm.trans hparse)) (digest_ne_canonical c)
  · intro h
    rw [parse_of_shape (shape_canonical hversion h),
      (isDigit_and_digitValue_digitChar hversion).2, String.ofList_toList]

/-- **Reloading.** A checksum that is stored as text or as JSON can always be loaded again, and what
    is loaded equals it exactly if its digest is lasting.  So every fresh checksum comes back with its
    version and its digest, and a legacy form does not come back if it is empty or has any
    character in it but ASCII letters and digits. -/
theorem reload_beq_iff {c : Checksum} (hc : Built c) :
    ((parse c.canonical == c) = true ↔ Lasting c.digest) ∧
    (∃ c', ofJson c.toJson = .ok c' ∧ ((c' == c) = true ↔ Lasting c.digest)) ∧
    (Fresh c → Lasting c.digest ∧ parse c.canonical = c ∧ ofJson c.toJson = .ok c) ∧
    (∀ form, c = parse form → hasVersion form = false →
      form = "" ∨ (∃ x ∈ form.toList, x.isAlphanum = false) →
      (parse c.canonical == c) = false ∧
        ∃ c', ofJson c.toJson = .ok c' ∧ (c' == c) = false) := by
  have hiff := parse_canonical_eq_iff hc.version_lt_ten
  have hbeq : (parse c.canonical == c) = true ↔ Lasting c.digest := beq_eq_true_iff.trans hiff
  refine ⟨hbeq, ⟨_, ofJson_toJson c, hbeq⟩, fun hfresh => ?_, fun form hform hlegacy hodd => ?_⟩
  · have heq := hiff.mpr hfresh.lasting
    exact ⟨hfresh.lasting, heq, by rw [ofJson_toJson, heq]⟩
  · -- a legacy form is its own digest, so it comes back only if it is lasting
    have hdigest : c.digest = form := by
      obtain ⟨d, run, rest, hshape, -⟩ | ⟨-, hparse⟩ := parse_cases form
      · rw [hasVersion, splitVersion?_of_shape hshape] at hlegacy
        exact nomatch hlegacy
      · rw [hform, hparse]
    have hlost : (parse c.canonical == c) = false := by
      rw [← Bool.not_eq_true, hbeq, hdigest]
      exact not_lasting_iff.mpr hodd
    exact ⟨hlost, _, ofJson_toJson c, hlost⟩

/-- A legacy form with a delimiter in it is cut there, whereas a fresh checksum comes back. -/
theorem reload_cut_and_whole :
    (Built (parse "ab:12") ∧ (parse (parse "ab:12").canonical == parse "ab:12") = false) ∧
      Built (.ofText "ab:12") ∧
        ofJson (Checksum.ofText "ab:12").toJson = .ok (.ofText "ab:12") := by
  have hcut : Built (parse "ab:12") := .parsed _
  have hwhole : Built (.ofText "ab:12") := .fresh (.text _)
  have hodd : ∃ x ∈ "ab:12".toList, x.isAlphanum = false := ⟨':', by decide, by decide⟩
  refine ⟨⟨hcut, ?_⟩, hwhole, ?_⟩
  · exact ((reload_beq_iff hcut).2.2.2 "ab:12" rfl (by decide) (Or.inr hodd)).1
  · exact ((reload_beq_iff hwhole).2.2.1 (.text _)).2.2

end ContentChecksum.Checksum
