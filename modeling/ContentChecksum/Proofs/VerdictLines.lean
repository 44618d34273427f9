import ContentChecksum.Proofs.ExitStatus

namespace ContentChecksum

open ContentChecksum.Checksum

/-!
# The line that a verdict is printed in

A stored form is any text at all, and `verify` neither escapes it nor looks at it before it prints what
it has found.  Still it always prints one line.  A form is shown only through its version, which is a
digit, and through its digest if that is of the current version; and only legacy digests can have
anything in them but letters and digits.

* `Checksum.Built.lasting` — this holds of every checksum there is;
* `Text.Printable` — a text of printable ASCII, which has no line breaks;
* `Command.Verdict` — the three lines, with what they show of a stored form;
* `Command.Verdict.mem_shown` — what they show are letters, digits and the delimiter;
* `verdict_is_one_line` — all of this together, for the report and for whole runs.
-/

namespace Checksum

/-- **Digests of all checksums.** Only a legacy digest can be empty, or have anything in it but ASCII
    letters and digits. -/
theorem Built.lasting {c : Checksum} (h : Built c) (hversion : c.version ≠ legacyVersion) :
    Lasting c.digest := by
  cases h with
  | fresh h => exact h.lasting
  | parsed form => exact lasting_of_version_parse_ne hversion
  | json h =>
    obtain ⟨form, rfl⟩ := exists_parse_of_ofJson h
    exact lasting_of_version_parse_ne hversion

end Checksum

/-! ### Printable text -/

namespace Text

/-- All characters are printable ones of ASCII, from the space to the tilde. -/
def Printable (text : String) : Prop :=
  ∀ c ∈ text.toList, 0x20 ≤ c.toNat ∧ c.toNat ≤ 0x7e

instance (text : String) : Decidable (Printable text) :=
  List.decidableBAll (fun c : Char => 0x20 ≤ c.toNat ∧ c.toNat ≤ 0x7e) text.toList

variable {a b : String}

/-- Printable texts can be put together. -/
theorem Printable.append (ha : Printable a) (hb : Printable b) : Printable (a ++ b) := by
  intro c hc
  rw [String.toList_append, List.mem_append] at hc
  obtain hc | hc := hc
  · exact ha c hc
  · exact hb c hc

/-- Letters and digits are printable. -/
theorem printable_of_isAlphanum {c : Char} (h : c.isAlphanum = true) :
    0x20 ≤ c.toNat ∧ c.toNat ≤ 0x7e := by
  have hranges : ((decide ('A' ≤ c ∧ c ≤ 'Z') || (decide ('a' ≤ c) && decide (c ≤ 'z'))) ||
      (decide ('0' ≤ c) && decide (c ≤ '9'))) = true := h
  simp only [Bool.or_eq_true, Bool.and_eq_true, decide_eq_true_eq] at hranges
  have hcodes : ((65 ≤ c.toNat ∧ c.toNat ≤ 90) ∨ (97 ≤ c.toNat ∧ c.toNat ≤ 122)) ∨
      (48 ≤ c.toNat ∧ c.toNat ≤ 57) := hranges
  omega

/-- Letters, digits and the delimiter are printable. -/
theorem printable_of_mem {text : String}
    (h : ∀ c ∈ text.toList, c.isAlphanum = true ∨ c = delimiter) : Printable text := by
  intro c hc
  obtain hletter | rfl := h c hc
  · exact printable_of_isAlphanum hletter
  · decide

end Text

/-! ### The three verdicts -/

namespace Command

/-- What is said of a stored form, with the text that is shown of it. -/
inductive Verdict
  | unchanged
  | changed (shown : String)
  | algorithmChanged (shown : String)

namespace Verdict

/-- What is shown of a stored form. -/
def shown : Verdict → String
  | unchanged => ""
  | changed shown | algorithmChanged shown => shown

/-- The line for the standard output. -/
def line (fresh : Checksum) : Verdict → String
  | unchanged => "unchanged"
  | changed shown => "changed (stored " ++ shown ++ ", computed " ++ fresh.canonical ++ ")"
  | algorithmChanged shown =>
    "algorithm-changed (stored v" ++ shown ++ ", current v8): " ++ fresh.canonical

/-- The words for the failure, if it is one. -/
def error? (fresh : Checksum) : Verdict → Option String
  | changed shown => some ("content changed: stored " ++ shown ++ ", computed " ++ fresh.canonical)
  | unchanged | algorithmChanged _ => none

/-- The verdict on a stored form. -/
def ofStored (stored : String) (fresh : Checksum) : Verdict :=
  match Checksum.compare (.parse stored) fresh with
  | .unchanged => unchanged
  | .changed => changed (Checksum.parse stored).canonical
  | .algorithmChanged old _ => algorithmChanged (Text.numeral old)

variable {stored : String} {fresh : Checksum}

/-- A stored form is shown through letters, digits and the delimiter. -/
theorem mem_shown (hfresh : Fresh fresh) :
    ∀ c ∈ (ofStored stored fresh).shown.toList, c.isAlphanum = true ∨ c = delimiter := by
  intro c hc
  unfold ofStored at hc
  cases hcompare : Checksum.compare (.parse stored) fresh with
  | unchanged =>
    rw [hcompare] at hc
    cases hc
  | changed =>
    -- a change is found only under the version of the fresh checksum, and no legacy digest has it
    obtain ⟨hversion, -⟩ := compare_eq_changed_iff.1 hcompare
    have hlasting : Lasting (Checksum.parse stored).digest := by
      apply lasting_of_version_parse_ne
      rw [hversion, hfresh.version_eq]
      decide
    rw [hcompare] at hc
    exact hlasting.of_mem_canonical hc
  | algorithmChanged old new =>
    rw [hcompare] at hc
    have hdigit : c ∈ Nat.toDigits 10 old := by
      rwa [shown, Text.numeral, String.toList_ofList] at hc
    exact Or.inl (isAlphanum_of_mem_toDigits hdigit)

-- A line feed behind a digest, and a legacy digest with one.
example : (ofStored "8:ab\nunchanged" (.ofText "")).shown = "8:ab" ∧
    (ofStored "\nunchanged" (.ofText "")).shown = "1" := by decide +kernel

/-- A verdict that is told in one line of printable ASCII, as is the failure if it is one, and that
    shows nothing of the stored form but letters, digits and the delimiter. -/
structure Plain (v : Verdict) (fresh : Checksum) : Prop where
  mem_shown : ∀ c ∈ v.shown.toList, c.isAlphanum = true ∨ c = delimiter
  line : Text.Printable (v.line fresh)
  error : ∀ message, v.error? fresh = some message → Text.Printable message

/-- It is enough to look at what is shown. -/
theorem plain_of_mem_shown {v : Verdict} (hfresh : Fresh fresh)
    (hshown : ∀ c ∈ v.shown.toList, c.isAlphanum = true ∨ c = delimiter) : v.Plain fresh := by
  have hcanonical : Text.Printable fresh.canonical :=
    Text.printable_of_mem fun _ => hfresh.lasting.of_mem_canonical
  have htext := Text.printable_of_mem hshown
  have hcomputed : Text.Printable ", computed " := by decide
  cases v with
  | unchanged =>
    have hline : Text.Printable (unchanged.line fresh) :=
      (by decide : Text.Printable "unchanged")
    exact ⟨hshown, hline, nofun⟩
  | changed shown =>
    have hopen : Text.Printable "changed (stored " := by decide
    have hclose : Text.Printable ")" := by decide
    have hwords : Text.Printable "content changed: stored " := by decide
    have hline : Text.Printable ((changed shown).line fresh) :=
      (((hopen.append htext).append hcomputed).append hcanonical).append hclose
    refine ⟨hshown, hline, ?_⟩
    intro message hmessage
    obtain rfl := Option.some.inj hmessage
    exact ((hwords.append htext).append hcomputed).append hcanonical
  | algorithmChanged shown =>
    have hopen : Text.Printable "algorithm-changed (stored v" := by decide
    have hcurrent : Text.Printable ", current v8): " := by decide
    have hline : Text.Printable ((algorithmChanged shown).line fresh) :=
      ((hopen.append htext).append hcurrent).append hcanonical
    exact ⟨hshown, hline, nofun⟩

/-- So every verdict there is is plain. -/
theorem plain_ofStored (stored : String) (hfresh : Fresh fresh) :
    (ofStored stored fresh).Plain fresh :=
  plain_of_mem_shown hfresh (mem_shown hfresh)

/-- This is what is reported. -/
theorem report_eq (hfresh : Fresh fresh) :
    (Report.ofComparison (.parse stored) fresh).output = (ofStored stored fresh).line fresh ++ "\n" ∧
      (Report.ofComparison (.parse stored) fresh).failure.map Failure.message =
        (ofStored stored fresh).error? fresh := by
  unfold Report.ofComparison ofStored
  cases hcompare : Checksum.compare (.parse stored) fresh with
  | unchanged => exact ⟨(by decide : "unchanged\n" = "unchanged" ++ "\n"), rfl⟩
  | changed =>
    refine ⟨?_, rfl⟩
    dsimp only [line]
    rw [← String.toList_inj]
    simp
  | algorithmChanged old new =>
    obtain ⟨-, hnew, -⟩ := compare_eq_algorithmChanged_iff.1 hcompare
    refine ⟨?_, rfl⟩
    have hnumeral : Text.numeral new = "8" := by
      rw [hnew, hfresh.version_eq]
      decide
    dsimp only [line, Report.success]
    rw [hnumeral, ← String.toList_inj]
    simp

/-- Hence what is printed, and how the run ends. -/
theorem answer_eq (hfresh : Fresh fresh) :
    (Report.ofComparison (.parse stored) fresh).answer =
      ((ofStored stored fresh).line fresh ++ "\n",
        if ((ofStored stored fresh).error? fresh).isNone then .success else .failure) := by
  obtain ⟨houtput, hfailure⟩ := @report_eq stored fresh hfresh
  rw [Report.answer, houtput, ← hfailure, Option.isNone_map]

end Verdict

end Command

open Command in
/-- **One line.** Every checksum there is, computed or read, has a version from 0 to 9, and its digest is
    a run of ASCII letters and digits that is not empty, unless the version is 1.  So whatever text is
    stored, and whatever fresh checksum it is compared with, a single line of printable ASCII is
    printed, in one of the three shapes; so are the words for the failure, if the content has
    changed; and nothing of the stored text is in them but letters, digits and colons.  A run that
    verifies a stored checksum prints such a line and nothing else, or is hindered, and then it
    fails and prints nothing. -/
theorem verdict_is_one_line :
    (∀ c, Built c → c.version ≤ 9 ∧ (c.version ≠ 1 → Lasting c.digest)) ∧
    (∀ stored fresh, Fresh fresh → (Verdict.ofStored stored fresh).Plain fresh ∧
      (Report.ofComparison (.parse stored) fresh).output =
        (Verdict.ofStored stored fresh).line fresh ++ "\n" ∧
      (Report.ofComparison (.parse stored) fresh).failure.map Failure.message =
        (Verdict.ofStored stored fresh).error? fresh) ∧
    (∀ (i : Invocation) (t : FileTree) (stored : String) (input : Input),
      Request.ofLine i.line = .ok (.run (.verify stored input)) →
      (i.Hindered t (.verify stored input) ∧ i.outcome t = ("", .failure)) ∨
      ∃ fresh, i.Reads t (.verify stored input) fresh ∧
        (Verdict.ofStored stored fresh).Plain fresh ∧
        i.outcome t = ((Verdict.ofStored stored fresh).line fresh ++ "\n",
          if ((Verdict.ofStored stored fresh).error? fresh).isNone then .success else .failure)) := by
  refine ⟨?_, ?_, ?_⟩
  · intro c hc
    exact ⟨Nat.le_of_lt_succ hc.version_lt_ten, hc.lasting⟩
  · intro stored fresh hfresh
    exact ⟨Verdict.plain_ofStored stored hfresh, Verdict.report_eq hfresh⟩
  · intro i t stored input hline
    cases hloaded : i.loaded t with
    | error error => exact Or.inl ⟨.settings hloaded, Invocation.outcome_of_error hline hloaded⟩
    | ok loaded =>
      have hinput : (Command.verify stored input).input? = some input := rfl
      -- with its settings, a run is hindered by its content or reads it
      obtain hhindered | ⟨fresh, hreads⟩ := Invocation.hindered_or_reads hloaded hinput
      · exact Or.inl ⟨hhindered, Invocation.outcome_of_hindered hline hhindered⟩
      · have hfresh := hreads.isFresh
        have hanswer := @Verdict.answer_eq stored fresh hfresh
        exact Or.inr ⟨fresh, hreads, Verdict.plain_ofStored stored hfresh,
          (Invocation.outcome_of_verify hline hreads).trans hanswer⟩

end ContentChecksum
