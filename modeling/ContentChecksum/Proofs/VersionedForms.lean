import ContentChecksum.Proofs.ExitStatus

namespace ContentChecksum

/-!
# Which stored forms have a version

A stored form has a version if it begins with a digit, the delimiter and at least one letter or digit.
This says nothing of where the digest ends; reading takes as much as it can.

* `Checksum.BeginsWith` — that a form begins so, however much of it is taken for the digest.  Then it
  can be cut where the letters and digits end (`Checksum.BeginsWith.exists_shape`), which gives the
  longest run of them (`Checksum.Shape.isPrefix`);
* `Checksum.hasVersion_eq_true_iff` — `hasVersion` recognises just these forms, and by
  `Checksum.parse_of_shape` and `Checksum.parse_of_legacy` reading agrees with it;
* `Command.Report.status_of_beginsWith`, `Command.Report.status_of_no_version` — the word for each form;
* `Command.Request.ofLine_parse` — any text whatever can be handed over as a stored form;
* `description_of_stored_form` — all of this, up to what is printed.
-/

namespace Checksum

/-! ### Beginning with a version -/

/-- A form begins with the digit `d`, the delimiter and a run of ASCII letters and digits, which is not
    empty and need not be all of them. -/
def BeginsWith (form : String) (d : Char) : Prop :=
  d.isDigit = true ∧ ∃ run rest : List Char, form.toList = d :: delimiter :: (run ++ rest) ∧
    run ≠ [] ∧ ∀ c ∈ run, c.isAlphanum = true

variable {form : String} {d d' : Char} {run run' rest rest' : List Char}

/-- A form that has the shape begins with its digit. -/
theorem Shape.beginsWith (h : Shape form.toList d run rest) : BeginsWith form d :=
  ⟨h.isDigit, run, rest, h.eq, h.ne_nil, h.isAlphanum⟩

/-- Whatever run a form begins with, it can be prolonged to where the letters and digits end. -/
theorem BeginsWith.exists_shape (h : BeginsWith form d) :
    ∃ run rest, Shape form.toList d run rest := by
  obtain ⟨hd, run, rest, heq, hne, hrun⟩ := h
  have hlonger : (run ++ rest).takeWhile Char.isAlphanum ≠ [] := by
    rw [List.takeWhile_append_of_pos hrun]
    exact fun hnil => hne (List.append_eq_nil_iff.1 hnil).1
  rw [heq]
  exact ⟨_, _, shape_takeWhile hd hlonger⟩

/-- The run of a shape is the longest: any other that the form goes on with is the beginning of it. -/
theorem Shape.isPrefix (h : Shape form.toList d run rest)
    (heq : form.toList = d :: delimiter :: (run' ++ rest')) (hrun : ∀ c ∈ run', c.isAlphanum = true) :
    run' <+: run := by
  have hsame : run ++ rest = run' ++ rest' := by
    have htail := h.eq.symm.trans heq
    rw [List.cons.injEq, List.cons.injEq] at htail
    exact htail.2.2
  rw [← h.takeWhile_eq, hsame, List.takeWhile_append_of_pos hrun]
  exact List.prefix_append _ _

/-- A form begins with one version at most. -/
theorem BeginsWith.unique (h : BeginsWith form d) (h' : BeginsWith form d') : d = d' := by
  obtain ⟨-, run, rest, heq, -⟩ := h
  obtain ⟨-, run', rest', heq', -⟩ := h'
  exact (List.cons.inj (heq.symm.trans heq')).1

/-! ### Recognising and reading -/

/-- The recogniser accepts what begins with a version, and nothing else. -/
theorem hasVersion_eq_true_iff : hasVersion form = true ↔ ∃ d, BeginsWith form d := by
  rw [hasVersion, Option.isSome_iff_exists]
  constructor
  · rintro ⟨⟨version, run⟩, hsplit⟩
    obtain ⟨d, rest, hshape, -⟩ := exists_shape hsplit
    exact ⟨d, hshape.beginsWith⟩
  · rintro ⟨d, h⟩
    obtain ⟨run, rest, hshape⟩ := h.exists_shape
    exact ⟨_, splitVersion?_of_shape hshape⟩

/-- A form has no version exactly if it begins with none. -/
theorem hasVersion_eq_false_iff : hasVersion form = false ↔ ¬ ∃ d, BeginsWith form d := by
  rw [← hasVersion_eq_true_iff, Bool.not_eq_true]

/-- The current version is read from forms that begin with it, and from no others. -/
theorem isCurrent_parse_of_beginsWith (h : BeginsWith form d) :
    (parse form).isCurrent = decide (d = '8') := by
  obtain ⟨run, rest, hshape⟩ := h.exists_shape
  rw [parse_of_shape hshape, isCurrent, decide_eq_decide]
  exact ⟨eq_of_digitValue_eq_eight, fun heq => by rw [heq]; rfl⟩

end Checksum

namespace Command

open Checksum (BeginsWith)

variable {form : String} {d : Char}

/-! ### The word for a form -/

/-- Then it is called so. -/
theorem Report.status_of_no_version (h : ¬ ∃ d, BeginsWith form d) :
    status form = "legacy, unversioned" := by
  rw [status, Checksum.hasVersion_eq_false_iff.2 h]
  rfl

/-- Of the forms with a version, those of the current one are current. -/
theorem Report.status_of_beginsWith (h : BeginsWith form d) :
    status form = if d = '8' then "current" else "outdated" := by
  rw [status, Checksum.hasVersion_eq_true_iff.2 ⟨d, h⟩, Checksum.isCurrent_parse_of_beginsWith h]
  simp

/-- The three words for the three kinds of forms. -/
theorem Report.status_eq_iff (form : String) :
    (status form = "legacy, unversioned" ↔ ¬ ∃ d, BeginsWith form d) ∧
    (status form = "current" ↔ BeginsWith form '8') ∧
    (status form = "outdated" ↔ ∃ d, d ≠ '8' ∧ BeginsWith form d) := by
  by_cases hversion : ∃ d, BeginsWith form d
  · obtain ⟨d, h⟩ := hversion
    have hunique : ∀ d', BeginsWith form d' ↔ d' = d := fun d' =>
      ⟨fun h' => h'.unique h, fun heq => heq ▸ h⟩
    simp only [status_of_beginsWith h, hunique]
    by_cases hd : d = '8'
    · simp [hd]
    · simp [hd, Ne.symm hd]
  · have hnone : ∀ d, ¬ BeginsWith form d := fun d h => hversion ⟨d, h⟩
    simp [status_of_no_version hversion, hnone]

/-! ### Describing a form -/

/-- Behind two dashes any text is a stored form. -/
theorem Request.ofLine_parse (form : String) :
    Request.ofLine ["parse", "--", form] = .ok (.run (.parse form false)) := by
  have hname : Name.ofText? "parse" = some .parse := by decide
  have hdashes : Word.ofText "--" = .endOfOptions := by decide
  have hscan : Words.scan (Name.parse.form) .none ["--", form] = .ok ⟨[], none, [form]⟩ := by
    rw [Words.scan, hdashes]
    rfl
  rw [Request.ofLine, hname]
  dsimp only
  rw [Request.ofWords, hscan]
  rfl

end Command

open Checksum Command.Report in
/-- **Stored forms and their description.** A form has a version exactly if it is a digit, the delimiter
    and a run of ASCII letters and digits that is not empty, with anything behind it.  Then there is one
    longest such run, and the digit and this run are what is read, whatever comes next; any other
    form is read as a digest of version 1, unchanged.  `parse` can be asked about every form.  It
    prints the version, the digest and one of three words: a form without a version is legacy, one of
    version 8 is current, and every other is outdated, also if it has the version 1 written out. -/
theorem description_of_stored_form (form : String) :
    (hasVersion form = true ↔ ∃ d, BeginsWith form d) ∧
    (∀ d, BeginsWith form d → ∃ run rest, Shape form.toList d run rest) ∧
    (∀ d run rest, Shape form.toList d run rest →
      parse form = ⟨digitValue d, String.ofList run⟩ ∧
      ∀ run' rest', form.toList = d :: delimiter :: (run' ++ rest') →
        (∀ c ∈ run', c.isAlphanum = true) → run' <+: run) ∧
    ((¬ ∃ d, BeginsWith form d) → parse form = ⟨1, form⟩) ∧
    (status form = "legacy, unversioned" ↔ ¬ ∃ d, BeginsWith form d) ∧
    (status form = "current" ↔ BeginsWith form '8') ∧
    (status form = "outdated" ↔ ∃ d, d ≠ '8' ∧ BeginsWith form d) ∧
    Command.Request.ofLine ["parse", "--", form] = .ok (.run (.parse form false)) ∧
    ∀ (i : Invocation) (t : FileTree) (loaded : Settings.Loaded),
      Command.Request.ofLine i.line = .ok (.run (.parse form false)) → i.loaded t = .ok loaded →
      i.outcome t = ("version: " ++ Text.numeral (parse form).version ++ " (" ++ status form ++ ")\n" ++
        "digest:  " ++ (parse form).digest ++ "\n", .success) := by
  obtain ⟨hlegacy, hcurrent, houtdated⟩ := status_eq_iff form
  refine ⟨hasVersion_eq_true_iff, fun d => BeginsWith.exists_shape, fun d run rest hshape => ?_,
    fun h => parse_of_legacy (hasVersion_eq_false_iff.2 h), hlegacy, hcurrent, houtdated,
    Command.Request.ofLine_parse form, ?_⟩
  · exact ⟨parse_of_shape hshape, fun run' rest' => hshape.isPrefix⟩
  · intro i t loaded hline hloaded
    rw [Invocation.outcome_of_loaded hline hloaded]
    rfl

/-- Version 1 written out, with a line feed behind the digest; and a digit that is not ASCII. -/
theorem description_of_one_and_of_foreign_digit :
    let i : Invocation := ⟨⟨some "/h", none, none, none⟩, ["parse", "1:ab\n"], ["h"], [], 0⟩
    let t : FileTree := ⟨[(["h"], .directory)]⟩
    i.outcome t = ("version: 1 (outdated)\ndigest:  ab\n", .success) ∧
      Checksum.parse "\u0661:ab" = ⟨1, "\u0661:ab"⟩ := by
  intro i t
  obtain ⟨-, -, hread, -, -, -, houtdated, -, hprinted⟩ := description_of_stored_form "1:ab\n"
  have hrun : ['a', 'b'].all Char.isAlphanum = true := by decide
  have hshape : Checksum.Shape "1:ab\n".toList '1' ['a', 'b'] ['\n'] := by
    refine ⟨by decide, by decide, by decide, List.all_eq_true.1 hrun, ?_⟩
    intro c hc
    rw [← Option.some.inj hc]
    rfl
  have hline : Command.Request.ofLine i.line = .ok (.run (.parse "1:ab\n" false)) :=
    eq_ok_of_toOption (by decide +kernel)
  obtain ⟨loaded, hloaded⟩ : ∃ loaded, i.loaded t = .ok loaded :=
    exists_ok_of_isSome (by decide +kernel)
  refine ⟨?_, (description_of_stored_form "\u0661:ab").2.2.2.1 ?_⟩
  · rw [hprinted i t loaded hline hloaded, houtdated.2 ⟨'1', by decide, hshape.beginsWith⟩,
      (hread _ _ _ hshape).1]
    decide
  · rw [← Checksum.hasVersion_eq_true_iff]
    decide +kernel

end ContentChecksum
