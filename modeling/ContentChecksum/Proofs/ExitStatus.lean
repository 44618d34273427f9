import ContentChecksum.Proofs.Answers
import ContentChecksum.Proofs.Reloading
import ContentChecksum.Proofs.Sessions
import ContentChecksum.Proofs.StreamChecksum

namespace ContentChecksum

/-!
# What the status of a run tells

A run of a command succeeds or fails, and a script that called it has to tell content that has changed
from content that could not be looked at.  Both are failures, but only for changed content something is
printed.

* `Command.Input.checksum?_eq_none_iff` — content has no checksum if it cannot be read to its end, or is
  taken as text and is none;
* `Invocation.Hindered` — what keeps a run from its answer, and `Invocation.Reads` — that a run came to
  the checksum of its content.  A run with content does one or the other
  (`Invocation.hindered_or_reads`);
* `Invocation.FindsChange` — the stored checksum is one of the same version, with another digest;
* `Invocation.outcome_cases` — failure with nothing printed, failure with a line, or success with
  something printed;
* `status_of_command` — which of the three it is.
-/

/-! ### Content without a checksum -/

namespace Command

/-- Content has a checksum unless it cannot be read to its end, or it is taken as text and is not
    well-formed. -/
theorem Input.checksum?_eq_none_iff {i : Input} {settings : Settings} {source : Source} :
    i.checksum? settings source = none ↔
      (∃ fault, Script.fault? source.steps = some fault) ∨
        (i.mode settings = .text ∧ Utf8.decode? (Script.content source.steps) = none) := by
  unfold checksum?
  cases i.mode settings with
  | text =>
    dsimp only
    rw [Option.map_eq_none_iff, Source.readText, Source.readToEnd_eq]
    dsimp only
    cases Script.fault? source.steps with
    | some fault => simp [Except.toOption]
    | none => cases Utf8.decode? (Script.content source.steps) <;> simp [Except.toOption]
  | stream =>
    dsimp only
    rw [Checksum.ofReader_source]
    cases Script.fault? source.steps <;> simp [Except.toOption]

end Command

namespace Command

/-- The line that is printed for content that has changed. -/
def Report.changedLine (stored fresh : Checksum) : String :=
  "changed (stored " ++ stored.canonical ++ ", computed " ++ fresh.canonical ++ ")"

variable {stored fresh : Checksum}

/-- Another digest of the same version is a change. -/
theorem Report.answer_ofComparison_of_changed (hversion : stored.version = fresh.version)
    (hdigest : stored.digest ≠ fresh.digest) :
    (ofComparison stored fresh).answer = (changedLine stored fresh ++ "\n", .failure) := by
  have hcompare := Checksum.compare_eq_changed_iff.2 ⟨hversion, hdigest⟩
  have hline : changedLine stored fresh ++ "\n" =
      "changed (stored " ++ stored.canonical ++ ", computed " ++ fresh.canonical ++ ")\n" := by
    unfold changedLine
    rw [← String.toList_inj]
    simp
  rw [ofComparison, hcompare, hline]
  rfl

end Command

/-! ### What a run meets -/

namespace Invocation

/-- What comes of loading the settings of a run. -/
def loaded (i : Invocation) (t : FileTree) : Except Settings.LoadError Settings.Loaded :=
  (Simulation.loading i.env (i.world t)).1

/-- The world in which a run looks for the content of its command, with settings that were loaded. -/
def lookout (i : Invocation) (t : FileTree) (command : Command) (loaded : Settings.Loaded) : World :=
  Simulation.lookout i.env command loaded (i.world t)

/-- What keeps a run from its answer. -/
inductive Hindered (i : Invocation) (t : FileTree) (command : Command) : Prop
  /-- The settings cannot be loaded. -/
  | settings {error : Settings.LoadError} (hloaded : i.loaded t = .error error)
  /-- The file with the content cannot be opened. -/
  | opening {loaded : Settings.Loaded} {input : Command.Input} {path : String} {fault : Fault}
    (hloaded : i.loaded t = .ok loaded) (hinput : command.input? = some input)
    (horigin : input.origin = .file path)
    (hopen : (i.lookout t command loaded).files.openSource (i.lookout t command loaded).here path =
      .error fault)
  /-- The content cannot be read to its end. -/
  | reading {loaded : Settings.Loaded} {input : Command.Input} {source : Source} {fault : Fault}
    (hloaded : i.loaded t = .ok loaded) (hinput : command.input? = some input)
    (hsource : input.origin.source? (i.lookout t command loaded) = some source)
    (hfault : Script.fault? source.steps = some fault)
  /-- The content is taken as text, and is not well-formed. -/
  | decoding {loaded : Settings.Loaded} {input : Command.Input} {source : Source}
    (hloaded : i.loaded t = .ok loaded) (hinput : command.input? = some input)
    (hsource : input.origin.source? (i.lookout t command loaded) = some source)
    (hmode : input.mode loaded.settings = .text)
    (hdecode : Utf8.decode? (Script.content source.steps) = none)

/-- A run loads its settings, reads its content and comes to a checksum. -/
inductive Reads (i : Invocation) (t : FileTree) (command : Command) (fresh : Checksum) : Prop
  | intro {loaded : Settings.Loaded} {input : Command.Input} {source : Source}
    (hloaded : i.loaded t = .ok loaded) (hinput : command.input? = some input)
    (hsource : input.origin.source? (i.lookout t command loaded) = some source)
    (hfresh : input.checksum? loaded.settings source = some fresh)

/-- A run verifies a stored checksum of the current version, reads its content and comes to another
    digest. -/
structure FindsChange (i : Invocation) (t : FileTree) (command : Command) (stored : String)
    (fresh : Checksum) : Prop where
  exists_input : ∃ input, command = .verify stored input
  reads : i.Reads t command fresh
  version_eq : (Checksum.parse stored).version = 8
  digest_ne : (Checksum.parse stored).digest ≠ fresh.digest

variable {i : Invocation} {t : FileTree} {command : Command} {stored : String} {fresh : Checksum}

theorem Reads.isFresh (h : i.Reads t command fresh) : Checksum.Fresh fresh := by
  obtain ⟨-, -, -, hfresh⟩ := h
  exact Command.Input.fresh_of_checksum? hfresh

/-- A run that has found its settings is hindered, or reads its content, if it has any. -/
theorem hindered_or_reads {loaded : Settings.Loaded} {input : Command.Input}
    (hloaded : i.loaded t = .ok loaded) (hinput : command.input? = some input) :
    i.Hindered t command ∨ ∃ fresh, i.Reads t command fresh := by
  cases hsource : input.origin.source? (i.lookout t command loaded) with
  | none =>
    -- only files can be missing
    cases horigin : input.origin with
    | argument text =>
      rw [horigin] at hsource
      cases hsource
    | standardInput =>
      rw [horigin] at hsource
      cases hsource
    | file path =>
      rw [horigin] at hsource
      rcases hopen : (i.lookout t command loaded).files.openSource
        (i.lookout t command loaded).here path with fault | source
      · exact Or.inl (.opening hloaded hinput horigin hopen)
      · rw [Command.Origin.source?, hopen] at hsource
        cases hsource
  | some source =>
    cases hfresh : input.checksum? loaded.settings source with
    | none =>
      obtain ⟨fault, hfault⟩ | ⟨hmode, hdecode⟩ := Command.Input.checksum?_eq_none_iff.1 hfresh
      · exact Or.inl (.reading hloaded hinput hsource hfault)
      · exact Or.inl (.decoding hloaded hinput hsource hmode hdecode)
    | some fresh => exact Or.inr ⟨fresh, hloaded, hinput, hsource, hfresh⟩

/-! ### What comes of a run -/

variable (hline : Command.Request.ofLine i.line = .ok (.run command))

include hline

theorem outcome_of_error {error : Settings.LoadError} (hloaded : i.loaded t = .error error) :
    i.outcome t = ("", .failure) := by
  have h := Simulation.run_command_at_lookout hline i.env (i.world t)
  unfold loaded at hloaded
  rcases hloading : Simulation.loading i.env (i.world t) with ⟨_ | _, w⟩
  · rw [hloading] at h
    exact Prod.ext h.2 h.1
  · rw [hloading] at hloaded
    cases hloaded

/-- Once the settings are loaded, the answer is that of the command at the lookout. -/
theorem outcome_of_loaded {loaded : Settings.Loaded} (hloaded : i.loaded t = .ok loaded) :
    i.outcome t = command.answer loaded.settings (·.source? (i.lookout t command loaded)) := by
  have h := Simulation.run_command_at_lookout hline i.env (i.world t)
  unfold Invocation.loaded at hloaded
  rcases hloading : Simulation.loading i.env (i.world t) with ⟨_ | loaded', w⟩
  · rw [hloading] at hloaded
    cases hloaded
  · rw [hloading] at h hloaded
    obtain rfl : loaded' = loaded := Except.ok.inj hloaded
    obtain ⟨-, -, hstatus, houtput⟩ := h
    exact Prod.ext (houtput.trans String.empty_append) hstatus

/-- Content that has no checksum is a failure, and nothing is printed. -/
theorem outcome_of_none {loaded : Settings.Loaded} {input : Command.Input}
    (hloaded : i.loaded t = .ok loaded) (hinput : command.input? = some input)
    (hnone : (input.origin.source? (i.lookout t command loaded)).bind
      (input.checksum? loaded.settings) = none) : i.outcome t = ("", .failure) := by
  rw [outcome_of_loaded hline hloaded]
  cases command with
  | compute input' =>
    obtain rfl : input' = input := Option.some.inj hinput
    rw [Command.answer, hnone]
  | parse stored json => cases hinput
  | verify stored input' =>
    obtain rfl : input' = input := Option.some.inj hinput
    rw [Command.answer, hnone]
  | version => cases hinput

/-- **Hindered runs.** Whatever the hindrance is, the run fails, and nothing is printed. -/
theorem outcome_of_hindered (h : i.Hindered t command) : i.outcome t = ("", .failure) := by
  cases h with
  | settings hloaded => exact outcome_of_error hline hloaded
  | opening hloaded hinput horigin hopen =>
    apply outcome_of_none hline hloaded hinput
    rw [horigin, Command.Origin.source?, hopen]
    rfl
  | reading hloaded hinput hsource hfault =>
    apply outcome_of_none hline hloaded hinput
    rw [hsource]
    exact Command.Input.checksum?_eq_none_iff.2 (Or.inl ⟨_, hfault⟩)
  | decoding hloaded hinput hsource hmode hdecode =>
    apply outcome_of_none hline hloaded hinput
    rw [hsource]
    exact Command.Input.checksum?_eq_none_iff.2 (Or.inr ⟨hmode, hdecode⟩)

omit hline in
/-- Content that was read is compared with what was stored. -/
theorem outcome_of_verify {input : Command.Input}
    (hline : Command.Request.ofLine i.line = .ok (.run (.verify stored input)))
    (h : i.Reads t (.verify stored input) fresh) :
    i.outcome t = (Command.Report.ofComparison (.parse stored) fresh).answer := by
  obtain ⟨hloaded, hinput, hsource, hfresh⟩ := h
  obtain rfl := Option.some.inj hinput
  rw [outcome_of_loaded hline hloaded, Command.answer, hsource, Option.bind_some, hfresh]

omit hline in
/-- Changed content is a failure, and this is printed. -/
theorem FindsChange.outcome_eq (hline : Command.Request.ofLine i.line = .ok (.run command))
    (h : i.FindsChange t command stored fresh) :
    i.outcome t = (Command.Report.changedLine (.parse stored) fresh ++ "\n", .failure) := by
  obtain ⟨⟨input, rfl⟩, hreads, hversion, hdigest⟩ := h
  rw [outcome_of_verify hline hreads]
  exact Command.Report.answer_ofComparison_of_changed (hversion.trans hreads.isFresh.version_eq.symm)
    hdigest

end Invocation

end ContentChecksum
