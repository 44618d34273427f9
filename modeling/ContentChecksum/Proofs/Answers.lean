import ContentChecksum.Proofs.Effects
import ContentChecksum.Proofs.SettledSettings
import ContentChecksum.Proofs.StoredForms

namespace ContentChecksum

open ContentChecksum.Path

/-!
# What a run answers

A run answers with what it prints and with the status that it ends with.  Of the world, only the
settings and the content of the command have a say in that.

* `Command.Origin.source?` — the content of a command, as a source, if it can be opened;
* `Command.Input.checksum?` — the checksum of content that has been found;
* `Command.answer` — the answer to a command, once settings and sources have been found;
* `Simulation.checksum_spec` — the checksum that a command comes to is the one of the source that is
  there once the journal has been told;
* `Simulation.lookout` — the world in which a run looks for content;
* `Simulation.run_command_at_lookout`, `Simulation.run_help_spec`, `Simulation.run_misuse_spec` — what a
  run answers, for each kind of command line.
-/

/-! ### The content of a command -/

namespace Command

/-- The source that content is read from. -/
def Origin.source? (w : World) : Origin → Option Source
  | argument text => some (.ofBytes (Utf8.encode text.toList))
  | file path => (w.files.openSource w.here path).toOption
  | standardInput => some (.ofBytes w.standardInput)

/-- The checksum of what a source holds, taken in the mode that holds for it. -/
def Input.checksum? (i : Input) (settings : Settings) (source : Source) : Option Checksum :=
  match i.mode settings with
  | .text => source.readText.toOption.map fun text => .ofText (String.ofList text)
  | .stream => (Checksum.ofReader (i.unifies settings) source).1.toOption

/-- It is fresh. -/
theorem Input.fresh_of_checksum? {i : Input} {settings : Settings} {source : Source} {c : Checksum}
    (h : i.checksum? settings source = some c) : Checksum.Fresh c := by
  rw [checksum?] at h
  cases hmode : i.mode settings with
  | text =>
    rw [hmode] at h
    obtain ⟨text, -, rfl⟩ := Option.map_eq_some_iff.1 h
    exact .text _
  | stream =>
    rw [hmode] at h
    exact .stream (eq_ok_of_toOption h)

/-- An origin keeps its source in a tree that grows, unless it is a file that becomes longer. -/
theorem Origin.source?_of_grows {o : Origin} {f : Location → Footprint} {w w' : World}
    {source : Source} (hsource : o.source? w = some source) (hgrows : World.Grows f w w')
    (hinput : w'.standardInput = w.standardInput)
    (hstays : ∀ path, o = .file path → ¬ (f w.here).grown (place w.here path)) :
    o.source? w' = some source := by
  cases o with
  | argument text => exact hsource
  | standardInput =>
    rw [source?, hinput]
    exact hsource
  | file path =>
    rw [source?] at hsource ⊢
    cases hopen : w.files.openSource w.here path with
    | error fault =>
      rw [hopen] at hsource
      cases hsource
    | ok source' =>
      rw [hopen] at hsource
      rw [hgrows.here_eq, hgrows.growth.openSource_ok hopen (hstays path rfl)]
      exact hsource

end Command

namespace Simulation

variable {env : Environment} {journal : Log.Journal} {w : World}

/-- What content comes to as text depends on its source. -/
theorem toOption_readText (o : Command.Origin) (w : World) :
    ((o.readText : Simulation (Except Fault (List Char))) w).1.toOption =
      (o.source? w).bind fun source => source.readText.toOption := by
  cases o with
  | argument text =>
    rw [Command.Origin.source?, Option.bind_some, Source.readText_ofBytes, Utf8.decode?_encode]
    rfl
  | standardInput => rfl
  | file path =>
    rw [Command.Origin.source?, Command.Origin.readText, Host.readText, bind_apply, openSource_apply]
    dsimp only
    rcases w.files.openSource w.here path with fault | source <;> rfl

/-- What content comes to as a stream depends on its source. -/
theorem toOption_hashStream (unify : Bool) (o : Command.Origin) (w : World) :
    ((o.hashStream unify : Simulation (Except ChecksumError Computed)) w).1.toOption =
      (o.source? w).bind fun source => (Computed.ofReader unify source).1.toOption := by
  cases o with
  | argument text => rfl
  | standardInput => rfl
  | file path =>
    rw [Command.Origin.source?, Command.Origin.hashStream, Computed.ofFile, bind_apply,
      openSource_apply]
    dsimp only
    rcases w.files.openSource w.here path with fault | source <;> rfl

/-- What content comes to in the mode that holds for it depends on its source. -/
theorem toOption_hash (i : Command.Input) (settings : Settings) (w : World) :
    ((i.hash (i.unifies settings) (i.mode settings) :
        Simulation (Except Command.ContentError Computed)) w).1.toOption.map Computed.checksum =
      (i.origin.source? w).bind (i.checksum? settings) := by
  unfold Command.Input.checksum?
  cases i.mode settings with
  | text =>
    -- both sides read the same text, and what is done with it can be moved behind that
    show _ = (i.origin.source? w).bind
      (Option.map (fun text => Checksum.ofText (String.ofList text)) ∘ fun source =>
        source.readText.toOption)
    rw [← Option.map_bind, ← toOption_readText, Command.Input.hash, bind_apply]
    rcases (i.origin.readText : Simulation (Except Fault (List Char))) w with ⟨_ | _, _⟩ <;> rfl
  | stream =>
    have hmap : (fun source => (Checksum.ofReader (i.unifies settings) source).1.toOption) =
        Option.map Computed.checksum ∘ fun source : Source =>
          (Computed.ofReader (i.unifies settings) source).1.toOption := by
      funext source
      rw [Checksum.ofReader, Function.comp_apply]
      rcases Computed.ofReader (i.unifies settings) source with ⟨_ | _, _⟩ <;> rfl
    dsimp only
    rw [hmap, ← Option.map_bind, ← toOption_hashStream, Command.Input.hash, bind_apply]
    rcases (i.origin.hashStream (i.unifies settings) :
      Simulation (Except ChecksumError Computed)) w with ⟨_ | _, _⟩ <;> rfl

end Simulation

/-! ### From content to the answer -/

namespace Command

/-- What is printed of a report, and the status that a run ends with. -/
def Report.answer (r : Report) : String × Status :=
  (r.output, if r.failure.isNone then .success else .failure)

/-- The content that a command asks for. -/
def input? : Command → Option Input
  | compute input | verify _ input => some input
  | parse _ _ | version => none

/-- The answer to a command, for settings and sources that have been found. -/
def answer (settings : Settings) (source? : Origin → Option Source) : Command → String × Status
  | compute input =>
    match (source? input.origin).bind (input.checksum? settings) with
    | none => ("", .failure)
    | some fresh => (fresh.canonical ++ "\n", .success)
  | parse stored json => (if json then Report.json stored else Report.lines stored, .success)
  | verify stored input =>
    match (source? input.origin).bind (input.checksum? settings) with
    | none => ("", .failure)
    | some fresh => (Report.ofComparison (.parse stored) fresh).answer
  | version => (Text.numeral Checksum.currentVersion ++ "\n", .success)

end Command

namespace Simulation

variable {env : Environment} {journal : Log.Journal}

/-- What the journal is told does not change what is read. -/
theorem fst_readStored (journal : Log.Journal) (stored : String) (w : World) :
    ((journal.readStored stored : Simulation Checksum) w).1 = .parse stored := by
  rw [Log.Journal.readStored]
  split <;> rfl

/-- Nor how it is compared. -/
theorem fst_check (journal : Log.Journal) (stored fresh : Checksum) (w : World) :
    ((Command.check journal stored fresh : Simulation Command.Report) w).1 =
      .ofComparison stored fresh := by
  rw [Command.check]
  split <;> rfl

/-! ### Where content is looked for -/

/-- Log that content is about to be read. -/
def announceContent (i : Command.Input) (settings : Settings) (journal : Log.Journal) :
    Simulation Unit :=
  journal.record (.computing (i.mode settings) (i.unifies settings))

/-- Do what a command does before it looks for content. -/
def prepare (settings : Settings) (journal : Log.Journal) : Command → Simulation Unit
  | .compute input => announceContent input settings journal
  | .parse stored _ => discard (journal.readStored stored : Simulation Checksum)
  | .verify stored input => do
    discard (journal.readStored stored : Simulation Checksum)
    announceContent input settings journal
  | .version => return

/-- Preparing a command is telling the journal. -/
theorem keeps_prepare (hj : journal.BelongsTo env) (settings : Settings) (command : Command) :
    Keeps (World.Still env.journalFootprint) (prepare settings journal command) := by
  cases command with
  | compute input => exact keeps_record hj _
  | parse stored json => exact (keeps_readStored hj stored).discard
  | verify stored input => exact (keeps_readStored hj stored).discard.bind fun _ => keeps_record hj _
  | version => exact .pure _

/-- The checksum of content is that of the source that is there once the journal has been told. -/
theorem checksum_spec (hj : journal.BelongsTo env) (i : Command.Input) (settings : Settings)
    (w : World) :
    World.Silent env.journalFootprint (announceContent i settings journal w).2
        ((i.checksum settings journal : Simulation (Except Command.ContentError Checksum)) w).2 ∧
      ((i.checksum settings journal :
          Simulation (Except Command.ContentError Checksum)) w).1.toOption =
        (i.origin.source? (announceContent i settings journal w).2).bind (i.checksum? settings) := by
  refine ⟨keeps_hash_and_record hj i _ _ _, ?_⟩
  unfold announceContent
  rw [← toOption_hash, Command.Input.checksum, bind_apply, bind_apply]
  rcases (i.hash (i.unifies settings) (i.mode settings) :
    Simulation (Except Command.ContentError Computed)) _ with ⟨_ | _, _⟩ <;> rfl

/-- **Carrying out a command.** The answer is that of the sources that are there once all is prepared,
    and from then on a journal is kept. -/
theorem perform_spec (hj : journal.BelongsTo env) (settings : Settings) (command : Command)
    (w : World) :
    World.Silent env.journalFootprint (prepare settings journal command w).2
        ((command.perform settings journal : Simulation Command.Report) w).2 ∧
      ((command.perform settings journal : Simulation Command.Report) w).1.answer =
        command.answer settings (·.source? (prepare settings journal command w).2) := by
  cases command with
  | compute input =>
    obtain ⟨hafter, hresult⟩ := checksum_spec hj input settings w
    rw [Command.perform, bind_apply, Command.answer, prepare, ← hresult]
    rcases hhashed : (input.checksum settings journal :
      Simulation (Except Command.ContentError Checksum)) w with ⟨_ | _, w'⟩ <;>
    · rw [hhashed] at hafter
      exact ⟨hafter, rfl⟩
  | parse stored json => exact ⟨.refl _, rfl⟩
  | verify stored input =>
    -- reading the stored checksum is logged too, so the content is found in the world after that
    have hparse := fst_readStored journal stored w
    rw [Command.perform, bind_apply, prepare, bind_apply]
    show World.Silent _ (announceContent input settings journal
        ((journal.readStored stored : Simulation Checksum) w).2).2 _ ∧ _ = Command.answer settings
      (·.source? (announceContent input settings journal
        ((journal.readStored stored : Simulation Checksum) w).2).2) _
    generalize (journal.readStored stored : Simulation Checksum) w = read at hparse ⊢
    obtain ⟨_, w₁⟩ := read
    obtain rfl := hparse
    obtain ⟨hafter, hresult⟩ := checksum_spec hj input settings w₁
    rw [Command.answer, ← hresult]
    dsimp only
    rw [bind_apply]
    rcases hhashed : (input.checksum settings journal :
      Simulation (Except Command.ContentError Checksum)) w₁ with ⟨_ | fresh, w₂⟩
    · rw [hhashed] at hafter
      exact ⟨hafter, rfl⟩
    · rw [hhashed] at hafter
      have hcheck := (keeps_check hj (.parse stored) fresh w₂).toSilent
      refine ⟨hafter.trans hcheck, ?_⟩
      dsimp only
      rw [fst_check]
      rfl
  | version => exact ⟨.refl w, rfl⟩

/-! ### Whole runs -/

/-- The journal that a run begins, and the world in which it has begun it. -/
def begun (env : Environment) (w : World) : Log.Journal × World :=
  (Log.Journal.start env : Simulation Log.Journal) w

/-- What comes of loading the settings, once the journal has begun. -/
def loading (env : Environment) (w : World) : Except Settings.LoadError Settings.Loaded × World :=
  (Settings.load env : Simulation (Except Settings.LoadError Settings.Loaded)) (begun env w).2

/-- The world in which a run looks for the content of its command: the settings have been loaded and
    announced, and the command is prepared. -/
def lookout (env : Environment) (command : Command) (loaded : Settings.Loaded) (w : World) : World :=
  (prepare loaded.settings (begun env w).1 command
    (announce (begun env w).1 loaded (loading env w).2).2).2

/-- What is delivered is the answer of the report. -/
theorem deliver_spec (r : Command.Report) (w : World) :
    ((r.deliver : Simulation Status) w).1 = r.answer.2 ∧
      ((r.deliver : Simulation Status) w).2.output = w.output ++ r.answer.1 := by
  rw [Command.Report.deliver, bind_apply, Command.Report.answer]
  obtain ⟨output, _ | failure⟩ := r <;> exact ⟨rfl, rfl⟩

/-- **Answering a command line.** Without settings the run fails, and nothing is printed.  With them, the
    answer is that of the sources that are there at the lookout, before and after which a journal is
    kept. -/
theorem run_command_at_lookout {line : List String} {command : Command}
    (hline : Command.Request.ofLine line = .ok (.run command)) (env : Environment) (w : World) :
    match loading env w with
    | (.error _, _) =>
      ((run env line : Simulation Status) w).1 = .failure ∧
        ((run env line : Simulation Status) w).2.output = w.output
    | (.ok loaded, w₂) => World.Still env.journalFootprint w₂ (lookout env command loaded w) ∧
      World.Grows env.journalFootprint (lookout env command loaded w)
        ((run env line : Simulation Status) w).2 ∧
      ((run env line : Simulation Status) w).1 =
        (command.answer loaded.settings (·.source? (lookout env command loaded w))).2 ∧
      ((run env line : Simulation Status) w).2.output = w.output ++
        (command.answer loaded.settings (·.source? (lookout env command loaded w))).1 := by
  have hstarted := keeps_start env w
  have hj := belongsTo_start env w
  unfold lookout loading begun
  rw [run, bind_apply]
  -- of the journal, nothing counts but where it is kept
  generalize (Log.Journal.start env : Simulation Log.Journal) w = started at hstarted hj ⊢
  obtain ⟨journal, w₁⟩ := started
  have hloaded := keeps_load env w₁
  rw [hline]
  dsimp only
  rw [Command.Request.answer, bind_apply, execute_apply]
  rcases hload : (Settings.load env : Simulation (Except Settings.LoadError Settings.Loaded)) w₁ with
    ⟨error | loaded, w₂⟩
  · rw [hload] at hloaded
    obtain ⟨hstatus, houtput⟩ := deliver_spec (.failed (.settings error)) w₂
    refine ⟨hstatus, houtput.trans ?_⟩
    rw [hloaded.output_eq, hstarted.output_eq]
    exact String.append_empty
  · rw [hload] at hloaded
    have hannounced := keeps_announce hj loaded w₂
    have hbefore := keeps_prepare hj loaded.settings command (announce journal loaded w₂).2
    obtain ⟨hafter, hanswer⟩ :=
      perform_spec hj loaded.settings command (announce journal loaded w₂).2
    refine ⟨hannounced.trans hbefore, ?_⟩
    dsimp only
    generalize (command.perform loaded.settings journal : Simulation Command.Report)
      (announce journal loaded w₂).2 = performed at hafter hanswer ⊢
    obtain ⟨report, w₃⟩ := performed
    obtain ⟨hstatus, houtput⟩ := deliver_spec report w₃
    refine ⟨hafter.toGrows.trans (keeps_deliver report w₃), hanswer ▸ hstatus, ?_⟩
    rw [houtput, hanswer, hafter.output_eq, hbefore.output_eq, hannounced.output_eq,
      hloaded.output_eq, hstarted.output_eq]

/-- Where the lookout is does not matter much: but for the journal, the world there is the one in which
    settings have been loaded, and that one the world of the beginning. -/
theorem run_command_spec {line : List String} {command : Command}
    (hline : Command.Request.ofLine line = .ok (.run command)) (env : Environment) (w : World) :
    ∃ w₁, World.Still env.journalFootprint w w₁ ∧
      match (Settings.load env : Simulation (Except Settings.LoadError Settings.Loaded)) w₁ with
      | (.error _, _) =>
        ((run env line : Simulation Status) w).1 = .failure ∧
          ((run env line : Simulation Status) w).2.output = w.output
      | (.ok loaded, w₂) => ∃ v, World.Still env.journalFootprint w₂ v ∧
        World.Grows env.journalFootprint v ((run env line : Simulation Status) w).2 ∧
        ((run env line : Simulation Status) w).1 =
          (command.answer loaded.settings (·.source? v)).2 ∧
        ((run env line : Simulation Status) w).2.output =
          w.output ++ (command.answer loaded.settings (·.source? v)).1 := by
  refine ⟨(begun env w).2, keeps_start env w, ?_⟩
  have h := run_command_at_lookout hline env w
  -- the journal leaves a world, and settings are loaded in that one
  show match loading env w with
    | (.error _, _) => _
    | (.ok loaded, w₂) => _
  rcases hload : loading env w with ⟨error | loaded, w₂⟩
  · rw [hload] at h
    exact h
  · rw [hload] at h
    exact ⟨_, h⟩

end Simulation

end ContentChecksum
