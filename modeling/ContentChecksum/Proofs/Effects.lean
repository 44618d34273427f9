import ContentChecksum.Program
import ContentChecksum.Proofs.Directories

namespace ContentChecksum

open ContentChecksum.Path

/-!
# What a run may write

A run writes to two places, the log file and the settings file, and makes the directories on the way
to them.

* `Environment.logPlace?`, `Environment.settingsPlace?` — the two places.  They are never the same
  (`Environment.logPlace?_ne_settingsPlace?`);
* `Environment.journalFootprint` — the log is made and added to, whoever keeps the journal;
* `Environment.settingsWay` — directories are made on the way to the settings file, and
  `Environment.settingsFootprint` — the settings file is made from the default settings, and never
  written to again;
* `Simulation.load_apply` — settings are loaded by looking for their file and by reading or making
  it, for its directory is there by then (`Simulation.directory_of_locate`);
* `Simulation.keeps_run` — a run does nothing else to a tree, and only the first unless the command
  line asks for a command.
-/

/-! ### Two places -/

namespace Environment

/-- The path of the log file. -/
def logPath? (env : Environment) : Option String :=
  env.stateDirectory?.map fun dir => join dir Log.Journal.fileName

/-- The path of the settings file. -/
def settingsPath? (env : Environment) : Option String :=
  env.configDirectory?.map fun dir => join dir Settings.fileName

/-- Where the log file belongs. -/
def logPlace? (env : Environment) (here : Location) : Option Location :=
  env.logPath?.map (place here)

/-- Where the settings file belongs. -/
def settingsPlace? (env : Environment) (here : Location) : Option Location :=
  env.settingsPath?.map (place here)

/-- The log file has a name that can be joined to a path. -/
theorem isName_logFile : IsName Log.Journal.fileName := by
  constructor <;> decide +kernel

/-- So has the settings file. -/
theorem isName_settingsFile : IsName Settings.fileName := by
  constructor <;> decide +kernel

/-- So has the directory of either. -/
theorem isName_directory : IsName directoryName := by
  constructor <;> decide +kernel

variable {env other : Environment} {dir path : String} {here loc : Location}

/-- The path of the directory of the settings ends in the name of that directory. -/
theorem endsInName_configDirectory (h : env.configDirectory? = some dir) : EndsInName dir := by
  rw [configDirectory?, Option.map_eq_some_iff] at h
  obtain ⟨home, -, rfl⟩ := h
  exact endsInName_join _ isName_directory

/-- The log is kept in the directory for it. -/
theorem logPath?_of_stateDirectory (h : env.stateDirectory? = some dir) :
    env.logPath? = some (join dir Log.Journal.fileName) := by
  rw [logPath?, h, Option.map_some]

/-- The settings are kept in the directory for them. -/
theorem settingsPath?_of_configDirectory (h : env.configDirectory? = some dir) :
    env.settingsPath? = some (join dir Settings.fileName) := by
  rw [settingsPath?, h, Option.map_some]

/-- What is last on the way to the log file is its name. -/
theorem getLast?_of_logPlace (h : env.logPlace? here = some loc) :
    loc.getLast? = some Log.Journal.fileName := by
  rw [logPlace?, logPath?, Option.map_map, Option.map_eq_some_iff] at h
  obtain ⟨dir, -, rfl⟩ := h
  rw [Function.comp_apply, place_join here dir isName_logFile, List.getLast?_concat]

/-- What is last on the way to the settings file is its name. -/
theorem getLast?_of_settingsPlace (h : env.settingsPlace? here = some loc) :
    loc.getLast? = some Settings.fileName := by
  rw [settingsPlace?, settingsPath?, Option.map_map, Option.map_eq_some_iff] at h
  obtain ⟨dir, -, rfl⟩ := h
  rw [Function.comp_apply, place_join here dir isName_settingsFile, List.getLast?_concat]

/-- The log is never kept where settings are, in whatever environments. -/
theorem logPlace?_ne_settingsPlace? {here' : Location} (hlog : env.logPlace? here = some loc) :
    other.settingsPlace? here' ≠ some loc := by
  -- their last names differ
  intro hsettings
  have heq := (getLast?_of_logPlace hlog).symm.trans (getLast?_of_settingsPlace hsettings)
  exact absurd heq (by decide)

/-! ### Two footprints -/

/-- What keeping a journal may do. -/
def journalFootprint (env : Environment) (here : Location) : Footprint where
  fresh loc e := (∃ dir, env.stateDirectory? = some dir ∧ (Footprint.way dir here).fresh loc e) ∨
    (env.logPlace? here = some loc ∧ ∃ c, e = .file c)
  grown loc := env.logPlace? here = some loc

/-- What looking for the settings file may do. -/
def settingsWay (env : Environment) (here : Location) : Footprint where
  fresh loc e := ∃ dir, env.configDirectory? = some dir ∧ (Footprint.way dir here).fresh loc e
  grown _ := False

/-- What loading settings may do. -/
def settingsFootprint (env : Environment) (here : Location) : Footprint where
  fresh loc e := (∃ dir, env.configDirectory? = some dir ∧ (Footprint.way dir here).fresh loc e) ∨
    (env.settingsPlace? here = some loc ∧
      e = .file (Utf8.encode (Settings.write .default).toList))
  grown _ := False

/-- What a command may do. -/
def commandFootprint (env : Environment) (here : Location) : Footprint :=
  (env.journalFootprint here).both (env.settingsFootprint here)

/-- What a run may do: settings are loaded if the command line asks for a command. -/
def runFootprint (env : Environment) (line : List String) (here : Location) : Footprint :=
  match Command.Request.ofLine line with
  | .ok (.run _) => env.commandFootprint here
  | _ => env.journalFootprint here

/-- A command may do what keeping a journal may do. -/
theorem journal_within_command (env : Environment) (here : Location) :
    (env.journalFootprint here).Within (env.commandFootprint here) :=
  Footprint.within_both_left _ _

/-- A command may do what loading settings may do. -/
theorem settings_within_command (env : Environment) (here : Location) :
    (env.settingsFootprint here).Within (env.commandFootprint here) :=
  Footprint.within_both_right _ _

/-- Every run may keep a journal, whatever its command line asks for. -/
theorem journal_within_run (env : Environment) (line : List String) (here : Location) :
    (env.journalFootprint here).Within (env.runFootprint line here) := by
  rw [runFootprint]
  split
  · exact env.journal_within_command here
  · exact ⟨id, id⟩

/-- The directories on the way to the log may be made for it. -/
theorem way_within_journalFootprint (h : env.stateDirectory? = some dir) (here : Location) :
    (Footprint.way dir here).Within (env.journalFootprint here) where
  fresh hfresh := Or.inl ⟨dir, h, hfresh⟩
  grown hgrown := hgrown.elim

/-- The directories on the way to the settings may be made for them. -/
theorem way_within_settingsWay (h : env.configDirectory? = some dir) (here : Location) :
    (Footprint.way dir here).Within (env.settingsWay here) where
  fresh hfresh := ⟨dir, h, hfresh⟩
  grown hgrown := hgrown

/-- Looking for the settings is part of loading them. -/
theorem settingsWay_within_settings (env : Environment) (here : Location) :
    (env.settingsWay here).Within (env.settingsFootprint here) where
  fresh hfresh := Or.inl hfresh
  grown hgrown := hgrown

end Environment

open Environment

/-! ### The journal -/

/-- A journal that is kept in the log file of an environment, if in a file at all. -/
def Log.Journal.BelongsTo (env : Environment) (j : Log.Journal) : Prop :=
  ∀ path, j.sink = .file path → env.logPath? = some path

namespace Simulation

variable {env : Environment} {journal : Log.Journal} {path : String}
  {R : World → World → Prop}

/-- Adding to the log file is within the footprint. -/
theorem keeps_append_log (h : env.logPath? = some path) (bytes : List UInt8) :
    Keeps (World.Still env.journalFootprint)
      (Host.append path bytes : Simulation (Except Fault Unit)) := by
  have hplace : ∀ here, env.logPlace? here = some (place here path) := fun here => by
    rw [logPlace?, h, Option.map_some]
  exact keeps_append (fun here c => Or.inr ⟨hplace here, c, rfl⟩) hplace bytes

/-- An event goes to the log file, or to the standard error, or nowhere. -/
theorem keeps_record (hj : journal.BelongsTo env) (e : Log.Event) :
    Keeps (World.Still env.journalFootprint) (journal.record e : Simulation Unit) := by
  rw [Log.Journal.record]
  split
  · refine keeps_now.bind fun now => ?_
    cases hsink : journal.sink with
    | file path => exact (keeps_append_log (hj path hsink) _).discard
    | standardError => exact keeps_printError _
  · exact .pure _

/-- Opening the log file makes directories on the way to it, and the file if it is not there. -/
theorem keeps_openFile? (env : Environment) :
    Keeps (World.Still env.journalFootprint)
      (Log.Journal.openFile? env : Simulation (Option String)) := by
  rw [Log.Journal.openFile?]
  cases hdir : env.stateDirectory? with
  | none => exact .pure _
  | some dir =>
    have hway := (keeps_createDirectories dir).mono (World.Still.mono (way_within_journalFootprint hdir))
    refine hway.bind fun created => ?_
    cases created with
    | error _ => exact .pure _
    | ok _ =>
      refine (keeps_append_log (logPath?_of_stateDirectory hdir) []).bind fun opened => ?_
      cases opened with
      | error _ => exact .pure _
      | ok _ => exact .pure _

/-- The log file is opened where it belongs, if it is opened. -/
theorem logPath?_of_openFile? {w : World}
    (h : ((Log.Journal.openFile? env : Simulation (Option String)) w).1 = some path) :
    env.logPath? = some path := by
  rw [Log.Journal.openFile?] at h
  cases hdir : env.stateDirectory? with
  | none =>
    rw [hdir] at h
    cases h
  | some dir =>
    rw [hdir] at h
    revert h
    dsimp only
    rw [bind_apply]
    rcases (Host.createDirectories dir : Simulation (Except Fault Unit)) w with ⟨_ | _, w₁⟩
    · exact nofun
    · dsimp only
      rw [bind_apply, logPath?_of_stateDirectory hdir]
      rcases (Host.append (join dir Log.Journal.fileName) [] : Simulation (Except Fault Unit)) w₁
        with ⟨_ | _, w₂⟩
      · exact nofun
      · exact id

/-- The journal under way, if the log file has been opened or not. -/
theorem start_spec (env : Environment) (w : World) :
    ((Log.Journal.start env : Simulation Log.Journal) w).1.BelongsTo env ∧
      World.Still env.journalFootprint w ((Log.Journal.start env : Simulation Log.Journal) w).2 := by
  have hstill := keeps_openFile? env w
  have hpath := @logPath?_of_openFile? env
  rw [Log.Journal.start, bind_apply]
  rcases hopened : (Log.Journal.openFile? env : Simulation (Option String)) w with ⟨_ | path, w₁⟩
  · rw [hopened] at hstill
    exact ⟨nofun, hstill⟩
  · rw [hopened] at hstill
    have hj : Log.Journal.BelongsTo env ⟨.file path, .ofVariable env.logFilter⟩ := by
      intro path' hsink
      rw [← Log.Sink.file.inj hsink]
      exact hpath (congrArg Prod.fst hopened)
    exact ⟨hj, hstill.trans (keeps_record hj _ w₁)⟩

/-- A run keeps its journal where the environment says. -/
theorem belongsTo_start (env : Environment) (w : World) :
    ((Log.Journal.start env : Simulation Log.Journal) w).1.BelongsTo env :=
  (start_spec env w).1

/-- Beginning a journal does nothing but keep it. -/
theorem keeps_start (env : Environment) :
    Keeps (World.Still env.journalFootprint) (Log.Journal.start env : Simulation Log.Journal) :=
  fun w => (start_spec env w).2

/-! ### Settings -/

/-- The settings file is looked for below a home, in a directory that can be made or is there. -/
theorem locate_apply (env : Environment) (w : World) :
    (Settings.locate env : Simulation (Except Settings.LoadError String)) w =
      match env.configDirectory? with
      | none => (.error .noHome, w)
      | some dir =>
        match (Host.createDirectories dir : Simulation (Except Fault Unit)) w with
        | (.error fault, w') => (.error (.file fault), w')
        | (.ok (), w') => (.ok (join dir Settings.fileName), w') := by
  rw [Settings.locate]
  cases env.configDirectory? with
  | none => rfl
  | some dir =>
    dsimp only
    rw [bind_apply]
    rcases (Host.createDirectories dir : Simulation (Except Fault Unit)) w with ⟨_ | _, w'⟩ <;> rfl

/-- Looking for the settings file makes directories on the way to it, and no file. -/
theorem keeps_locate (env : Environment) :
    Keeps (World.Still env.settingsWay)
      (Settings.locate env : Simulation (Except Settings.LoadError String)) := by
  rw [Settings.locate]
  cases hdir : env.configDirectory? with
  | none => exact .pure _
  | some dir =>
    have hway := (keeps_createDirectories dir).mono (World.Still.mono (way_within_settingsWay hdir))
    refine hway.bind fun created => ?_
    cases created with
    | error _ => exact .pure _
    | ok _ => exact .pure _

/-- The settings file is looked for in its directory, which is there by then. -/
theorem directory_of_locate {w w' : World}
    (h : (Settings.locate env : Simulation (Except Settings.LoadError String)) w = (.ok path, w')) :
    ∃ dir loc, env.configDirectory? = some dir ∧ path = join dir Settings.fileName ∧
      w'.files.resolve w'.here dir = .ok (.present loc .directory) := by
  revert h
  rw [locate_apply]
  cases hdir : env.configDirectory? with
  | none => exact nofun
  | some dir =>
    have hhere := (keeps_createDirectories dir w).here_eq
    have hmade := resolve_of_createDirectories (w := w) (endsInName_configDirectory hdir)
    dsimp only
    generalize (Host.createDirectories dir : Simulation (Except Fault Unit)) w = created
      at hhere hmade ⊢
    obtain ⟨_ | _, w₁⟩ := created
    · exact nofun
    · intro h
      obtain ⟨hpath, rfl⟩ := Prod.mk.inj h
      exact ⟨dir, _, rfl, (Except.ok.inj hpath).symm, hhere ▸ hmade rfl⟩

/-- The settings file is looked for where it belongs. -/
theorem settingsPath?_of_locate {w : World}
    (h : ((Settings.locate env : Simulation (Except Settings.LoadError String)) w).1 = .ok path) :
    env.settingsPath? = some path := by
  obtain ⟨dir, -, hdir, rfl, -⟩ := directory_of_locate (Prod.ext h rfl)
  exact settingsPath?_of_configDirectory hdir

/-- In a directory that is there, making the settings file is writing it. -/
theorem create_of_directory {dir : String} {w : World} {loc : Location} (hdir : EndsInName dir)
    (hpath : w.files.resolve w.here dir = .ok (.present loc .directory)) :
    (Settings.create (join dir Settings.fileName) : Simulation _) w =
      (Settings.writeDefault (join dir Settings.fileName) : Simulation _) w := by
  rw [Settings.create, bind_apply, parent_join hdir isName_settingsFile,
    createDirectories_of_directory hdir hpath]

/-- Read the settings file, or make it where nothing is, in a directory that is there. -/
def fetchSettings (path : String) : Simulation (Except Settings.LoadError Settings.Loaded) := do
  if ← Host.has path then Settings.readFrom path else Settings.writeDefault path

/-- Loading settings is looking for their file and reading or making it.  That its directory is made
    once more does not show, as it is there. -/
theorem load_apply (env : Environment) (w : World) :
    (Settings.load env : Simulation (Except Settings.LoadError Settings.Loaded)) w =
      match (Settings.locate env : Simulation (Except Settings.LoadError String)) w with
      | (.error error, w') => (.error error, w')
      | (.ok path, w') => fetchSettings path w' := by
  rw [Settings.load, bind_apply]
  cases hlocate : (Settings.locate env : Simulation (Except Settings.LoadError String)) w with
  | mk located w' =>
    cases located with
    | error error => rfl
    | ok path =>
      obtain ⟨dir, loc, hdir, rfl, hdirectory⟩ := directory_of_locate hlocate
      dsimp only
      rw [fetchSettings, bind_apply, bind_apply, has_apply]
      split
      · rfl
      · exact create_of_directory (endsInName_configDirectory hdir) hdirectory

/-- The settings that are read from a source. -/
def settingsOf (path : String) (source : Source) : Except Settings.LoadError Settings.Loaded :=
  match source.readText with
  | .error fault => .error (.file fault)
  | .ok text =>
    match Settings.read (String.ofList text) with
    | .error error => .error (.text error)
    | .ok settings => .ok ⟨settings, path, false⟩

/-- Reading the settings file is reading whatever lies there, and changes nothing. -/
theorem readFrom_of_present {w : World} {loc : Location} {e : Entry}
    (h : w.files.resolve w.here path = .ok (.present loc e)) :
    (Settings.readFrom path : Simulation (Except Settings.LoadError Settings.Loaded)) w =
      (settingsOf path e.source, w) := by
  rw [Settings.readFrom, bind_apply, Host.readText, bind_apply, openSource_apply,
    FileTree.openSource_of_present h, settingsOf]
  dsimp only
  rw [pure_apply]
  dsimp only
  rcases e.source.readText with fault | text
  · rfl
  · dsimp only
    rcases Settings.read (String.ofList text) with error | settings <;> rfl

/-- What comes of the settings file is told by what is where it belongs. -/
theorem fetchSettings_apply (path : String) (w : World) :
    fetchSettings path w =
      match w.files.resolve w.here path with
      | .error fault => (.error (.file fault), w)
      | .ok (.present _ e) => (settingsOf path e.source, w)
      | .ok (.vacant loc) =>
        (.ok ⟨.default, path, true⟩,
          { w with files := w.files.put loc (.file (Utf8.encode (Settings.write .default).toList)) }) := by
  rw [fetchSettings, bind_apply, has_apply, FileTree.has]
  cases hpath : w.files.resolve w.here path with
  | error fault =>
    dsimp only
    rw [if_neg Bool.false_ne_true, Settings.writeDefault, bind_apply, write_apply, hpath]
    rfl
  | ok target =>
    -- whether something is there has been asked before, and the tree has not changed since
    match target with
    | .present loc e =>
      dsimp only
      rw [if_pos rfl, readFrom_of_present hpath]
    | .vacant loc =>
      dsimp only
      rw [if_neg Bool.false_ne_true, Settings.writeDefault, bind_apply, write_apply, hpath]
      rfl

/-- A settings file that exists is only read, and a new one holds the default settings. -/
theorem keeps_fetchSettings (h : env.settingsPath? = some path) :
    Keeps (World.Still env.settingsFootprint) (fetchSettings path) := by
  intro w
  rw [fetchSettings_apply]
  cases hpath : w.files.resolve w.here path with
  | error fault => exact .refl w
  | ok target =>
    match target with
    | .present loc e => exact .refl w
    | .vacant loc =>
      have hloc : loc = place w.here path := FileTree.location_of_resolve hpath
      have hplace : env.settingsPlace? w.here = some loc := by
        rw [settingsPlace?, h, Option.map_some, hloc]
      exact ⟨⟨⟨rfl, .put .refl hpath (Or.inr ⟨hplace, rfl⟩)⟩, rfl⟩, rfl⟩

/-- **Loading settings** does nothing but make their file, and directories on the way to it. -/
theorem keeps_load (env : Environment) :
    Keeps (World.Still env.settingsFootprint)
      (Settings.load env : Simulation (Except Settings.LoadError Settings.Loaded)) := by
  intro w
  have hlocated := (keeps_locate env w).mono env.settingsWay_within_settings
  have hpath := @settingsPath?_of_locate env
  rw [load_apply]
  rcases hlocate : (Settings.locate env : Simulation (Except Settings.LoadError String)) w with
    ⟨_ | path, w₁⟩
  · rwa [hlocate] at hlocated
  · rw [hlocate] at hlocated
    exact hlocated.trans (keeps_fetchSettings (hpath (congrArg Prod.fst hlocate)) w₁)

/-! ### Commands -/

variable {f : Location → Footprint}

/-- Reading a file as text changes nothing. -/
theorem keeps_readText [Std.Refl R] [Trans R R R] (path : String) :
    Keeps R (Host.readText path : Simulation (Except Fault (List Char))) := by
  rw [Host.readText]
  refine (keeps_openSource path).bind fun opened => ?_
  cases opened <;> exact .pure _

/-- Hashing content takes the standard input at most; it writes nothing and prints nothing. -/
theorem keeps_hash (i : Command.Input) (unify : Bool) (mode : InputMode) :
    Keeps (World.Silent f)
      (i.hash unify mode : Simulation (Except Command.ContentError Computed)) := by
  have htext : Keeps (World.Silent f) (i.origin.readText : Simulation (Except Fault (List Char))) := by
    cases i.origin with
    | argument text => exact .pure _
    | file path => exact keeps_readText path
    | standardInput => exact keeps_input.bind fun _ => .pure _
  have hstream : Keeps (World.Silent f)
      (i.origin.hashStream unify : Simulation (Except ChecksumError Computed)) := by
    cases i.origin with
    | argument text => exact .pure _
    | file path =>
      refine (keeps_openSource path).bind fun opened => ?_
      cases opened <;> exact .pure _
    | standardInput => exact keeps_input.bind fun _ => .pure _
  cases mode with
  | text =>
    refine htext.bind fun read => ?_
    cases read <;> exact .pure _
  | stream =>
    refine hstream.bind fun hashed => ?_
    cases hashed <;> exact .pure _

/-- What comes after the journal has been told that content is about to be read. -/
theorem keeps_hash_and_record (hj : journal.BelongsTo env) (i : Command.Input) (unify : Bool)
    (mode : InputMode) :
    Keeps (World.Silent env.journalFootprint) (do
      match ← (i.hash unify mode : Simulation (Except Command.ContentError Computed)) with
      | .error error => return .error error
      | .ok computed =>
        journal.record (Command.Input.event unify computed mode)
        return (.ok computed.checksum : Except Command.ContentError Checksum)) := by
  refine (keeps_hash i _ _).bind fun hashed => ?_
  cases hashed with
  | error _ => exact .pure _
  | ok _ => exact (keeps_record hj _).silent.bind fun _ => .pure _

/-- Computing the checksum of content does no more, but for what the journal is told. -/
theorem keeps_checksum (hj : journal.BelongsTo env) (i : Command.Input) (settings : Settings) :
    Keeps (World.Silent env.journalFootprint)
      (i.checksum settings journal : Simulation (Except Command.ContentError Checksum)) :=
  (keeps_record hj _).silent.bind fun _ => keeps_hash_and_record hj i _ _

/-- A stored checksum is read without a look at the world, but the journal may be told. -/
theorem keeps_readStored (hj : journal.BelongsTo env) (stored : String) :
    Keeps (World.Still env.journalFootprint) (journal.readStored stored : Simulation Checksum) := by
  rw [Log.Journal.readStored]
  split
  · exact (keeps_record hj _).bind fun _ => .pure _
  · exact Keeps.bind (.pure _) fun _ => .pure _

/-- Nor is there more to comparing two checksums. -/
theorem keeps_check (hj : journal.BelongsTo env) (stored fresh : Checksum) :
    Keeps (World.Still env.journalFootprint)
      (Command.check journal stored fresh : Simulation Command.Report) := by
  rw [Command.check]
  split
  · exact (keeps_record hj _).bind fun _ => .pure _
  · exact Keeps.bind (.pure _) fun _ => .pure _

/-- **A command** tells the journal what it does, and writes nothing else. -/
theorem keeps_perform (hj : journal.BelongsTo env) (settings : Settings) (command : Command) :
    Keeps (World.Silent env.journalFootprint)
      (command.perform settings journal : Simulation Command.Report) := by
  cases command with
  | compute input =>
    refine (keeps_checksum hj input settings).bind fun hashed => ?_
    cases hashed <;> exact .pure _
  | parse stored json => exact (keeps_readStored hj stored).discard.silent.bind fun _ => .pure _
  | verify stored input =>
    refine (keeps_readStored hj stored).silent.bind fun _ =>
      (keeps_checksum hj input settings).bind fun hashed => ?_
    cases hashed with
    | error _ => exact .pure _
    | ok fresh => exact (keeps_check hj _ fresh).silent
  | version => exact .pure _

/-- Log which settings were loaded. -/
def announce (journal : Log.Journal) (loaded : Settings.Loaded) : Simulation Unit := do
  if loaded.created then journal.record (.settingsCreated loaded.path)
  journal.record (.settingsLoaded loaded.settings)

/-- A command fails without settings, and is performed with them once they have been announced. -/
theorem execute_apply (env : Environment) (journal : Log.Journal) (command : Command) (w : World) :
    (command.execute env journal : Simulation Command.Report) w =
      match (Settings.load env : Simulation (Except Settings.LoadError Settings.Loaded)) w with
      | (.error error, w') => (.failed (.settings error), w')
      | (.ok loaded, w') =>
        (command.perform loaded.settings journal : Simulation Command.Report)
          (announce journal loaded w').2 := by
  rw [Command.execute, bind_apply]
  rcases (Settings.load env : Simulation (Except Settings.LoadError Settings.Loaded)) w with
    ⟨_ | ⟨settings, path, _ | _⟩, w'⟩ <;> rfl

/-- Announcing the settings is telling the journal. -/
theorem keeps_announce (hj : journal.BelongsTo env) (loaded : Settings.Loaded) :
    Keeps (World.Still env.journalFootprint) (announce journal loaded) := by
  obtain ⟨settings, path, created⟩ := loaded
  cases created with
  | true => exact (keeps_record hj _).bind fun _ => keeps_record hj (.settingsLoaded settings)
  | false => exact keeps_record hj (.settingsLoaded settings)

/-! ### Runs -/

/-- Executing a command is loading its settings, announcing and performing it. -/
theorem keeps_execute (hj : journal.BelongsTo env) (command : Command) :
    Keeps (World.Silent env.commandFootprint)
      (command.execute env journal : Simulation Command.Report) := by
  intro w
  have hloaded := ((keeps_load env w).mono env.settings_within_command).toSilent
  rw [execute_apply]
  rcases hload : (Settings.load env : Simulation (Except Settings.LoadError Settings.Loaded)) w with
    ⟨_ | loaded, w₁⟩
  · rwa [hload] at hloaded
  · rw [hload] at hloaded
    have hannounced := (keeps_announce hj loaded w₁).toSilent.mono env.journal_within_command
    have hperformed := (keeps_perform hj loaded.settings command (announce journal loaded w₁).2).mono
      env.journal_within_command
    exact hloaded.trans (hannounced.trans hperformed)

/-- Delivering a report is printing. -/
theorem keeps_deliver (report : Command.Report) :
    Keeps (World.Grows f) (report.deliver : Simulation Status) := by
  refine (keeps_print _).bind fun _ => ?_
  cases report.failure with
  | none => exact .pure _
  | some failure => exact (keeps_printError _).silent.grows.bind fun _ => .pure _

/-- **Footprint of a run.** Whatever the command line, the environment and the world, a run makes the
    log file and adds to it, makes the settings file if the command line asks for a command, makes
    directories on the way to the two, and does nothing else to a tree. -/
theorem keeps_run (env : Environment) (line : List String) :
    Keeps (World.Grows (env.runFootprint line)) (run env line : Simulation Status) := by
  intro w
  have hstarted := (keeps_start env w).toSilent.toGrows.mono (env.journal_within_run line)
  have hj := belongsTo_start env w
  rw [run, bind_apply]
  generalize (Log.Journal.start env : Simulation Log.Journal) w = started at hstarted hj ⊢
  obtain ⟨journal, w₁⟩ := started
  refine hstarted.trans ?_
  cases hline : Command.Request.ofLine line with
  | error error => exact (keeps_printError _).silent.grows.bind (fun _ => .pure _) w₁
  | ok request =>
    cases request with
    | help topic => exact (keeps_print _).bind (fun _ => .pure _) w₁
    | run command =>
      have hfootprint : env.runFootprint line = env.commandFootprint := by
        funext here
        rw [runFootprint, hline]
      rw [hfootprint]
      exact (keeps_execute hj command).grows.bind keeps_deliver w₁

end Simulation

end ContentChecksum
