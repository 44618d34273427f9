import ContentChecksum.Proofs.SettledSettings

namespace ContentChecksum

/-!
# What runs leave behind

A session is any number of runs on one tree of files, each with a command line, an environment, a
current directory, a standard input and a time of its own.

* `FileTree.Kept` — what a tree may become: directories stay, files stay and keep their content but
  for logs, which may have more at their end, and all new files are accounted for;
* `Invocation.perform_kept` — one run, whatever becomes of it, keeps the tree so: the only log is its
  own, and the only file that it makes besides is the settings file;
* `session_kept` — so does every run of a session, and a session as a whole.
-/

namespace FileTree

/-- A tree that has been kept, where some locations are those of logs and some files may have been
    made. -/
structure Kept (isLog : Location → Prop) (made : Location → List UInt8 → Prop) (t t' : FileTree) :
    Prop where
  /-- Directories stay. -/
  directory : ∀ {loc}, t.find? loc = some .directory → t'.find? loc = some .directory
  /-- Files stay, and only logs get more at their end. -/
  file : ∀ {loc c}, t.find? loc = some (.file c) →
    ∃ more, t'.find? loc = some (.file (c ++ more)) ∧ (isLog loc ∨ more = [])
  /-- New files are logs, or may have been made. -/
  fresh : ∀ {loc c}, t.find? loc = none → t'.find? loc = some (.file c) → isLog loc ∨ made loc c

namespace Kept

variable {isLog isLog' : Location → Prop} {made made' : Location → List UInt8 → Prop}
  {t t' t'' : FileTree} {loc : Location} {c : List UInt8}

/-- A tree that nothing happens to is kept. -/
theorem refl (t : FileTree) : Kept isLog made t t where
  directory h := h
  file h := ⟨[], by rw [List.append_nil, h], Or.inr rfl⟩
  fresh hnone hsome := by
    rw [hnone] at hsome
    cases hsome

/-- A tree that is kept twice is kept. -/
theorem trans (h : Kept isLog made t t') (h' : Kept isLog made t' t'') : Kept isLog made t t'' where
  directory hdir := h'.directory (h.directory hdir)
  file hfile := by
    obtain ⟨more, hmid, hlog⟩ := h.file hfile
    obtain ⟨more', hafter, hlog'⟩ := h'.file hmid
    refine ⟨more ++ more', by rw [hafter, List.append_assoc], ?_⟩
    obtain hlog | rfl := hlog
    · exact Or.inl hlog
    · exact hlog'.imp id fun hnil => by rw [hnil, List.append_nil]
  fresh {loc c} hnone hsome := by
    cases hmid : t'.find? loc with
    | none => exact h'.fresh hmid hsome
    | some e =>
      cases e with
      | directory =>
        rw [h'.directory hmid] at hsome
        cases hsome
      | file c' =>
        -- made by what came first: a log, or with the content that it still has
        obtain ⟨more, hafter, hlog | rfl⟩ := h'.file hmid
        · exact Or.inl hlog
        · rw [List.append_nil, hsome] at hafter
          obtain rfl := Entry.file.inj (Option.some.inj hafter)
          exact h.fresh hnone hmid

/-- More logs, and more files that may be made, allow as much. -/
theorem mono (hlog : ∀ {loc}, isLog loc → isLog' loc) (hmade : ∀ {loc c}, made loc c → made' loc c)
    (h : Kept isLog made t t') : Kept isLog' made' t t' where
  directory := h.directory
  file hfile := by
    obtain ⟨more, hafter, hmore⟩ := h.file hfile
    exact ⟨more, hafter, hmore.imp hlog id⟩
  fresh hnone hsome := (h.fresh hnone hsome).imp hlog hmade

/-- A file that is no log keeps its content. -/
theorem file_eq (h : Kept isLog made t t') (hfile : t.find? loc = some (.file c))
    (hlog : ¬ isLog loc) : t'.find? loc = some (.file c) := by
  obtain ⟨more, hafter, hl | rfl⟩ := h.file hfile
  · exact absurd hl hlog
  · rw [hafter, List.append_nil]

end Kept

end FileTree

/-! ### Runs -/

/-- How the program is called. -/
structure Invocation where
  env : Environment
  line : List String
  here : Location
  standardInput : List UInt8
  clock : Nat

namespace Invocation

/-- The world that a run begins in. -/
def world (i : Invocation) (t : FileTree) : World :=
  ⟨t, i.here, i.standardInput, i.clock, "", ""⟩

/-- What a run prints, and the status that it ends with. -/
def outcome (i : Invocation) (t : FileTree) : String × Status :=
  (((run i.env i.line : Simulation Status) (i.world t)).2.output,
    ((run i.env i.line : Simulation Status) (i.world t)).1)

/-- The tree that a run leaves. -/
def perform (i : Invocation) (t : FileTree) : FileTree :=
  ((run i.env i.line : Simulation Status) (i.world t)).2.files

/-- Where a run keeps its log. -/
def KeepsLogAt (i : Invocation) (loc : Location) : Prop :=
  i.env.logPlace? i.here = some loc

/-- Where a run looks for its settings. -/
def KeepsSettingsAt (i : Invocation) (loc : Location) : Prop :=
  i.env.settingsPlace? i.here = some loc

/-- A file that a run may make besides its log: the settings file, if the command line asks for a
    command.  It is made from the default settings. -/
def Makes (i : Invocation) (loc : Location) (c : List UInt8) : Prop :=
  i.KeepsSettingsAt loc ∧ (∃ command, Command.Request.ofLine i.line = .ok (.run command)) ∧
    c = Utf8.encode (Settings.write .default).toList

/-- The log of one run is never the settings file of another, nor its own. -/
theorem not_keepsSettingsAt {i j : Invocation} {loc : Location} (h : i.KeepsLogAt loc) :
    ¬ j.KeepsSettingsAt loc :=
  Environment.logPlace?_ne_settingsPlace? h

/-- What the footprint of a run allows to be made is accounted for. -/
theorem keepsLogAt_or_makes {i : Invocation} {loc : Location} {c : List UInt8}
    (h : (i.env.runFootprint i.line i.here).fresh loc (.file c)) :
    i.KeepsLogAt loc ∨ i.Makes loc c := by
  have hjournal : (i.env.journalFootprint i.here).fresh loc (.file c) → i.KeepsLogAt loc := by
    rintro (⟨dir, -, hdir, -⟩ | ⟨hplace, -⟩)
    · cases hdir
    · exact hplace
  rw [Environment.runFootprint] at h
  split at h
  · rename_i command hline
    obtain hlog | ⟨dir, -, hdir, -⟩ | ⟨hplace, hfile⟩ := h
    · exact Or.inl (hjournal hlog)
    · cases hdir
    · exact Or.inr ⟨hplace, ⟨command, hline⟩, Entry.file.inj hfile⟩
  · exact Or.inl (hjournal h)

/-- What grows in a run is its log. -/
theorem keepsLogAt_of_grown {i : Invocation} {loc : Location}
    (h : (i.env.runFootprint i.line i.here).grown loc) : i.KeepsLogAt loc := by
  rw [Environment.runFootprint] at h
  split at h
  · exact h.resolve_right id
  · exact h

/-- **One run.** Whatever becomes of a run, it keeps the tree, with no log but its own, and no other
    file made than its settings. -/
theorem perform_kept (i : Invocation) (t : FileTree) :
    FileTree.Kept i.KeepsLogAt i.Makes t (i.perform t) := by
  have hgrowth := (Simulation.keeps_run i.env i.line (i.world t)).growth
  refine ⟨hgrowth.find?_directory, fun hfile => ?_, fun hnone hsome => ?_⟩
  · obtain ⟨more, hafter, hmore⟩ := hgrowth.find?_file hfile
    exact ⟨more, hafter, hmore.imp keepsLogAt_of_grown id⟩
  · obtain hfresh | ⟨hgrown, -⟩ := hgrowth.find?_of_fresh hnone hsome
    · exact keepsLogAt_or_makes hfresh
    · exact Or.inl (keepsLogAt_of_grown hgrown)

end Invocation

/-! ### Sessions -/

/-- The tree that runs leave, one after the other. -/
def session (runs : List Invocation) (t : FileTree) : FileTree :=
  runs.foldl (fun t i => i.perform t) t

/-- A session keeps the tree, with no logs but those of its runs, and no other files made than their
    settings. -/
theorem session_kept_whole (runs : List Invocation) (t : FileTree) :
    FileTree.Kept (fun loc => ∃ i ∈ runs, i.KeepsLogAt loc) (fun loc c => ∃ i ∈ runs, i.Makes loc c)
      t (session runs t) := by
  induction runs generalizing t with
  | nil => exact .refl t
  | cons i runs ih =>
    have hrun : FileTree.Kept (fun loc => ∃ j ∈ i :: runs, j.KeepsLogAt loc)
        (fun loc c => ∃ j ∈ i :: runs, j.Makes loc c) t (i.perform t) :=
      (i.perform_kept t).mono (fun hlog => ⟨i, List.mem_cons_self, hlog⟩)
        fun hmade => ⟨i, List.mem_cons_self, hmade⟩
    refine hrun.trans ((ih (i.perform t)).mono ?_ ?_)
    · exact fun ⟨j, hj, hlog⟩ => ⟨j, List.mem_cons_of_mem i hj, hlog⟩
    · exact fun ⟨j, hj, hmade⟩ => ⟨j, List.mem_cons_of_mem i hj, hmade⟩

/-- **Nothing is lost.** In a session of any runs on any tree, be they answered, refused or broken off
    by a failure:

    * at each run, directories and files stay; files keep their content, except that the log of the
      run may have more at its end; and the only new files are that log and, if the command line
      asked for a command, the settings file, with the default settings in it;
    * the same holds from the beginning to the end of the session;
    * a file where any run looks for its settings keeps its content throughout, for no run keeps its
      log there;
    * and the settings file that a run makes is read as the default settings. -/
theorem session_kept (runs : List Invocation) (t : FileTree) :
    (∀ earlier i later, runs = earlier ++ i :: later →
      session (earlier ++ [i]) t = i.perform (session earlier t) ∧
      FileTree.Kept i.KeepsLogAt i.Makes (session earlier t) (session (earlier ++ [i]) t)) ∧
    FileTree.Kept (fun loc => ∃ i ∈ runs, i.KeepsLogAt loc) (fun loc c => ∃ i ∈ runs, i.Makes loc c)
      t (session runs t) ∧
    (∀ (i : Invocation) loc c, i.KeepsSettingsAt loc → t.find? loc = some (.file c) →
      (session runs t).find? loc = some (.file c)) ∧
    (∀ (i : Invocation) loc c path, i.Makes loc c →
      Simulation.settingsOf path (Entry.file c).source = .ok ⟨.default, path, false⟩) := by
  have hconcat : ∀ earlier i, session (earlier ++ [i]) t = i.perform (session earlier t) :=
    fun earlier i => by rw [session, List.foldl_append]; rfl
  have hwhole := session_kept_whole runs t
  refine ⟨fun earlier i later _ => ⟨hconcat earlier i, ?_⟩, hwhole, ?_, ?_⟩
  · rw [hconcat]
    exact i.perform_kept _
  · rintro i loc c hsettings hfile
    exact hwhole.file_eq hfile fun ⟨j, _, hlog⟩ => Invocation.not_keepsSettingsAt hlog hsettings
  · rintro i loc c path ⟨-, -, rfl⟩
    exact Simulation.settingsOf_default path

end ContentChecksum
