import ContentChecksum.Proofs.SettledSettings

namespace ContentChecksum

open ContentChecksum.Path

/-!
# Loading settings twice, and failing to load them

Settings may be loaded again and again: the second time they are the same, and nothing is left to do,
whether the file was there or the first time made it.  If they cannot be loaded, no file has suffered.

* `FileTree.Paved` — a tree in which all files are as in another, with more directories at most;
* `Simulation.keeps_load_of_error` — when loading fails, it has made directories on the way to the
  settings file and done nothing else;
* `FileTree.resolve_of_join` — a path below a directory leads to something only if the directory is
  there.  So a settings file that exists is read at once (`Simulation.load_of_settingsFile`);
* `load_is_stable` — what this comes to.
-/

/-! ### Files that are left alone -/

namespace FileTree

/-- `t'` has the files of `t`, and its directories; those that it has besides are at certain
    locations. -/
structure Paved (isPaved : Location → Prop) (t t' : FileTree) : Prop where
  /-- No file is made, changed or taken away. -/
  file_iff : ∀ loc c, t'.find? loc = some (.file c) ↔ t.find? loc = some (.file c)
  /-- Directories stay. -/
  directory : ∀ loc, t.find? loc = some .directory → t'.find? loc = some .directory
  /-- New ones are at these locations. -/
  fresh : ∀ loc, t'.find? loc = some .directory → t.find? loc = some .directory ∨ isPaved loc

variable {t t' : FileTree} {here loc : Location} {dir name : String} {e : Entry} {f : Footprint}

/-- A tree that grows by directories alone is paved. -/
theorem Growth.paved {isPaved : Location → Prop} (h : Growth here f t t')
    (hfresh : ∀ loc e, f.fresh loc e → e = .directory ∧ isPaved loc)
    (hgrown : ∀ loc, ¬ f.grown loc) : Paved isPaved t t' where
  file_iff loc c := by
    constructor
    · intro hafter
      cases hbefore : t.find? loc with
      | none =>
        -- a file cannot be new
        obtain hf | ⟨hg, -⟩ := h.find?_of_fresh hbefore hafter
        · cases (hfresh _ _ hf).1
        · exact absurd hg (hgrown loc)
      | some e =>
        cases e with
        | file c' => rw [← hafter, h.find?_file_eq hbefore (hgrown loc)]
        | directory =>
          rw [h.find?_directory hbefore] at hafter
          cases hafter
    · intro hbefore
      exact h.find?_file_eq hbefore (hgrown loc)
  directory loc := h.find?_directory
  fresh loc hafter := by
    cases hbefore : t.find? loc with
    | none =>
      obtain hf | ⟨hg, -⟩ := h.find?_of_fresh hbefore hafter
      · exact Or.inr (hfresh _ _ hf).2
      · exact absurd hg (hgrown loc)
    | some e =>
      cases e with
      | file c =>
        rw [h.find?_file_eq hbefore (hgrown loc)] at hafter
        cases hafter
      | directory => exact Or.inl rfl

/-! ### Directories that are there -/

/-- A path that ends in a name below a directory leads to something only if the directory is there. -/
theorem resolve_of_join (hdir : EndsInName dir) (hname : IsName name)
    (h : t.resolve here (join dir name) = .ok (.present loc e)) :
    t.resolve here dir = .ok (.present (place here dir) .directory) := by
  obtain ⟨front, hjoin, hsplit⟩ := exists_split_join dir hname
  obtain ⟨above, last, hlast, hnamed⟩ := hdir
  have hparts : split dir = front := by
    obtain heq | heq := hsplit
    · exact heq
    · -- the last part of `dir` is a name, so there is no empty part behind it
      obtain ⟨-, hempty⟩ := List.append_inj' (hlast.symm.trans heq) rfl
      rw [List.singleton_inj.1 hempty] at hnamed
      exact absurd hnamed (by decide)
  have hfollows := follows_of_resolve h
  rw [base_join here dir hname, hjoin, ← hparts] at hfollows
  have hway := Follows.of_append hname.not_blank List.mem_cons_self hfollows
  have hadm : Admissible dir := by
    obtain ⟨rest, hrest⟩ : ∃ rest, join dir name = dir ++ rest := by
      unfold join
      split
      · exact ⟨name, rfl⟩
      · exact ⟨"/" ++ name, String.append_assoc⟩
    have hwhole := admissible_of_resolve h
    rw [hrest] at hwhole
    exact hwhole.of_append
  exact hway.resolve_eq hadm (EndsInName.ne_empty ⟨above, last, hlast, hnamed⟩)

end FileTree

/-! ### Loading -/

/-- Locations on the way to the directory of the settings, this one included. -/
def Environment.OnSettingsWay (env : Environment) (here loc : Location) : Prop :=
  ∃ dir, env.configDirectory? = some dir ∧
    ∃ front, front <+: split dir ∧ loc = arrive (base here dir) front

/-- Something lies where the settings file belongs, be it a file or a directory. -/
def Environment.HasSettings (env : Environment) (w : World) : Prop :=
  ∃ path, env.settingsPath? = some path ∧ w.files.has w.here path = true

open Environment

namespace Simulation

variable {env : Environment} {w : World} {loaded : Settings.Loaded} {error : Settings.LoadError}

/-- Reading or making the settings file fails only in a world that it leaves as it is. -/
theorem fetchSettings_of_error {path : String} (h : (fetchSettings path w).1 = .error error) :
    (fetchSettings path w).2 = w := by
  rw [fetchSettings_apply] at h ⊢
  split at h
  · rfl
  · rfl
  · cases h

/-- Loading that fails has looked for the settings file, and done no more. -/
theorem keeps_load_of_error
    (h : ((Settings.load env : Simulation _) w).1 = .error error) :
    World.Still env.settingsWay w ((Settings.load env : Simulation _) w).2 := by
  have hlocated := keeps_locate env w
  rw [load_apply] at h ⊢
  rcases hlocate : (Settings.locate env : Simulation _) w with ⟨_ | path, w₁⟩
  · rwa [hlocate] at hlocated
  · rw [hlocate] at hlocated h
    dsimp only at h ⊢
    rwa [fetchSettings_of_error h]

/-- Settings are loaded from where they belong. -/
theorem settingsPath?_of_load
    (h : ((Settings.load env : Simulation _) w).1 = .ok loaded) :
    env.settingsPath? = some loaded.path := by
  have hpath := @settingsPath?_of_locate env
  rw [load_apply] at h
  rcases hlocate : (Settings.locate env : Simulation _) w with ⟨_ | path, w₁⟩
  · rw [hlocate] at h
    cases h
  · rw [hlocate] at h
    rw [hpath (congrArg Prod.fst hlocate)]
    dsimp only at h
    rw [fetchSettings_apply] at h
    split at h
    · cases h
    · rw [eq_of_settingsOf h]
    · rw [← Except.ok.inj h]

/-- **A settings file that exists** is read, and nothing is changed. -/
theorem load_of_settingsFile (h : env.HasSettings w) :
    ∃ path, ∃ e : Entry, (Settings.load env : Simulation _) w = (settingsOf path e.source, w) := by
  obtain ⟨path, hpath, hhas⟩ := h
  unfold settingsPath? at hpath
  obtain ⟨dir, hdir, rfl⟩ := Option.map_eq_some_iff.1 hpath
  unfold FileTree.has at hhas
  split at hhas
  · rename_i loc e hpresent
    have hends := endsInName_configDirectory hdir
    have hdirectory := FileTree.resolve_of_join hends isName_settingsFile hpresent
    refine ⟨join dir Settings.fileName, e, ?_⟩
    rw [load_apply, locate_apply, hdir]
    dsimp only
    rw [createDirectories_of_directory hends hdirectory]
    dsimp only
    rw [fetchSettings_apply, hpresent]
  · cases hhas

end Simulation

/-- **Loading is stable, and does no harm.** If settings are loaded, be it from their file or by making
    it, loading them again gives the same settings and changes nothing.  If loading fails, no file has
    been made, changed or taken away, and what is new are directories on the way to the settings.
    If something lay where the settings file belongs, nothing is new, and loading again fails in the
    same way. -/
theorem load_is_stable (env : Environment) (w w' : World) :
    (∀ loaded, (Settings.load env : Simulation _) w = (.ok loaded, w') →
      (Settings.load env : Simulation _) w' = (.ok ⟨loaded.settings, loaded.path, false⟩, w')) ∧
    (∀ error, (Settings.load env : Simulation _) w = (.error error, w') →
      FileTree.Paved (env.OnSettingsWay w.here) w.files w'.files ∧
      (env.HasSettings w →
        w' = w ∧ (Settings.load env : Simulation _) w' = (.error error, w'))) := by
  constructor
  · intro loaded hload
    have hsettled := Simulation.settled_of_load (congrArg Prod.fst hload)
    rw [hload] at hsettled
    -- what is found the second time has the path of the first, for there is only one
    obtain ⟨path, hagain⟩ := hsettled.load_eq
    have hpath := Simulation.settingsPath?_of_load (congrArg Prod.fst hload)
    have hsame := Simulation.settingsPath?_of_load (congrArg Prod.fst hagain)
    obtain rfl : loaded.path = path := Option.some.inj (hpath.symm.trans hsame)
    exact hagain
  · intro error hload
    constructor
    · have hstill := Simulation.keeps_load_of_error (congrArg Prod.fst hload)
      rw [hload] at hstill
      refine hstill.growth.paved ?_ fun _ hgrown => hgrown
      rintro loc e ⟨dir, hdir, hdirectory, front, hfront, hloc⟩
      exact ⟨hdirectory, dir, hdir, front, hfront, hloc⟩
    · intro hexists
      obtain ⟨path, e, hread⟩ := Simulation.load_of_settingsFile hexists
      obtain rfl : w = w' := congrArg Prod.snd (hread.symm.trans hload)
      exact ⟨rfl, hload⟩

/-- The settings file is made and then read; and a settings file that is not TOML stays as it is. -/
theorem load_made_and_malformed :
    let env : Environment := ⟨some "/h", none, none, none⟩
    let bare : World := ⟨⟨[(["h"], .directory)]⟩, ["h"], [], 0, "", ""⟩
    let spoilt : World := { bare with files := ⟨[(["h"], .directory), (["h", ".config"], .directory),
      (["h", ".config", "changesum"], .directory),
      (["h", ".config", "changesum", "config.toml"], .file [0x3d])]⟩ }
    (∃ loaded w', (Settings.load env : Simulation _) bare = (.ok loaded, w') ∧ loaded.created = true ∧
      (Settings.load env : Simulation _) w' = (.ok ⟨loaded.settings, loaded.path, false⟩, w')) ∧
    env.HasSettings spoilt ∧ ∃ error, (Settings.load env : Simulation _) spoilt = (.error error, spoilt) := by
  intro env bare spoilt
  constructor
  · obtain ⟨hagain, -⟩ := load_is_stable env bare ((Settings.load env : Simulation _) bare).2
    have hmade : ((Settings.load env : Simulation _) bare).1.toOption.map Settings.Loaded.created =
        some true := by decide +kernel
    obtain ⟨loaded, hloaded, hcreated⟩ := Option.map_eq_some_iff.1 hmade
    have hload : (Settings.load env : Simulation _) bare =
        (.ok loaded, ((Settings.load env : Simulation _) bare).2) :=
      Prod.ext (eq_ok_of_toOption hloaded) rfl
    exact ⟨loaded, _, hload, hcreated, hagain loaded hload⟩
  · have hexists : env.HasSettings spoilt :=
      ⟨"/h/.config/changesum/config.toml", by decide +kernel, by decide +kernel⟩
    have hnone : ((Settings.load env : Simulation _) spoilt).1.toOption.isNone = true := by
      decide +kernel
    refine ⟨hexists, ?_⟩
    rcases hload : (Settings.load env : Simulation _) spoilt with ⟨error | loaded, w'⟩
    · obtain ⟨-, hharmless⟩ := load_is_stable env spoilt w'
      obtain ⟨rfl, -⟩ := (hharmless error hload).2 hexists
      exact ⟨error, rfl⟩
    · rw [hload] at hnone
      cases hnone

end ContentChecksum
