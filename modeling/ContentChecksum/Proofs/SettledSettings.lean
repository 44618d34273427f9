import ContentChecksum.Proofs.Draining
import ContentChecksum.Proofs.Effects

namespace ContentChecksum

open ContentChecksum.Path

/-!
# Settings that are settled

* `Source.readText_ofBytes` — bytes are read as the text that they encode;
* `Simulation.settingsOf_default` — a settings file that was made holds the default settings;
* `Settled` — loading settings finds them, and nothing is left to be made.  So it is after settings
  have been loaded (`Simulation.settled_of_load`), be it that the file was there or that it was just
  made, and so it stays while the settings file is not written to (`Settled.of_grows`): loading
  again gives the same settings, and changes nothing (`Settled.load_eq`).
-/

/-! ### Reading what was written -/

/-- What is kept of a result is the result itself, unless it was an error. -/
theorem eq_ok_of_toOption {ε α : Type} {x : Except ε α} {a : α} (h : x.toOption = some a) :
    x = .ok a := by
  cases x with
  | error e => cases h
  | ok b => rw [Option.some.inj h]

/-- So it is enough to know that something is kept. -/
theorem exists_ok_of_isSome {ε α : Type} {x : Except ε α} (h : x.toOption.isSome = true) :
    ∃ a, x = .ok a := by
  obtain ⟨a, ha⟩ := Option.isSome_iff_exists.1 h
  exact ⟨a, eq_ok_of_toOption ha⟩

namespace Source

/-- Reading a script to its end gives its content. -/
theorem readToEnd_eq (s : Source) :
    Reader.readToEnd s = ⟨Script.content s.steps, Script.fault? s.steps,
      ⟨Script.rest s.steps, s.reads + Script.reads Reader.chunkSize s.steps⟩⟩ := by
  rw [Reader.readToEnd, drain_source Reader.chunkSize_pos Reader.seamless_reverse, List.append_nil,
    List.reverse_reverse]

/-- Bytes are read as the text that they encode. -/
theorem readText_ofBytes (bytes : List UInt8) :
    (ofBytes bytes).readText =
      match Utf8.decode? bytes with
      | some text => .ok text
      | none => .error .notUtf8 := by
  cases hdecode : Utf8.decode? bytes <;>
    simp only [readText, readToEnd_eq, ofBytes, ofSteps, Script.content_data, Script.fault?_data,
      hdecode]

end Source

namespace Simulation

/-- The text of the default settings is read back. -/
theorem settingsOf_default (path : String) :
    settingsOf path (.ofBytes (Utf8.encode (Settings.write .default).toList)) =
      .ok ⟨.default, path, false⟩ := by
  have hread : Settings.read (Settings.write .default) = .ok .default :=
    eq_ok_of_toOption (by decide +kernel)
  rw [settingsOf, Source.readText_ofBytes, Utf8.decode?_encode]
  dsimp only
  rw [String.ofList_toList, hread]

end Simulation

/-! ### Settled settings -/

/-- The settings file is there, in its directory, and holds the settings. -/
structure Settled (env : Environment) (w : World) (settings : Settings) : Prop where
  intro ::
  exists_entry : ∃ dir loc loc' e, env.configDirectory? = some dir ∧
    w.files.resolve w.here dir = .ok (.present loc .directory) ∧
    w.files.resolve w.here (join dir Settings.fileName) = .ok (.present loc' e) ∧
    Simulation.settingsOf (join dir Settings.fileName) e.source =
      .ok ⟨settings, join dir Settings.fileName, false⟩

open Simulation Environment

variable {env : Environment} {w w' : World} {settings : Settings} {f : Location → Footprint}

/-- Settings that are read tell where they come from. -/
theorem Simulation.eq_of_settingsOf {path : String} {source : Source} {loaded : Settings.Loaded}
    (h : settingsOf path source = .ok loaded) : loaded = ⟨loaded.settings, path, false⟩ := by
  rw [settingsOf] at h
  split at h
  · cases h
  · split at h
    · cases h
    · rw [← Except.ok.inj h]

/-- Once settings have been loaded, they are settled. -/
theorem Simulation.settled_of_load {loaded : Settings.Loaded}
    (h : ((Settings.load env : Simulation (Except Settings.LoadError Settings.Loaded)) w).1 =
      .ok loaded) :
    Settled env ((Settings.load env : Simulation (Except Settings.LoadError Settings.Loaded)) w).2
      loaded.settings := by
  revert h
  rw [load_apply]
  rcases hlocate : (Settings.locate env : Simulation (Except Settings.LoadError String)) w with
    ⟨_ | path, w₁⟩
  · exact nofun
  · obtain ⟨dir, above, hdir, rfl, hdirectory⟩ := directory_of_locate hlocate
    dsimp only
    rw [fetchSettings_apply]
    cases hpath : w₁.files.resolve w₁.here (join dir Settings.fileName) with
    | error fault => exact nofun
    | ok target =>
      match target with
      | .present loc e =>
        -- the settings file was there
        intro hsettings
        have hloaded := eq_of_settingsOf hsettings
        rw [hloaded] at hsettings
        exact ⟨dir, above, loc, e, hdir, hdirectory, hpath, hsettings⟩
      | .vacant loc =>
        -- it has just been made
        intro hsettings
        obtain rfl := Except.ok.inj hsettings
        obtain ⟨hdirectory', hpath'⟩ := FileTree.resolve_put_join isName_settingsFile (by decide)
          hdirectory hpath (.file (Utf8.encode (Settings.write .default).toList))
        exact ⟨dir, above, loc, _, hdir, hdirectory', hpath', settingsOf_default _⟩

/-- Settings stay settled while the settings file is not written to. -/
theorem Settled.of_grows (h : Settled env w settings) (hgrows : World.Grows f w w')
    (hstays : ∀ loc, env.settingsPlace? w.here = some loc → ¬ (f w.here).grown loc) :
    Settled env w' settings := by
  obtain ⟨dir, loc, loc', e, hdir, hdirectory, hpath, hsettings⟩ := h
  have hplace : env.settingsPlace? w.here = some loc' := by
    rw [settingsPlace?, settingsPath?_of_configDirectory hdir, Option.map_some,
      ← FileTree.location_of_resolve hpath]
    rfl
  refine ⟨dir, loc, loc', e, hdir, ?_, ?_, hsettings⟩
  · rw [hgrows.here_eq]
    exact hgrows.growth.resolve_present hdirectory (Or.inl rfl)
  · rw [hgrows.here_eq]
    exact hgrows.growth.resolve_present hpath (Or.inr (hstays loc' hplace))

/-- **Settled settings.** They are found, and nothing is changed. -/
theorem Settled.load_eq (h : Settled env w settings) :
    ∃ path, (Settings.load env : Simulation (Except Settings.LoadError Settings.Loaded)) w =
      (.ok ⟨settings, path, false⟩, w) := by
  obtain ⟨dir, loc, loc', e, hdir, hdirectory, hpath, hsettings⟩ := h
  refine ⟨join dir Settings.fileName, ?_⟩
  rw [load_apply, locate_apply, hdir]
  dsimp only
  rw [createDirectories_of_directory (endsInName_configDirectory hdir) hdirectory]
  dsimp only
  rw [fetchSettings_apply, hpath]
  dsimp only
  rw [hsettings]

end ContentChecksum
