import ContentChecksum.Proofs.SimulatedHost

namespace ContentChecksum

open ContentChecksum.Path

/-!
# Making directories

A directory is made together with those above it that are missing, and the system is asked for the
whole path first.  What comes of it can be said without following the attempts:

* `FileTree.Passable` — no file stands in the way of a path, and no name on it is too long;
* `Simulation.createUpwards_of_reached`, `Simulation.createUpwards_of_missing` — one attempt, told by
  where the path leads: make the directory, or make those above it and try again;
* `Simulation.keeps_createDirectories` — nothing is made but directories on the way;
* `Simulation.createDirectories_ok_iff` — it succeeds exactly if the path is admissible and passable;
* `Simulation.resolve_of_createDirectories` — there is a directory then, and trying again finds it and
  changes nothing (`Simulation.createDirectories_of_directory`).
-/

/-- Directories on the way along a path. -/
def Footprint.way (dir : String) (here : Location) : Footprint where
  fresh loc e := e = .directory ∧ ∃ front, front <+: split dir ∧ loc = arrive (base here dir) front
  grown _ := False

namespace FileTree

variable {t t' : FileTree} {here loc : Location} {part : String} {parts rest : List String}

/-! ### What stands in the way -/

/-- Nothing keeps the parts from being followed once the directories are there. -/
structure Passable (t : FileTree) (here : Location) (parts : List String) : Prop where
  no_file : ∀ front, front <+: parts → ∀ c, t.find? (arrive here front) ≠ some (.file c)
  short : ∀ part ∈ parts, part.utf8ByteSize ≤ nameLimit

/-- A passable way is passable behind its first part. -/
theorem Passable.tail (h : Passable t here (part :: rest)) : Passable t (enter here part) rest where
  no_file front hfront := h.no_file (part :: front) ((List.prefix_cons_inj _).2 hfront)
  short p hp := h.short p (List.mem_cons_of_mem _ hp)

/-- And up to any of its parts. -/
theorem Passable.front {front : List String} (h : Passable t here parts) (hfront : front <+: parts) :
    Passable t here front where
  no_file front' hfront' := h.no_file front' (hfront'.trans hfront)
  short p hp := h.short p (hfront.subset hp)

/-- A part that names nothing is not too long. -/
theorem short_of_isBlank (h : isBlank part = true) : part.utf8ByteSize ≤ nameLimit := by
  rw [isBlank, decide_eq_true_eq] at h
  obtain rfl | rfl := h <;> decide

/-- No name is too long on parts that lead to something. -/
theorem Follows.short {target : Target} (h : t.Follows loc parts target) :
    ∀ part ∈ parts, part.utf8ByteSize ≤ nameLimit := by
  induction h with
  | arrived _ => exact fun _ hp => nomatch hp
  | pass hpass _ ih =>
    refine List.forall_mem_cons.2 ⟨?_, ih⟩
    obtain hblank | rfl | ⟨hshort, -⟩ := hpass
    · exact short_of_isBlank hblank
    · decide
    · exact hshort
  | file hname _ => exact List.forall_mem_singleton.2 hname.short
  | vacant hname _ hrest =>
    refine List.forall_mem_cons.2 ⟨hname.short, fun p hp => ?_⟩
    rw [hrest p hp]
    decide

/-- A directory that is put at a vacant place is found there. -/
theorem Follows.put_vacant (h : t.Follows here parts (.vacant loc)) :
    (t.put loc .directory).Follows here parts (.present loc .directory) := by
  have hnone : t.find? loc = none := h.find?_eq nofun
  have hput := find?_put t .directory (ne_nil_of_find?_none hnone)
  generalize htarget : Target.vacant loc = target at h
  induction h with
  | @pass start part _ _ hpass _ ih =>
    -- the part is got past as before, for the vacant place is not on the way
    refine .pass (hpass.imp id (Or.imp id (And.imp id fun hfind => ?_))) (ih htarget)
    have hother : enter start part ≠ loc := by
      rintro rfl
      rw [hnone] at hfind
      cases hfind
    rw [hput, if_neg hother, hfind]
  | vacant hname _ hrest =>
    cases htarget
    refine .pass (Or.inr (Or.inr ⟨hname.short, ?_⟩)) (follows_of_all_empty hrest _ _)
    rw [hput, if_pos rfl]
  | arrived | file => cases htarget

end FileTree

namespace Simulation

variable {dir part : String} {front above : List String} {w w' : World}

/-! ### One attempt -/

/-- Make a directory, or find that it exists. -/
def ensureDirectory (path : String) : Simulation (Except Fault Unit) := fun w =>
  match w.files.resolve w.here path with
  | .error fault => (.error fault, w)
  | .ok (.present _ .directory) => (.ok (), w)
  | .ok (.present _ (.file _)) => (.error .alreadyExists, w)
  | .ok (.vacant loc) => (.ok (), { w with files := w.files.put loc .directory })

/-- To make a directory and to look whether it exists is to ensure it. -/
theorem makeDirectory_or_isDirectory (path : String) :
    (do match ← (Host.makeDirectory path : Simulation (Except Fault Unit)) with
        | .ok () => return .ok ()
        | .error fault => return if ← Host.isDirectory path then .ok () else .error fault) =
      ensureDirectory path := by
  funext w
  rw [bind_apply, makeDirectory_apply, ensureDirectory]
  cases hpath : w.files.resolve w.here path with
  | error fault =>
    dsimp only
    rw [bind_apply, isDirectory_apply, FileTree.isDirectory, hpath]
    rfl
  | ok target =>
    match target with
    | .vacant loc => rfl
    | .present loc .directory | .present loc (.file c) =>
      dsimp only
      rw [bind_apply, isDirectory_apply, FileTree.isDirectory, hpath]
      rfl

/-- A part that names nothing is passed over. -/
theorem createUpwards_blank (hpart : isBlank part = true) :
    (Host.createUpwards (part :: above) : Simulation (Except Fault Unit)) =
      Host.createUpwards above := by
  rw [Host.createUpwards, if_pos hpart]

/-- Where something is missing above a directory, that is made first. -/
theorem createUpwards_of_missing {fault : Fault} (hpart : isBlank part = false)
    (hpath : w.files.resolve w.here (ofParts (part :: above).reverse) = .error fault)
    (hkind : fault.kind = .notFound) :
    (Host.createUpwards (part :: above) : Simulation (Except Fault Unit)) w =
      match (Host.createUpwards above : Simulation (Except Fault Unit)) w with
      | (.error fault, w') => (.error fault, w')
      | (.ok (), w') => ensureDirectory (ofParts (part :: above).reverse) w' := by
  rw [Host.createUpwards, if_neg (by simp [hpart]), bind_apply, makeDirectory_apply, hpath]
  dsimp only
  rw [if_pos hkind, bind_apply]
  rcases (Host.createUpwards above : Simulation (Except Fault Unit)) w with ⟨fault' | _, w'⟩
  · rfl
  · exact congrFun (makeDirectory_or_isDirectory (ofParts (part :: above).reverse)) w'

/-- Else it is made at once. -/
theorem createUpwards_of_reached (hpart : isBlank part = false)
    (hpath : ∀ fault, w.files.resolve w.here (ofParts (part :: above).reverse) = .error fault →
      fault.kind ≠ .notFound) :
    (Host.createUpwards (part :: above) : Simulation (Except Fault Unit)) w =
      ensureDirectory (ofParts (part :: above).reverse) w := by
  rw [Host.createUpwards, if_neg (by simp [hpart]), ← makeDirectory_or_isDirectory, bind_apply,
    bind_apply, makeDirectory_apply]
  cases hresolve : w.files.resolve w.here (ofParts (part :: above).reverse) with
  | error fault =>
    dsimp only
    rw [if_neg (hpath fault hresolve)]
  | ok target => cases target <;> rfl

/-! ### The attempts together -/

/-- Nothing is made but directories on the way. -/
theorem keeps_createUpwards (habove : above.reverse <+: split dir) :
    Keeps (World.Still (Footprint.way dir))
      (Host.createUpwards above : Simulation (Except Fault Unit)) := by
  induction above with
  | nil => exact .pure _
  | cons part above ih =>
    rw [List.reverse_cons] at habove
    have hrest := ih ((List.prefix_append _ _).trans habove)
    by_cases hpart : isBlank part = true
    · rw [createUpwards_blank hpart]
      exact hrest
    · rw [Bool.not_eq_true] at hpart
      -- the two attempts at this directory are the same step
      have hmake : Keeps (World.Still (Footprint.way dir))
          (Host.makeDirectory (ofParts (part :: above).reverse) : Simulation _) := by
        refine keeps_makeDirectory fun here => ⟨rfl, _, habove, ?_⟩
        rw [List.reverse_cons, place_ofParts habove hpart]
      rw [Host.createUpwards, if_neg (by simp [hpart])]
      refine hmake.bind fun made => ?_
      cases made with
      | ok _ => exact .pure _
      | error fault =>
        dsimp only
        split
        · refine hrest.bind fun created => ?_
          cases created with
          | error _ => exact .pure _
          | ok _ =>
            refine hmake.bind fun made => ?_
            cases made with
            | ok _ => exact .pure _
            | error _ => exact (keeps_isDirectory _).bind fun _ => .pure _
        · exact (keeps_isDirectory _).bind fun _ => .pure _

/-- What is ensured is there. -/
theorem follows_of_ensureDirectory (hadm : Admissible dir) (hfront : front ++ [part] <+: split dir)
    (hpart : isBlank part = false) (h : (ensureDirectory (ofParts (front ++ [part])) w).1 = .ok ()) :
    (ensureDirectory (ofParts (front ++ [part])) w).2.files.Follows (base w.here dir) (front ++ [part])
      (.present (arrive (base w.here dir) (front ++ [part])) .directory) := by
  have hresolve := FileTree.resolve_ofParts hadm hfront hpart w.files w.here
  rw [ensureDirectory] at h ⊢
  cases hpath : w.files.resolve w.here (ofParts (front ++ [part])) with
  | error fault => rw [hpath] at h; cases h
  | ok target =>
    have hfollows := FileTree.walk_eq_ok_iff.1 (hresolve.symm.trans hpath)
    have hloc := hfollows.location_eq
    match target with
    | .present loc (.file c) => rw [hpath] at h; cases h
    | .present loc .directory => exact hloc ▸ hfollows
    | .vacant loc => exact hloc ▸ hfollows.put_vacant

/-- What was made successfully is there. -/
theorem follows_of_createUpwards (hadm : Admissible dir) (habove : above.reverse <+: split dir)
    (h : ((Host.createUpwards above : Simulation (Except Fault Unit)) w).1 = .ok ()) :
    ((Host.createUpwards above : Simulation (Except Fault Unit)) w).2.files.Follows (base w.here dir)
      above.reverse (.present (arrive (base w.here dir) above.reverse) .directory) := by
  induction above generalizing w with
  | nil => exact .arrived _
  | cons part above ih =>
    rw [List.reverse_cons] at habove
    have hrest := (List.prefix_append _ _).trans habove
    by_cases hpart : isBlank part = true
    · -- a blank part leads no further
      rw [createUpwards_blank hpart] at h ⊢
      rw [List.reverse_cons, arrive_concat, ← FileTree.walk_eq_ok_iff, (ih hrest h).walk_append,
        FileTree.walk_of_passes (Or.inl hpart)]
      rfl
    · rw [Bool.not_eq_true] at hpart
      by_cases hmissing : ∃ fault, w.files.resolve w.here (ofParts (part :: above).reverse) =
          .error fault ∧ fault.kind = .notFound
      · obtain ⟨fault, hpath, hkind⟩ := hmissing
        rw [createUpwards_of_missing hpart hpath hkind] at h ⊢
        have hhere := (keeps_createUpwards hrest w).here_eq
        rcases hcreated : (Host.createUpwards above : Simulation (Except Fault Unit)) w with
          ⟨fault' | _, w'⟩
        · rw [hcreated] at h
          cases h
        · rw [hcreated] at h hhere
          rw [List.reverse_cons] at h ⊢
          rw [← hhere]
          exact follows_of_ensureDirectory hadm habove hpart h
      · rw [createUpwards_of_reached hpart fun fault hpath hkind => hmissing ⟨fault, hpath, hkind⟩]
          at h ⊢
        rw [List.reverse_cons] at h ⊢
        exact follows_of_ensureDirectory hadm habove hpart h

theorem reverse_reverse_isPrefix (parts : List String) : parts.reverse.reverse <+: parts := by
  simp

/-- Nothing is made but directories on the way. -/
theorem keeps_createDirectories (dir : String) :
    Keeps (World.Still (Footprint.way dir))
      (Host.createDirectories dir : Simulation (Except Fault Unit)) :=
  keeps_createUpwards (reverse_reverse_isPrefix _)

/-- Unless something is missing above it, the directory is made at once. -/
theorem createDirectories_of_reached (hdir : EndsInName dir)
    (hpath : ∀ fault, w.files.resolve w.here dir = .error fault → fault.kind ≠ .notFound) :
    (Host.createDirectories dir : Simulation (Except Fault Unit)) w = ensureDirectory dir w := by
  obtain ⟨front, part, hsplit, hpart⟩ := hdir
  have hwhole : ofParts (part :: front.reverse).reverse = dir := by
    rw [List.reverse_cons, List.reverse_reverse, ← hsplit, ofParts_split]
  rw [Host.createDirectories, hsplit, List.reverse_append, List.reverse_singleton,
    List.singleton_append, createUpwards_of_reached hpart (by rwa [hwhole]), hwhole]

/-- A directory that exists is found, and nothing is changed. -/
theorem createDirectories_of_directory {loc : Location} (hdir : EndsInName dir)
    (hpath : w.files.resolve w.here dir = .ok (.present loc .directory)) :
    (Host.createDirectories dir : Simulation (Except Fault Unit)) w = (.ok (), w) := by
  have hreached : ∀ fault, w.files.resolve w.here dir = .error fault → fault.kind ≠ .notFound := by
    intro fault hfault
    rw [hpath] at hfault
    cases hfault
  rw [createDirectories_of_reached hdir hreached, ensureDirectory, hpath]

/-- What was made successfully is there. -/
theorem resolve_of_createDirectories (hdir : EndsInName dir)
    (h : ((Host.createDirectories dir : Simulation (Except Fault Unit)) w).1 = .ok ()) :
    ((Host.createDirectories dir : Simulation (Except Fault Unit)) w).2.files.resolve w.here dir =
      .ok (.present (place w.here dir) .directory) := by
  by_cases hadm : Admissible dir
  · have hfollows := follows_of_createUpwards hadm (reverse_reverse_isPrefix (split dir)) h
    rw [List.reverse_reverse] at hfollows
    exact hfollows.resolve_eq hadm hdir.ne_empty
  · -- the system does not look at the path, so it is not made
    obtain ⟨fault, hfault, hkind⟩ := FileTree.resolve_of_not_admissible hadm w.files w.here
    have hreached : ∀ fault', w.files.resolve w.here dir = .error fault' →
        fault'.kind ≠ .notFound := by
      rintro fault' hfault'
      rw [hfault] at hfault'
      exact Except.error.inj hfault' ▸ hkind
    rw [createDirectories_of_reached hdir hreached, ensureDirectory, hfault] at h
    cases h

end Simulation

end ContentChecksum
