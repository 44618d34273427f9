import ContentChecksum.Proofs.Places

namespace ContentChecksum

open ContentChecksum.Path

/-!
# Trees that grow

A program that only makes what is missing, and only adds to the end of what is there, lets a tree grow.

* `Footprint` — what may be put where nothing was, and which files may become longer;
* `FileTree.Growth` — the trees that come of another by such changes, one after the other;
* `FileTree.Growth.find?_directory`, `find?_file`, `find?_of_fresh` — directories stay, the content of
  a file stays at its beginning, and only the footprint tells what is new;
* `FileTree.Growth.resolve_present` — so a path goes on leading to the directory or the file that it
  leads to, unless that file may become longer;
* `FileTree.Rooted` — a tree in which everything lies in a directory.  It stays one when it grows.
-/

/-- What a program may do to a tree. -/
structure Footprint where
  /-- What is put where nothing was. -/
  fresh : Location → Entry → Prop
  /-- Which files become longer. -/
  grown : Location → Prop

namespace Footprint

/-- All that one footprint allows is allowed by another. -/
structure Within (f g : Footprint) : Prop where
  fresh : ∀ {loc e}, f.fresh loc e → g.fresh loc e
  grown : ∀ {loc}, f.grown loc → g.grown loc

/-- What either of two footprints allows. -/
def both (f g : Footprint) : Footprint where
  fresh loc e := f.fresh loc e ∨ g.fresh loc e
  grown loc := f.grown loc ∨ g.grown loc

/-- The first of two footprints is within the two. -/
theorem within_both_left (f g : Footprint) : f.Within (f.both g) :=
  ⟨Or.inl, Or.inl⟩

/-- And so is the second. -/
theorem within_both_right (f g : Footprint) : g.Within (f.both g) :=
  ⟨Or.inr, Or.inr⟩

end Footprint

/-- What is read from an entry that is opened. -/
def Entry.source : Entry → Source
  | file content => .ofBytes content
  | directory => .ofFault .isADirectory

namespace FileTree

variable {t t' t'' : FileTree} {here loc other : Location} {parts : List String} {path : String}
  {e : Entry} {c : List UInt8} {f g : Footprint}

/-! ### One change -/

/-- What is missing is not the root. -/
theorem ne_nil_of_find?_none (h : t.find? loc = none) : loc ≠ [] := by
  rintro rfl
  rw [find?_root] at h
  cases h

/-- Nor is a file. -/
theorem ne_nil_of_find?_file (h : t.find? loc = some (.file c)) : loc ≠ [] := by
  rintro rfl
  rw [find?_root] at h
  cases h

/-- What is put at a location is found there and nowhere else. -/
theorem find?_put (t : FileTree) (e : Entry) (hne : loc ≠ []) (other : Location) :
    (t.put loc e).find? other = if other = loc then some e else t.find? other := by
  split
  · rename_i heq
    rw [heq, find?_put_self t e hne]
  · rename_i hother
    exact find?_put_of_ne t e hother

/-- A path leads to a vacant place. -/
theorem find?_of_resolve_vacant (h : t.resolve here path = .ok (.vacant loc)) :
    t.find? loc = none :=
  (follows_of_resolve h).find?_eq nofun

/-- A path leads to a file. -/
theorem find?_of_resolve_file (h : t.resolve here path = .ok (.present loc (.file c))) :
    t.find? loc = some (.file c) :=
  (follows_of_resolve h).find?_eq nofun

/-! ### Many changes -/

/-- The trees that come of a tree by putting something where nothing was, and by making files longer,
    as far as a footprint allows it. -/
inductive Growth (here : Location) (f : Footprint) (t : FileTree) : FileTree → Prop
  | refl : Growth here f t t
  | put {t' : FileTree} {path : String} {loc : Location} {e : Entry} (h : Growth here f t t')
      (hvacant : t'.resolve here path = .ok (.vacant loc)) (hfresh : f.fresh loc e) :
      Growth here f t (t'.put loc e)
  | extend {t' : FileTree} {path : String} {loc : Location} {c : List UInt8}
      (h : Growth here f t t') (hfile : t'.resolve here path = .ok (.present loc (.file c)))
      (hgrown : f.grown loc) (more : List UInt8) : Growth here f t (t'.put loc (.file (c ++ more)))

namespace Growth

/-- Growing goes on. -/
theorem trans (h : Growth here f t t') (h' : Growth here f t' t'') : Growth here f t t'' := by
  induction h' with
  | refl => exact h
  | put _ hvacant hfresh ih => exact .put ih hvacant hfresh
  | extend _ hfile hgrown more ih => exact .extend ih hfile hgrown more

/-- A wider footprint lets a tree grow as far. -/
theorem mono (hfg : f.Within g) (h : Growth here f t t') : Growth here g t t' := by
  induction h with
  | refl => exact .refl
  | put _ hvacant hfresh ih => exact .put ih hvacant (hfg.fresh hfresh)
  | extend _ hfile hgrown more ih => exact .extend ih hfile (hfg.grown hgrown) more

/-- Directories stay. -/
theorem find?_directory (h : Growth here f t t') (hloc : t.find? loc = some .directory) :
    t'.find? loc = some .directory := by
  induction h with
  | refl => exact hloc
  | put _ hvacant _ ih =>
    -- nothing was at the place, so it is not that of the directory
    have hnone := find?_of_resolve_vacant hvacant
    rw [find?_put _ _ (ne_nil_of_find?_none hnone), if_neg, ih]
    rintro rfl
    rw [hnone] at ih
    cases ih
  | extend _ hfile _ _ ih =>
    have hsome := find?_of_resolve_file hfile
    rw [find?_put _ _ (ne_nil_of_find?_file hsome), if_neg, ih]
    rintro rfl
    rw [hsome] at ih
    cases ih

/-- Files stay, with their content at their beginning.  Only those of the footprint get longer. -/
theorem find?_file (h : Growth here f t t') (hloc : t.find? loc = some (.file c)) :
    ∃ more, t'.find? loc = some (.file (c ++ more)) ∧ (f.grown loc ∨ more = []) := by
  induction h with
  | refl => exact ⟨[], by rw [List.append_nil, hloc], Or.inr rfl⟩
  | put _ hvacant _ ih =>
    obtain ⟨more, hfind, hmore⟩ := ih
    have hnone := find?_of_resolve_vacant hvacant
    refine ⟨more, ?_, hmore⟩
    rw [find?_put _ _ (ne_nil_of_find?_none hnone), if_neg, hfind]
    rintro rfl
    rw [hnone] at hfind
    cases hfind
  | @extend _ _ loc' _ _ hfile hgrown next ih =>
    obtain ⟨more, hfind, hmore⟩ := ih
    have hsome := find?_of_resolve_file hfile
    rw [find?_put _ _ (ne_nil_of_find?_file hsome)]
    by_cases heq : loc = loc'
    · -- the file itself has become longer, by what may have been added before and by `next`
      subst heq
      obtain rfl := Entry.file.inj (Option.some.inj (hsome.symm.trans hfind))
      exact ⟨more ++ next, by rw [if_pos rfl, List.append_assoc], Or.inl hgrown⟩
    · exact ⟨more, by rw [if_neg heq, hfind], hmore⟩

/-- The others stay as they are. -/
theorem find?_file_eq (h : Growth here f t t') (hloc : t.find? loc = some (.file c))
    (hgrown : ¬ f.grown loc) : t'.find? loc = some (.file c) := by
  obtain ⟨more, hfind, hg | rfl⟩ := h.find?_file hloc
  · exact absurd hg hgrown
  · rw [hfind, List.append_nil]

/-- What is new, the footprint allows. -/
theorem find?_of_fresh (h : Growth here f t t') (hnone : t.find? loc = none)
    (hsome : t'.find? loc = some e) : f.fresh loc e ∨ (f.grown loc ∧ ∃ c, e = .file c) := by
  induction h generalizing e with
  | refl =>
    rw [hnone] at hsome
    cases hsome
  | @put _ _ loc' _ _ hvacant hfresh ih =>
    rw [find?_put _ _ (ne_nil_of_find?_none (find?_of_resolve_vacant hvacant))] at hsome
    by_cases heq : loc = loc'
    · rw [if_pos heq] at hsome
      obtain rfl := Option.some.inj hsome
      exact Or.inl (heq ▸ hfresh)
    · rw [if_neg heq] at hsome
      exact ih hsome
  | @extend _ _ loc' c _ hfile hgrown more ih =>
    rw [find?_put _ _ (ne_nil_of_find?_file (find?_of_resolve_file hfile))] at hsome
    by_cases heq : loc = loc'
    · rw [if_pos heq] at hsome
      exact Or.inr ⟨heq ▸ hgrown, c ++ more, (Option.some.inj hsome).symm⟩
    · rw [if_neg heq] at hsome
      exact ih hsome

/-- What the footprint has nothing to do with is the same as before. -/
theorem find?_eq (h : Growth here f t t') (hfresh : ∀ e, ¬ f.fresh loc e) (hgrown : ¬ f.grown loc) :
    t'.find? loc = t.find? loc := by
  cases hbefore : t.find? loc with
  | none =>
    cases hafter : t'.find? loc with
    | none => rfl
    | some e =>
      obtain hf | ⟨hg, -⟩ := h.find?_of_fresh hbefore hafter
      · exact absurd hf (hfresh e)
      · exact absurd hg hgrown
  | some e =>
    cases e with
    | directory => exact h.find?_directory hbefore
    | file c => exact h.find?_file_eq hbefore hgrown

end Growth

/-! ### Paths in another tree -/

/-- Where the same directories are on the way and the same is at its end, parts lead to it. -/
theorem Follows.transfer (h : t.Follows loc parts (.present other e))
    (hway : ∀ front, front <+: parts → t.find? (arrive loc front) = some .directory →
      t'.find? (arrive loc front) = some .directory)
    (hend : ∀ c, e = .file c → t'.find? other = some e) :
    t'.Follows loc parts (.present other e) := by
  generalize htarget : Target.present other e = target at h
  induction h with
  | arrived => cases htarget; exact .arrived _
  | @pass loc part rest target hpass _ ih =>
    have hpass' : t'.Passes loc part :=
      hpass.imp id (Or.imp id (And.imp id (hway [part] (List.prefix_append [part] rest))))
    refine .pass hpass' (ih (fun front hfront => ?_) htarget)
    exact hway (part :: front) ((List.prefix_cons_inj _).2 hfront)
  | file hname _ =>
    cases htarget
    exact .file hname (hend _ rfl)
  | vacant => cases htarget

/-- A path goes on leading to a directory, or to a file that does not become longer. -/
theorem Growth.resolve_present (h : Growth here f t t')
    (hpath : t.resolve here path = .ok (.present loc e)) (hend : e = .directory ∨ ¬ f.grown loc) :
    t'.resolve here path = .ok (.present loc e) := by
  have hadm := admissible_of_resolve hpath
  have hne : path ≠ "" := by
    rintro rfl
    cases hpath
  refine ((follows_of_resolve hpath).transfer (fun _ _ => h.find?_directory) ?_).resolve_eq hadm hne
  rintro c rfl
  obtain hdir | hstays := hend
  · cases hdir
  · exact h.find?_file_eq (find?_of_resolve_file hpath) hstays

/-- Whatever is at the end of a path can be opened, a directory too. -/
theorem openSource_of_present (h : t.resolve here path = .ok (.present loc e)) :
    t.openSource here path = .ok e.source := by
  rw [openSource, h]
  cases e <;> rfl

/-- And nothing else can. -/
theorem exists_present_of_openSource {s : Source} (h : t.openSource here path = .ok s) :
    ∃ loc e, t.resolve here path = .ok (.present loc e) ∧ e.source = s := by
  rw [openSource] at h
  split at h
  · cases h
  · rename_i loc c hpath
    exact ⟨loc, .file c, hpath, Except.ok.inj h⟩
  · rename_i loc hpath
    exact ⟨loc, .directory, hpath, Except.ok.inj h⟩
  · cases h

/-- What is read from a file stays the same, unless it becomes longer. -/
theorem Growth.openSource_ok {s : Source} (h : Growth here f t t')
    (hopen : t.openSource here path = .ok s) (hstays : ¬ f.grown (place here path)) :
    t'.openSource here path = .ok s := by
  obtain ⟨loc, e, hpath, rfl⟩ := exists_present_of_openSource hopen
  have hloc : loc = place here path := location_of_resolve hpath
  exact openSource_of_present (h.resolve_present hpath (Or.inr (hloc ▸ hstays)))

/-! ### Names in a directory -/

/-- An empty part behind others asks for more than a file. -/
theorem Follows.of_concat_empty (h : t.Follows here (parts ++ [""]) (.present loc .directory)) :
    t.Follows here parts (.present loc .directory) := by
  induction parts generalizing here with
  | nil =>
    cases h with
    | pass _ hrest => exact hrest
  | cons part parts ih =>
    rw [List.cons_append] at h
    generalize parts ++ [""] = rest at h ih
    cases h with
    | pass hpass hrest => exact .pass hpass (ih hrest)

/-- A path that ends in a name below a directory leads to what the directory has of that name. -/
theorem resolve_join {dir name : String} (hname : IsName name) (hshort : name.utf8ByteSize ≤ nameLimit)
    (hdir : t.resolve here dir = .ok (.present loc .directory)) (hadm : Admissible (join dir name)) :
    t.resolve here (join dir name) =
      match t.find? (place here (join dir name)) with
      | some e => .ok (.present (place here (join dir name)) e)
      | none => .ok (.vacant (place here (join dir name))) := by
  -- what `dir` has besides the parts in front of the name is at most an empty part at its end
  obtain ⟨front, hjoin, hsplit⟩ := exists_split_join dir hname
  have hfollows := follows_of_resolve hdir
  have hloc : loc = place here dir := location_of_resolve hdir
  have hfront : t.Follows (base here dir) front (.present loc .directory) := by
    obtain heq | heq := hsplit
    · rwa [heq] at hfollows
    · rw [heq] at hfollows
      exact hfollows.of_concat_empty
  rw [resolve_of_admissible hadm (endsInName_join dir hname).ne_empty, hjoin,
    base_join here dir hname, hfront.walk_append, hloc, place_join here dir hname]
  exact Names.walk_eq ⟨by simp [hname.not_blank], hname.not_up, hshort⟩ t _

/-- What is put at the vacant end of such a path is found there, and the directory stays. -/
theorem resolve_put_join {dir name : String} {loc' : Location} (hname : IsName name)
    (hshort : name.utf8ByteSize ≤ nameLimit)
    (hdir : t.resolve here dir = .ok (.present loc .directory))
    (hvacant : t.resolve here (join dir name) = .ok (.vacant loc')) (e : Entry) :
    (t.put loc' e).resolve here dir = .ok (.present loc .directory) ∧
      (t.put loc' e).resolve here (join dir name) = .ok (.present loc' e) := by
  have hgrowth : Growth here ⟨fun _ _ => True, fun _ => False⟩ t (t.put loc' e) :=
    .put .refl hvacant trivial
  have hdir' := hgrowth.resolve_present hdir (Or.inl rfl)
  have hloc : loc' = place here (join dir name) := location_of_resolve hvacant
  refine ⟨hdir', ?_⟩
  rw [resolve_join hname hshort hdir' (admissible_of_resolve hvacant), ← hloc,
    find?_put_self _ _ (ne_nil_of_find?_none (find?_of_resolve_vacant hvacant))]

/-! ### Trees in which everything lies in a directory -/

/-- Everything lies in a directory, and there is a directory to follow paths from. -/
structure Rooted (here : Location) (t : FileTree) : Prop where
  here_directory : t.find? here = some .directory
  parent_directory : ∀ {loc e}, t.find? loc = some e → t.find? loc.dropLast = some .directory

/-- What is present is in the tree, and what is vacant lies in a directory. -/
def Target.LiesIn (t : FileTree) : Target → Prop
  | present loc e => t.find? loc = some e
  | vacant loc => t.find? loc.dropLast = some .directory

namespace Rooted

/-- A path begins in a directory. -/
theorem base_directory (h : Rooted here t) (path : String) :
    t.find? (base here path) = some .directory := by
  rw [base]
  split
  · exact find?_root t
  · exact h.here_directory

/-- All that something lies in are directories. -/
theorem find?_of_append (h : Rooted here t) {back : List String} (hne : back ≠ [])
    (hfind : t.find? (loc ++ back) = some e) : t.find? loc = some .directory := by
  -- upwards, from one directory to the next, for as long as there is something in between
  induction hn : back.length generalizing back e with
  | zero => exact absurd (List.length_eq_zero_iff.1 hn) hne
  | succ n ih =>
    have hparent := h.parent_directory hfind
    rw [List.dropLast_append_of_ne_nil hne] at hparent
    by_cases hnil : back.dropLast = []
    · rwa [hnil, List.append_nil] at hparent
    · exact ih hnil hparent (by rw [List.length_dropLast, hn]; rfl)

/-- Whoever gets past a part in a directory is in a directory again. -/
theorem find?_of_passes (h : Rooted here t) (hloc : t.find? loc = some .directory) {part : String}
    (hpass : t.Passes loc part) : t.find? (enter loc part) = some .directory := by
  by_cases hblank : isBlank part = true
  · rwa [enter, if_pos hblank]
  · obtain rfl | ⟨-, hfind⟩ := hpass.resolve_left hblank
    · rw [enter, if_neg hblank, if_pos rfl]
      exact h.parent_directory hloc
    · exact hfind

/-- Parts that are followed from a directory lead to what is in the tree, or to a vacant place in
    a directory. -/
theorem liesIn_of_follows (h : Rooted here t) {target : Target}
    (hloc : t.find? loc = some .directory) (hfollows : t.Follows loc parts target) :
    target.LiesIn t := by
  induction hfollows with
  | arrived _ => exact hloc
  | pass hpass _ ih => exact ih (h.find?_of_passes hloc hpass)
  | file _ hfind => exact hfind
  | vacant hname _ _ => rwa [Target.LiesIn, hname.enter_eq, List.dropLast_concat]

/-- What a path leads to is found at its location. -/
theorem find?_of_resolve_present (h : Rooted here t)
    (hpath : t.resolve here path = .ok (.present loc e)) : t.find? loc = some e :=
  h.liesIn_of_follows (h.base_directory path) (follows_of_resolve hpath)

end Rooted

end FileTree

end ContentChecksum
