import ContentChecksum.Files.Tree

namespace ContentChecksum

/-!
# Where paths lead

A path is followed part by part, and as no entry of a tree points anywhere else, the tree has no say in
where it leads, only in whether one gets there:

* `Path.place` — the location that a path names: every part of it is entered, a dot stays, two dots
  go up;
* `FileTree.location_of_resolve` — whatever a path leads to in a tree, it lies at that place;
* `FileTree.Follows` — parts that lead to a target, told by how one gets past the first of them, or
  ends there.  A tree follows parts just so (`FileTree.walk_eq_ok_iff`), and what is known about
  where they lead is proved by induction on it;
* `Path.Admissible` — a path that a system will look at: it is not too long and has no null in it.
  Asked for such a path or for the first parts of it, a tree only has to follow them
  (`FileTree.resolve_ofParts`).
-/

namespace Path

/-! ### The parts of a path -/

/-- The parts of a path are what stands between its slashes. -/
theorem split_eq (path : String) : split path = (path.toList.splitOn '/').map String.ofList := by
  rw [split]
  congr 1
  induction path.toList with
  | nil => rfl
  | cons c cs ih =>
    rw [List.foldr_cons, ih, List.splitOn_cons_eq_if_modifyHead]
    by_cases hc : c = '/'
    · simp [hc]
    · -- no slash: the character goes to the front of the first part, and there is one
      rw [if_neg hc, if_neg (by simpa using hc)]
      obtain ⟨part, parts, hparts⟩ := List.exists_cons_of_ne_nil (List.splitOn_ne_nil '/' cs)
      rw [hparts]
      rfl

/-- Putting parts together is writing slashes between them. -/
theorem toList_ofParts (parts : List String) :
    (ofParts parts).toList = ['/'].intercalate (parts.map String.toList) := by
  rw [ofParts, String.toList_intercalate]
  rfl

/-- The parts of a path put together are the path. -/
theorem ofParts_split (path : String) : ofParts (split path) = path := by
  rw [← String.toList_inj, toList_ofParts, split_eq, List.map_map]
  have hid : String.toList ∘ String.ofList = id := funext fun _ => String.toList_ofList
  rw [hid, List.map_id, List.intercalate_splitOn]

/-- Parts without slashes are found again. -/
theorem split_ofParts {parts : List String} (hne : parts ≠ [])
    (hslash : ∀ part ∈ parts, '/' ∉ part.toList) : split (ofParts parts) = parts := by
  rw [split_eq, toList_ofParts, List.splitOn_intercalate]
  · rw [List.map_map]
    have hid : String.ofList ∘ String.toList = id := funext fun _ => String.ofList_toList
    rw [hid, List.map_id]
  · simpa using hslash
  · simpa using hne

/-- There are no slashes in the parts of a path. -/
theorem slash_not_mem_of_mem_split {path part : String} (h : part ∈ split path) :
    '/' ∉ part.toList := by
  have hsplit : ∀ cs : List Char, ∀ piece ∈ cs.splitOn '/', '/' ∉ piece := by
    intro cs
    induction cs with
    | nil => simp
    | cons c cs ih =>
      rw [List.splitOn_cons_eq_if_modifyHead]
      by_cases hc : c = '/'
      · simpa [hc] using ih
      · rw [if_neg (by simpa using hc)]
        obtain ⟨piece, pieces, hpieces⟩ := List.exists_cons_of_ne_nil (List.splitOn_ne_nil '/' cs)
        rw [hpieces, List.forall_mem_cons] at ih
        rw [hpieces, List.modifyHead_cons, List.forall_mem_cons, List.mem_cons, not_or]
        exact ⟨⟨Ne.symm hc, ih.1⟩, ih.2⟩
  rw [split_eq, List.mem_map] at h
  obtain ⟨piece, hpiece, rfl⟩ := h
  rw [String.toList_ofList]
  exact hsplit _ piece hpiece

/-- The first parts of a path are the parts of another. -/
theorem split_ofParts_of_append {path : String} {front : List String} {part : String}
    (h : front ++ [part] <+: split path) : split (ofParts (front ++ [part])) = front ++ [part] :=
  split_ofParts (by simp) fun _ hp => slash_not_mem_of_mem_split (h.subset hp)

/-- The first parts of a path, put together, are the beginning of the path. -/
theorem exists_eq_ofParts_append {path : String} {front : List String} (h : front <+: split path)
    (hne : front ≠ []) : ∃ rest, path = ofParts front ++ rest := by
  obtain ⟨back, hback⟩ := h
  -- more parts only add to what stands behind; this is by induction over those in front
  have happend : ∀ pieces : List (List Char), pieces ≠ [] → ∀ more : List (List Char),
      ['/'].intercalate pieces <+: ['/'].intercalate (pieces ++ more) := by
    intro pieces
    induction pieces with
    | nil => exact fun h => absurd rfl h
    | cons piece pieces ih =>
      intro _ more
      by_cases hp : pieces = []
      · subst hp
        cases more with
        | nil => exact List.prefix_refl _
        | cons next more =>
          rw [List.singleton_append, List.intercalate_cons_cons, List.intercalate_singleton,
            List.append_assoc]
          exact List.prefix_append _ _
      · rw [List.cons_append, List.intercalate_cons_of_ne_nil hp,
          List.intercalate_cons_of_ne_nil (by simp [hp]), List.append_assoc, List.append_assoc,
          List.prefix_append_right_inj, List.prefix_append_right_inj]
        exact ih hp more
  obtain ⟨rest, hrest⟩ := happend (front.map String.toList) (by simpa using hne)
    (back.map String.toList)
  refine ⟨String.ofList rest, ?_⟩
  rw [← String.toList_inj, String.toList_append, String.toList_ofList, toList_ofParts, hrest,
    ← List.map_append, hback, ← toList_ofParts, ofParts_split]

/-! ### Where a path begins -/

/-- Where a path is followed from. -/
def base (here : Location) (path : String) : Location :=
  if isAbsolute path then [] else here

/-- A path of one part does not start at the root. -/
theorem isAbsolute_ofParts_singleton {part : String} (h : '/' ∉ part.toList) :
    isAbsolute (ofParts [part]) = false := by
  rw [isAbsolute, toList_ofParts]
  simp only [List.map_cons, List.map_nil, List.intercalate_singleton, decide_eq_false_iff_not]
  exact fun hhead => h (List.mem_of_mem_head? hhead)

/-- One of several parts does if there is nothing in front of its first slash. -/
theorem isAbsolute_ofParts_cons {part next : String} (h : '/' ∉ part.toList)
    (parts : List String) : isAbsolute (ofParts (part :: next :: parts)) = decide (part = "") := by
  rw [isAbsolute, toList_ofParts, List.map_cons, List.map_cons, List.intercalate_cons_cons]
  by_cases hp : part = ""
  · subst hp
    simp
  · obtain ⟨c, cs, hc⟩ := List.exists_cons_of_ne_nil (mt String.toList_eq_nil_iff.1 hp)
    rw [hc, List.mem_cons, not_or] at h
    simp [hc, hp, Ne.symm h.1]

/-- The first parts of a path begin where the path does, unless they are the empty part in front of
    its first slash. -/
theorem base_ofParts {path : String} {front : List String} {part : String}
    (h : front ++ [part] <+: split path) (hpart : isBlank part = false) (here : Location) :
    base here (ofParts (front ++ [part])) = base here path := by
  obtain ⟨back, hback⟩ := h
  have hslash : ∀ p ∈ front ++ [part] ++ back, '/' ∉ p.toList := fun p hp =>
    slash_not_mem_of_mem_split (hback ▸ hp)
  rw [base, base, ← ofParts_split path, ← hback]
  -- whether a path is absolute is told by whether its first part is empty and others are behind it
  match front, back with
  | [], [] => rfl
  | [], next :: back =>
    have hne : part ≠ "" := by
      rintro rfl
      simp [isBlank] at hpart
    rw [List.nil_append, isAbsolute_ofParts_singleton (hslash part (by simp)),
      List.singleton_append, isAbsolute_ofParts_cons (hslash part (by simp))]
    simp [hne]
  | [first], back =>
    rw [List.singleton_append, isAbsolute_ofParts_cons (hslash first (by simp)),
      List.cons_append, List.singleton_append, isAbsolute_ofParts_cons (hslash first (by simp))]
  | first :: second :: front, back =>
    rw [List.cons_append, List.cons_append, isAbsolute_ofParts_cons (hslash first (by simp)),
      List.cons_append, List.cons_append, isAbsolute_ofParts_cons (hslash first (by simp))]

/-! ### Where a path leads -/

/-- The location behind one more part of a path. -/
def enter (loc : Location) (part : String) : Location :=
  if isBlank part then loc else if part = ".." then loc.dropLast else loc ++ [part]

/-- The location that the parts of a path name, from another one. -/
def arrive (loc : Location) (parts : List String) : Location :=
  parts.foldl enter loc

/-- The location that a path names. -/
def place (here : Location) (path : String) : Location :=
  arrive (base here path) (split path)

/-- The first parts of a path lead to where they lead on the path. -/
theorem place_ofParts {path : String} {front : List String} {part : String}
    (h : front ++ [part] <+: split path) (hpart : isBlank part = false) (here : Location) :
    place here (ofParts (front ++ [part])) = arrive (base here path) (front ++ [part]) := by
  rw [place, split_ofParts_of_append h, base_ofParts h hpart]

/-- Parts are followed one after the other. -/
theorem arrive_append (loc : Location) (front back : List String) :
    arrive loc (front ++ back) = arrive (arrive loc front) back :=
  List.foldl_append

/-- The last part is followed last. -/
theorem arrive_concat (loc : Location) (front : List String) (part : String) :
    arrive loc (front ++ [part]) = enter (arrive loc front) part := by
  rw [arrive_append]
  rfl

/-- Empty parts lead nowhere else. -/
theorem arrive_of_all_empty {parts : List String} (h : ∀ part ∈ parts, part = "") (loc : Location) :
    arrive loc parts = loc := by
  induction parts with
  | nil => rfl
  | cons part parts ih =>
    rw [List.forall_mem_cons] at h
    rw [h.1]
    exact ih h.2

/-! ### Names below a path -/

/-- A part that names an entry of the directory it is looked up in. -/
structure IsName (name : String) : Prop where
  slash_not_mem : '/' ∉ name.toList
  not_blank : isBlank name = false
  not_up : name ≠ ".."

/-- A name leads one step down. -/
theorem IsName.enter_eq {name : String} (h : IsName name) (loc : Location) :
    enter loc name = loc ++ [name] := by
  rw [enter, if_neg (by simp [h.not_blank]), if_neg h.not_up]

/-- There is no slash in front of a name that stands alone. -/
theorem join_empty (name : String) : join "" name = name := by
  simp [join]

/-- A name is one more part of the path it is joined to.  What is lost of the path is no more than the
    empty part behind its last slash. -/
theorem exists_split_join (dir : String) {name : String} (hname : IsName name) :
    ∃ front, split (join dir name) = front ++ [name] ∧
      (split dir = front ∨ split dir = front ++ [""]) := by
  have hself : name.toList.splitOn '/' = [name.toList] :=
    List.splitOn_eq_singleton hname.slash_not_mem
  have hbehind : ∀ (path : String) (front : List Char),
      path.toList = front ++ '/' :: name.toList →
      split path = split (String.ofList front) ++ [name] := by
    intro path front hpath
    rw [split_eq, split_eq, String.toList_ofList, hpath, List.splitOn_append_cons_self, hself,
      List.map_append, List.map_singleton, String.ofList_toList]
  by_cases hempty : dir = ""
  · -- the name is all there is
    subst hempty
    refine ⟨[], ?_, Or.inr rfl⟩
    rw [join_empty, split_eq, hself, List.map_singleton, String.ofList_toList, List.nil_append]
  · rw [join]
    have hne : dir.toList.isEmpty = false := by simpa using hempty
    by_cases hslash : dir.toList.getLast? = some '/'
    · -- the slash between the two is there already
      obtain ⟨front, hfront⟩ := List.getLast?_eq_some_iff.1 hslash
      refine ⟨split (String.ofList front), ?_, Or.inr ?_⟩
      · rw [if_pos (Or.inr hslash)]
        exact hbehind _ _ (by rw [String.toList_append, hfront, List.append_assoc]; rfl)
      · rw [split_eq, hfront, List.splitOn_append_cons_self, split_eq, String.toList_ofList]
        simp
    · refine ⟨split dir, ?_, Or.inl rfl⟩
      rw [if_neg (by simp [hne, hslash]), hbehind _ dir.toList, String.ofList_toList]
      rw [String.toList_append, String.toList_append, List.append_assoc]
      rfl

/-- What is joined to a path does not change where the path begins. -/
theorem base_join (here : Location) (dir : String) {name : String} (hname : IsName name) :
    base here (join dir name) = base here dir := by
  have habsolute : isAbsolute (join dir name) = isAbsolute dir := by
    by_cases hempty : dir = ""
    · subst hempty
      rw [join_empty]
      have hhead : name.toList.head? ≠ some '/' := fun h =>
        hname.slash_not_mem (List.mem_of_mem_head? h)
      rw [isAbsolute, isAbsolute, decide_eq_false hhead]
      rfl
    · obtain ⟨c, cs, hc⟩ := List.exists_cons_of_ne_nil (mt String.toList_eq_nil_iff.1 hempty)
      rw [join]
      split <;> simp [isAbsolute, hc]
  rw [base, base, habsolute]

/-- A path whose last part names something. -/
def EndsInName (path : String) : Prop :=
  ∃ front part, split path = front ++ [part] ∧ isBlank part = false

/-- A path that a name is joined to ends in it. -/
theorem endsInName_join (dir : String) {name : String} (hname : IsName name) :
    EndsInName (join dir name) := by
  obtain ⟨front, hjoin, -⟩ := exists_split_join dir hname
  exact ⟨front, name, hjoin, hname.not_blank⟩

/-- There is no slash at its end. -/
theorem EndsInName.getLast?_ne {path : String} (h : EndsInName path) :
    (split path).getLast? ≠ some "" := by
  obtain ⟨front, part, hsplit, hpart⟩ := h
  rw [hsplit, List.getLast?_concat]
  intro hlast
  rw [Option.some.inj hlast] at hpart
  exact absurd hpart (by decide)

/-- It is not the empty path. -/
theorem EndsInName.ne_empty {path : String} (h : EndsInName path) : path ≠ "" := by
  rintro rfl
  exact h.getLast?_ne rfl

/-- A name that is joined to a path is looked up in the directory the path leads to. -/
theorem parent_join {dir name : String} (hdir : EndsInName dir) (hname : IsName name) :
    parent (join dir name) = dir := by
  obtain ⟨front, hjoin, hfront | hfront⟩ := exists_split_join dir hname
  · have hne : front ≠ [""] := by
      rintro rfl
      exact hdir.getLast?_ne (congrArg List.getLast? hfront)
    rw [parent, hjoin, List.dropLast_concat]
    split
    · exact absurd rfl hne
    · rw [← hfront, ofParts_split]
  · -- nothing is behind the last slash of such a path, as there is a name there
    exact absurd (by rw [hfront, List.getLast?_concat]) hdir.getLast?_ne

/-- A name is looked up at the end of the path it is joined to. -/
theorem place_join (here : Location) (dir : String) {name : String} (hname : IsName name) :
    place here (join dir name) = place here dir ++ [name] := by
  obtain ⟨front, hjoin, hdir | hdir⟩ := exists_split_join dir hname
  · rw [place, base_join here dir hname, hjoin, arrive_concat, hname.enter_eq, place, hdir]
  · rw [place, base_join here dir hname, hjoin, arrive_concat, hname.enter_eq, place, hdir,
      arrive_concat]
    rfl

/-! ### Paths that are looked at -/

/-- A path is not looked at if it has a null in it or is too long. -/
structure Admissible (path : String) : Prop where
  no_null : path.toList.any (·.toNat = 0) = false
  size_le : path.utf8ByteSize ≤ FileTree.pathLimit

/-- A system that looks at a path would look at any beginning of it. -/
theorem Admissible.of_append {front rest : String} (h : Admissible (front ++ rest)) :
    Admissible front where
  no_null := by
    have hnull := h.no_null
    rw [String.toList_append, List.any_append, Bool.or_eq_false_iff] at hnull
    exact hnull.1
  size_le := by
    have hsize := h.size_le
    rw [String.utf8ByteSize_append] at hsize
    omega

/-- Parts that lead no higher than they began. -/
def Plain (path : String) : Prop :=
  ".." ∉ split path

end Path

namespace FileTree

open ContentChecksum.Path

/-! ### Following parts -/

/-- The location of what a path leads to. -/
def Target.location : Target → Location
  | present loc _ => loc
  | vacant loc => loc

/-- What is present. -/
def Target.entry? : Target → Option Entry
  | present _ e => some e
  | vacant _ => none

variable {t : FileTree} {here loc : Location} {parts rest front back : List String} {target : Target}
  {part path : String} {e : Entry} {c : List UInt8}

/-- A part that one gets past: it names nothing, leads up, or names a directory. -/
def Passes (t : FileTree) (loc : Location) (part : String) : Prop :=
  isBlank part = true ∨ part = ".." ∨
    (part.utf8ByteSize ≤ nameLimit ∧ t.find? (enter loc part) = some .directory)

/-- A part that names an entry, by a name that is not too long. -/
structure Names (part : String) : Prop where
  not_blank : ¬ isBlank part = true
  not_up : part ≠ ".."
  short : part.utf8ByteSize ≤ nameLimit

/-- A part that names an entry leads one step down. -/
theorem Names.enter_eq (h : Names part) (loc : Location) : enter loc part = loc ++ [part] := by
  rw [enter, if_neg h.not_blank, if_neg h.not_up]

/-- Parts that lead to a target, told by how one gets past the first of them, or ends there. -/
inductive Follows (t : FileTree) : Location → List String → Target → Prop
  | arrived (loc : Location) : Follows t loc [] (.present loc .directory)
  | pass {loc : Location} {part : String} {rest : List String} {target : Target}
      (hpass : t.Passes loc part) (h : Follows t (enter loc part) rest target) :
      Follows t loc (part :: rest) target
  | file {loc : Location} {part : String} {c : List UInt8} (hname : Names part)
      (hfind : t.find? (enter loc part) = some (.file c)) :
      Follows t loc [part] (.present (enter loc part) (.file c))
  | vacant {loc : Location} {part : String} {rest : List String} (hname : Names part)
      (hfind : t.find? (enter loc part) = none) (hrest : ∀ next ∈ rest, next = "") :
      Follows t loc (part :: rest) (.vacant (enter loc part))

/-- Behind a part that one gets past, the way goes on where it leads. -/
theorem walk_of_passes (h : t.Passes loc part) (rest : List String) :
    t.walk loc (part :: rest) = t.walk (enter loc part) rest := by
  rw [walk]
  by_cases hblank : isBlank part = true
  · rw [enter, if_pos hblank, if_pos hblank]
  · by_cases hup : part = ".."
    · rw [enter, if_neg hblank, if_neg hblank, if_pos hup, if_pos hup]
    · obtain ⟨hshort, hfind⟩ := (h.resolve_left hblank).resolve_left hup
      have henter : enter loc part = loc ++ [part] := Names.enter_eq ⟨hblank, hup, hshort⟩ loc
      rw [if_neg hblank, if_neg hup, if_neg (Nat.not_lt.2 hshort), ← henter, hfind]

/-- **Following parts.** A tree follows parts to a target exactly if they lead to it. -/
theorem walk_eq_ok_iff : t.walk loc parts = .ok target ↔ t.Follows loc parts target := by
  constructor
  · intro h
    fun_induction walk t loc parts with
    | case1 loc => cases h; exact .arrived loc
    | case2 loc part rest hblank ih =>
      have hpass : t.Passes loc part := Or.inl hblank
      have henter : enter loc part = loc := if_pos hblank
      exact .pass hpass (by rw [henter]; exact ih h)
    | case3 loc rest hblank ih =>
      have hpass : t.Passes loc ".." := Or.inr (Or.inl rfl)
      have henter : enter loc ".." = loc.dropLast := by rw [enter, if_neg hblank, if_pos rfl]
      exact .pass hpass (by rw [henter]; exact ih h)
    | case5 loc part rest hblank hup hlong hfind ih =>
      have henter := Names.enter_eq ⟨hblank, hup, Nat.not_lt.1 hlong⟩ loc
      rw [← henter] at h hfind ih
      exact .pass (Or.inr (Or.inr ⟨Nat.not_lt.1 hlong, hfind⟩)) (ih h)
    | case6 loc part hblank hup hlong c hfind =>
      have hname : Names part := ⟨hblank, hup, Nat.not_lt.1 hlong⟩
      rw [← hname.enter_eq] at h hfind
      cases h
      exact .file hname hfind
    | case8 loc part rest hblank hup hlong hfind hrest =>
      have hname : Names part := ⟨hblank, hup, Nat.not_lt.1 hlong⟩
      rw [← hname.enter_eq] at h hfind
      cases h
      exact .vacant hname hfind fun next hnext => by simpa using List.all_eq_true.1 hrest next hnext
    -- a name that is too long, a file on the way, and something missing on the way
    | case4 | case7 | case9 => cases h
  · intro h
    induction h with
    | arrived loc => rw [walk]
    | pass hpass _ ih => rw [walk_of_passes hpass, ih]
    | file hname hfind =>
      rw [hname.enter_eq] at hfind ⊢
      rw [walk, if_neg hname.not_blank, if_neg hname.not_up, if_neg (Nat.not_lt.2 hname.short), hfind]
      exact if_pos rfl
    | vacant hname hfind hrest =>
      rw [hname.enter_eq] at hfind ⊢
      rw [walk, if_neg hname.not_blank, if_neg hname.not_up, if_neg (Nat.not_lt.2 hname.short), hfind]
      exact if_pos (by simpa using hrest)

/-- Empty parts are passed over. -/
theorem follows_of_all_empty (h : ∀ next ∈ rest, next = "") (t : FileTree) (loc : Location) :
    t.Follows loc rest (.present loc .directory) := by
  induction rest with
  | nil => exact .arrived loc
  | cons next rest ih =>
    rw [List.forall_mem_cons] at h
    rw [h.1]
    exact .pass (Or.inl (by decide)) (ih h.2)

/-- Whatever is found, it lies where the parts lead. -/
theorem Follows.location_eq (h : t.Follows loc parts target) :
    target.location = arrive loc parts := by
  induction h with
  | arrived _ => rfl
  | pass _ _ ih => exact ih
  | file _ _ => rfl
  | vacant _ _ hrest => exact (arrive_of_all_empty hrest _).symm

/-- Unless it is a directory, it has been found in the tree. -/
theorem Follows.find?_eq (h : t.Follows loc parts target) (hkind : target.entry? ≠ some .directory) :
    t.find? target.location = target.entry? := by
  induction h with
  | arrived _ => exact absurd rfl hkind
  | pass _ _ ih => exact ih hkind
  | file _ hfind | vacant _ hfind _ => exact hfind

/-- From a directory the way goes on. -/
theorem Follows.walk_append (h : t.Follows here front (.present loc .directory))
    (back : List String) : t.walk here (front ++ back) = t.walk loc back := by
  generalize htarget : Target.present loc .directory = target at h
  induction h with
  | arrived => cases htarget; rfl
  | pass hpass _ ih => rw [List.cons_append, walk_of_passes hpass, ih htarget]
  | file | vacant => cases htarget

/-- The way to what lies further on leads through directories. -/
theorem Follows.of_append (hpart : isBlank part = false) (hmem : part ∈ back)
    (h : t.Follows loc (front ++ back) target) :
    t.Follows loc front (.present (arrive loc front) .directory) := by
  induction front generalizing loc with
  | nil => exact .arrived loc
  | cons first front ih =>
    have hlater : part ∈ front ++ back := List.mem_append_right front hmem
    rw [List.cons_append] at h
    generalize front ++ back = rest at h hlater ih
    cases h with
    | pass hpass hrest => exact .pass hpass (ih hrest)
    | file => exact nomatch hlater
    | vacant _ _ hrest =>
      -- behind a vacant place there are empty parts only
      rw [hrest part hlater] at hpart
      exact absurd hpart (by decide)

/-- Looking up a name in a directory. -/
theorem Names.walk_eq (h : Names part) (t : FileTree) (loc : Location) :
    t.walk loc [part] =
      match t.find? (loc ++ [part]) with
      | some e => .ok (.present (loc ++ [part]) e)
      | none => .ok (.vacant (loc ++ [part])) := by
  rw [← h.enter_eq]
  cases hfind : t.find? (enter loc part) with
  | none => exact walk_eq_ok_iff.2 (.vacant h hfind nofun)
  | some e =>
    cases e with
    | file c => exact walk_eq_ok_iff.2 (.file h hfind)
    | directory => exact walk_eq_ok_iff.2 (.pass (Or.inr (Or.inr ⟨h.short, hfind⟩)) (.arrived _))

/-! ### Following paths -/

/-- A path that the system looks at is followed part by part. -/
theorem resolve_of_admissible (h : Admissible path) (hne : path ≠ "") (t : FileTree)
    (here : Location) : t.resolve here path = t.walk (base here path) (split path) := by
  rw [resolve, if_neg (by simp [h.no_null]), if_neg hne, if_neg (Nat.not_lt.2 h.size_le), base]

/-- The first parts of a path are followed as parts of the path. -/
theorem resolve_ofParts (h : Admissible path) (hfront : front ++ [part] <+: split path)
    (hpart : isBlank part = false) (t : FileTree) (here : Location) :
    t.resolve here (ofParts (front ++ [part])) = t.walk (base here path) (front ++ [part]) := by
  have hsplit := split_ofParts_of_append hfront
  obtain ⟨rest, hrest⟩ := exists_eq_ofParts_append hfront (by simp)
  have hne := EndsInName.ne_empty ⟨front, part, hsplit, hpart⟩
  rw [resolve_of_admissible (hrest ▸ h).of_append hne, hsplit, base_ofParts hfront hpart]

/-- What a system does not look at is not found missing either. -/
theorem resolve_of_not_admissible (h : ¬ Admissible path) (t : FileTree) (here : Location) :
    ∃ fault, t.resolve here path = .error fault ∧ fault.kind ≠ .notFound := by
  rw [resolve]
  split
  · exact ⟨_, rfl, by decide⟩
  · rename_i hnull
    split
    · rename_i hempty
      subst hempty
      exact absurd ⟨by simp, by decide⟩ h
    · split
      · exact ⟨_, rfl, by decide⟩
      · rename_i hsize
        exact absurd ⟨by simpa using hnull, Nat.not_lt.1 hsize⟩ h

/-- A path that leads anywhere has been looked at. -/
theorem admissible_of_resolve (h : t.resolve here path = .ok target) : Admissible path := by
  refine Classical.byContradiction fun hnot => ?_
  obtain ⟨fault, hfault, -⟩ := resolve_of_not_admissible hnot t here
  rw [hfault] at h
  cases h

/-- Where a path leads to anything, its parts lead there. -/
theorem follows_of_resolve (h : t.resolve here path = .ok target) :
    t.Follows (base here path) (split path) target := by
  have hne : path ≠ "" := by
    rintro rfl
    cases h
  rw [← walk_eq_ok_iff, ← resolve_of_admissible (admissible_of_resolve h) hne, h]

/-- And the other way round, if it is a path that the system looks at. -/
theorem Follows.resolve_eq (h : t.Follows (base here path) (split path) target)
    (hadm : Admissible path) (hne : path ≠ "") : t.resolve here path = .ok target := by
  rw [resolve_of_admissible hadm hne, walk_eq_ok_iff.2 h]

/-- **Places.** Whatever a path leads to, it lies at the place that the path names. -/
theorem location_of_resolve (h : t.resolve here path = .ok target) :
    target.location = place here path :=
  (follows_of_resolve h).location_eq

end FileTree

end ContentChecksum
