import ContentChecksum.Proofs.Reloading
import Mathlib.Logic.Function.Iterate

namespace ContentChecksum.Checksum

/-!
# Reloading again and again

A stored form that is read and stored again need not be the form that it was: it loses what stands
behind its digest, or gains a version.  Doing so once more can change it once more, but not for long.

* `reload` — one round: read a form, and store what was read;
* `IsWhole` — a form that is a version and a lasting digest, and nothing else.  These are the forms
  that stay as they are (`reload_eq_self_iff`);
* `reload_of_shape`, `reload_of_legacy`, `reload_one` — what a round makes of a form: of one that
  begins with a version, of one that does not, and of one that has just gained a version;
* `reload_three` — so a form without a version comes to rest in three rounds at most, and this is
  what is left of it;
* `reload_settles` — all of this together.
-/

/-! ### One round -/

/-- Read a stored form, and store what was read. -/
def reload (form : String) : String :=
  (parse form).canonical

/-- A stored form that is one digit, the delimiter and a run of letters and digits that is not empty,
    with nothing behind it. -/
def IsWhole (form : String) : Prop :=
  ∃ d run, Shape form.toList d run []

/-- A digit is the one of the number it stands for. -/
theorem digitChar_digitValue {d : Char} (h : d.isDigit = true) : Nat.digitChar (digitValue d) = d := by
  have hall : ∀ n : Fin 10, Nat.digitChar n.val = Char.ofNat (n.val + 48) := by decide
  have hd : digitValue d + 48 = d.toNat := by
    simp only [Char.isDigit, Bool.and_eq_true, decide_eq_true_eq] at h
    have hle : 48 ≤ d.toNat := h.1
    show d.toNat - 48 + 48 = d.toNat
    omega
  rw [hall ⟨digitValue d, digitValue_lt_ten h⟩, hd, Char.ofNat_toNat]

/-- A form that begins with a version loses what stands behind its digest. -/
theorem reload_of_shape {form : String} {d : Char} {run rest : List Char}
    (h : Shape form.toList d run rest) : reload form = String.ofList (d :: delimiter :: run) := by
  rw [reload, parse_of_shape h, ← String.toList_inj, toList_canonical]
  show Nat.toDigits 10 (digitValue d) ++ _ = _
  rw [Nat.toDigits_of_lt_base (digitValue_lt_ten h.isDigit), digitChar_digitValue h.isDigit]
  simp

/-- Version 1 is one digit and the delimiter. -/
theorem toList_one (form : String) : ("1:" ++ form).toList = '1' :: delimiter :: form.toList := by
  rw [String.toList_append]
  rfl

/-- A form that does not begin with a version gains one. -/
theorem reload_of_legacy {form : String} (h : hasVersion form = false) :
    reload form = "1:" ++ form := by
  have hdigits : Nat.toDigits 10 legacyVersion = ['1'] := by decide
  rw [reload, parse_of_legacy h, ← String.toList_inj, toList_canonical, toList_one]
  dsimp only
  rw [hdigits]
  rfl

/-- **One round.** The forms that stay as they are. -/
theorem reload_eq_self_iff (form : String) : reload form = form ↔ IsWhole form := by
  constructor
  · intro heq
    obtain ⟨d, run, rest, hshape, -⟩ | ⟨hlegacy, -⟩ := parse_cases form
    · -- what stands behind the digest would be lost
      have hlist := congrArg String.toList heq
      rw [reload_of_shape hshape, String.toList_ofList, hshape.eq] at hlist
      have hrest : rest = [] := by simpa using hlist
      exact ⟨d, run, hrest ▸ hshape⟩
    · -- the form would become longer
      have hlength := congrArg String.length heq
      rw [reload_of_legacy hlegacy, String.length_append] at hlength
      have htwo : "1:".length = 2 := rfl
      omega
  · rintro ⟨d, run, hshape⟩
    rw [reload_of_shape hshape, ← String.toList_inj, String.toList_ofList, hshape.eq]
    simp

/-! ### The version that is gained -/

/-- The letters and digits that a form begins with. -/
def leadingRun (form : String) : List Char :=
  form.toList.takeWhile Char.isAlphanum

/-- With a version in front, the run that a form begins with is a digest. -/
theorem shape_one {form : String} (h : leadingRun form ≠ []) :
    Shape ("1:" ++ form).toList '1' (leadingRun form) (form.toList.dropWhile Char.isAlphanum) := by
  rw [toList_one]
  exact shape_takeWhile (by decide) h

/-- A form that has gained a version is cut behind its leading run, and gains another if there is no
    such run. -/
theorem reload_one (form : String) :
    (leadingRun form ≠ [] → reload ("1:" ++ form) = "1:" ++ String.ofList (leadingRun form)) ∧
      (leadingRun form = [] → reload ("1:" ++ form) = "1:" ++ ("1:" ++ form)) := by
  constructor
  · intro hrun
    rw [reload_of_shape (shape_one hrun), ← String.toList_inj, toList_one, String.toList_ofList,
      String.toList_ofList]
  · intro hrun
    apply reload_of_legacy
    simp only [hasVersion, toList_one, splitVersion?]
    rw [if_neg fun h => h.2.2 hrun]
    rfl

/-! ### Three rounds -/

/-- A digit, the delimiter and a run are whole if nothing is behind them. -/
theorem isWhole_of_run {d : Char} {run : List Char} (hd : d.isDigit = true) (hne : run ≠ [])
    (hrun : ∀ c ∈ run, c.isAlphanum = true) : IsWhole (String.ofList (d :: delimiter :: run)) := by
  refine ⟨d, run, ?_, hd, hne, hrun, nofun⟩
  simp

/-- So is a leading run under version 1. -/
theorem isWhole_one {form : String} (hne : leadingRun form ≠ []) :
    IsWhole ("1:" ++ String.ofList (leadingRun form)) := by
  have hwhole : IsWhole (String.ofList ('1' :: delimiter :: leadingRun form)) :=
    isWhole_of_run (by decide) hne fun c hc => List.all_eq_true.mp List.all_takeWhile c hc
  rwa [← String.ofList_toList (s := "1:" ++ _), toList_one, String.toList_ofList]

/-- **Three rounds.** A form without a version gains one; then it is cut behind the run that it begins
    with, or if there is none, it gains another version and is cut behind the first. -/
theorem reload_three {form : String} (h : hasVersion form = false) :
    (leadingRun form ≠ [] → reload (reload (reload form)) = "1:" ++ String.ofList (leadingRun form)) ∧
      (leadingRun form = [] → reload (reload (reload form)) = "1:1") := by
  rw [reload_of_legacy h]
  constructor
  · intro hrun
    rw [(reload_one form).1 hrun, (reload_eq_self_iff _).2 (isWhole_one hrun)]
  · intro hrun
    have hone : leadingRun ("1:" ++ form) = ['1'] := by
      rw [leadingRun, toList_one]
      rfl
    rw [(reload_one form).2 hrun, (reload_one ("1:" ++ form)).1 (by simp [hone]), hone]
    rfl

/-- A form has no leading run if it is empty or does not begin with a letter or digit. -/
theorem leadingRun_eq_nil_iff {form : String} :
    leadingRun form = [] ↔ form = "" ∨ ∃ c ∈ form.toList.head?, c.isAlphanum = false := by
  rw [leadingRun, ← String.toList_inj]
  cases form.toList with
  | nil => simp
  | cons c rest => by_cases hc : c.isAlphanum = true <;> simp [hc]

/-- Three rounds are enough for every form. -/
theorem isWhole_reload_three (form : String) : IsWhole (reload (reload (reload form))) := by
  obtain ⟨d, run, rest, hshape, -⟩ | ⟨hlegacy, -⟩ := parse_cases form
  · -- after the first round nothing changes
    have hwhole : IsWhole (reload form) := by
      rw [reload_of_shape hshape]
      exact isWhole_of_run hshape.isDigit hshape.ne_nil hshape.isAlphanum
    have hstays := (reload_eq_self_iff _).2 hwhole
    rwa [hstays, hstays]
  · by_cases hrun : leadingRun form = []
    · rw [(reload_three hlegacy).2 hrun]
      have hone : ∀ c ∈ ['1'], c.isAlphanum = true := by
        intro c hc
        rw [List.mem_singleton.1 hc]
        rfl
      exact isWhole_of_run (d := '1') (by decide) (by simp) hone
    · rw [(reload_three hlegacy).1 hrun]
      exact isWhole_one hrun

/-- **Reloading settles.** A form stays as it is exactly if it is one digit, the delimiter and a run of
    letters and digits, with nothing behind it.  Three rounds make such a form of any other, and
    more than three change nothing any more.  Of a form without a version the run that it begins
    with is left, as a legacy digest, or `1:1` if it is empty or begins with another character. -/
theorem reload_settles (form : String) :
    (reload form = form ↔ IsWhole form) ∧
    IsWhole (reload^[3] form) ∧
    (∀ n, 3 ≤ n → reload^[n] form = reload^[3] form) ∧
    (hasVersion form = false →
      (leadingRun form ≠ [] → reload^[3] form = "1:" ++ String.ofList (leadingRun form)) ∧
      (form = "" ∨ (∃ c ∈ form.toList.head?, c.isAlphanum = false) → reload^[3] form = "1:1")) := by
  refine ⟨reload_eq_self_iff form, isWhole_reload_three form, ?_, ?_⟩
  · intro n hn
    have hstays : reload (reload^[3] form) = reload^[3] form :=
      (reload_eq_self_iff _).2 (isWhole_reload_three form)
    obtain ⟨k, rfl⟩ := Nat.exists_eq_add_of_le' hn
    rw [Function.iterate_add_apply, Function.iterate_fixed hstays]
  · intro hlegacy
    have hthree := reload_three hlegacy
    exact ⟨hthree.1, fun hodd => hthree.2 (leadingRun_eq_nil_iff.2 hodd)⟩

/-- A form that begins with a space needs all three rounds, and its digits are lost. -/
theorem reload_settles_of_blank :
    hasVersion " 8:abc" = false ∧ reload^[2] " 8:abc" = "1:1: 8:abc" ∧ reload^[3] " 8:abc" = "1:1" := by
  have hlegacy : hasVersion " 8:abc" = false := by decide
  have hblank : ∃ c ∈ " 8:abc".toList.head?, c.isAlphanum = false := ⟨' ', by decide, by decide⟩
  exact ⟨hlegacy, by decide, ((reload_settles " 8:abc").2.2.2 hlegacy).2 (Or.inr hblank)⟩

end ContentChecksum.Checksum
