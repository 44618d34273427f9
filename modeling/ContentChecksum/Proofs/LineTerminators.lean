import ContentChecksum.Proofs.TextAndStream
import Mathlib.Data.List.Chain

namespace ContentChecksum

/-!
# Line terminators do not matter

A text in lines may end each of them but the last with LF, CR or CR LF.  Nothing of this is left when
its line breaks are unified, and so neither the checksum of the text nor that of its bytes as a
stream depends on it:

* `Lines` — the lines of a text with a terminator between any two of them.  One mixture is left out,
  since it cannot be told from a CR LF pair: a CR, an empty line, and an LF;
* `Lines.unify_text` — with its line breaks unified the text is its lines joined by LF, by induction
  over the lines;
* `Checksum.same_lines_same_checksum` — so two texts with the same lines have the same checksum, as
  texts and as streams.
-/

namespace Newline

/-- What ends a line. -/
inductive Terminator
  | lf
  | cr
  | crlf
deriving DecidableEq, Repr

/-- The characters of a terminator. -/
def Terminator.text : Terminator → List Char
  | lf => ['\n']
  | cr => ['\r']
  | crlf => ['\r', '\n']

/-- A text in lines: the first line, and each other line with the terminator in front of it. -/
structure Lines where
  first : List Char
  others : List (Terminator × List Char)
  /-- There are no line breaks inside a line. -/
  plain : ∀ line ∈ first :: others.map Prod.snd, '\r' ∉ line ∧ '\n' ∉ line
  /-- No CR and LF come together that belong to two terminators. -/
  apart : others.IsChain fun a b => ¬ (a.1 = .cr ∧ a.2 = [] ∧ b.1 = .lf)

namespace Lines

/-- The lines without their terminators. -/
def lines (t : Lines) : List (List Char) :=
  t.first :: t.others.map Prod.snd

/-- Each line behind its terminator. -/
def terminated (others : List (Terminator × List Char)) : List Char :=
  others.flatMap fun (terminator, line) => terminator.text ++ line

/-- The text as it is assembled. -/
def text (t : Lines) : List Char :=
  t.first ++ terminated t.others

/-- Lines joined by LF, line by line. -/
theorem intercalate_lf (first : List Char) (others : List (List Char)) :
    ['\n'].intercalate (first :: others) = first ++ others.flatMap fun line => '\n' :: line := by
  induction others generalizing first with
  | nil => rw [List.intercalate_singleton, List.flatMap_nil, List.append_nil]
  | cons line others ih =>
    rw [List.intercalate_cons_cons, ih, List.flatMap_cons, List.append_assoc]
    rfl

/-- Behind a CR that stands for a whole terminator there is no LF. -/
theorem head?_ne_lf {line : List Char} {others : List (Terminator × List Char)} (hlf : '\n' ∉ line)
    (hnext : ∀ next ∈ others.head?, ¬ (line = [] ∧ next.1 = .lf)) :
    (line ++ terminated others).head? ≠ some '\n' := by
  cases line with
  | cons c line =>
    intro h
    exact hlf (Option.some.inj h ▸ List.mem_cons_self)
  | nil =>
    match others with
    | [] => exact Option.some_ne_none _ ∘ Eq.symm
    | (.lf, next) :: others => exact absurd ⟨rfl, rfl⟩ (hnext _ rfl)
    | (.cr, next) :: others => simp [terminated, Terminator.text]
    | (.crlf, next) :: others => simp [terminated, Terminator.text]

/-- Each terminator becomes an LF. -/
theorem unify_terminated {others : List (Terminator × List Char)}
    (hplain : ∀ line ∈ others.map Prod.snd, '\r' ∉ line ∧ '\n' ∉ line)
    (hapart : others.IsChain fun a b => ¬ (a.1 = .cr ∧ a.2 = [] ∧ b.1 = .lf)) :
    unify (terminated others) = (others.map Prod.snd).flatMap fun line => '\n' :: line := by
  induction others with
  | nil => rfl
  | cons entry others ih =>
    obtain ⟨terminator, line⟩ := entry
    rw [List.map_cons, List.forall_mem_cons] at hplain
    rw [List.isChain_cons] at hapart
    obtain ⟨⟨hcr, hlf⟩, hplain⟩ := hplain
    have hline : unify (line ++ terminated others) =
        line ++ (others.map Prod.snd).flatMap fun line => '\n' :: line := by
      rw [unify_append hcr, ih hplain hapart.2]
    rw [List.map_cons, List.flatMap_cons, List.cons_append, ← hline]
    show unify (terminator.text ++ line ++ terminated others) = _
    rw [List.append_assoc]
    cases terminator with
    | lf => exact unify_cons (by decide) _
    | crlf => exact unify_crlf _
    | cr =>
      -- an empty line behind the CR must not begin with an LF of its own
      refine unify_cr_of_head?_ne (head?_ne_lf hlf fun next hnext => ?_)
      exact fun h => hapart.1 next hnext ⟨rfl, h⟩

/-- **Unified text.** The lines joined by LF, whatever the terminators. -/
theorem unify_text (t : Lines) : unify t.text = ['\n'].intercalate t.lines := by
  have hplain := t.plain
  rw [List.forall_mem_cons] at hplain
  rw [text, unify_append hplain.1.1, unify_terminated hplain.2 t.apart, lines, intercalate_lf]

end Lines

end Newline

namespace Checksum

open Newline

/-- A source that hands out the bytes of a text in lines, in whatever pieces. -/
theorem ofReader_of_lines {t : Lines} {s : Source}
    (hcontent : Script.content s.steps = Utf8.encode t.text) (hfault : Script.fault? s.steps = none) :
    (Checksum.ofReader true s).1 = .ok (.ofBytes (Utf8.encode (['\n'].intercalate t.lines))) := by
  rw [ofReader_source, hfault]
  show Except.ok (ofBytes (collapse (Script.content s.steps))) = _
  rw [hcontent, collapse_encode, t.unify_text]

/-- **Line terminators do not matter.** Two texts with the same lines become the lines joined by LF
    when their line breaks are unified, and so they have the same checksum.  Sources that hand out
    their bytes, each in pieces of any sizes, have one checksum as well. -/
theorem same_lines_same_checksum (a b : Lines) (h : a.lines = b.lines) :
    unify a.text = ['\n'].intercalate a.lines ∧ unify b.text = ['\n'].intercalate a.lines ∧
    ofText (String.ofList a.text) = ofText (String.ofList b.text) ∧
    ∀ s s' : Source,
      Script.content s.steps = Utf8.encode a.text → Script.fault? s.steps = none →
      Script.content s'.steps = Utf8.encode b.text → Script.fault? s'.steps = none →
      ∃ c, (Checksum.ofReader true s).1 = .ok c ∧ (Checksum.ofReader true s').1 = .ok c := by
  have ha := a.unify_text
  have hb : unify b.text = ['\n'].intercalate a.lines := by rw [b.unify_text, h]
  refine ⟨ha, hb, ofText_congr ?_, fun s s' hs hfault hs' hfault' => ?_⟩
  · rw [Text.clean, Text.clean, ha, hb]
  · exact ⟨_, ofReader_of_lines hs hfault, by rw [ofReader_of_lines hs' hfault', h]⟩

/-- An empty line behind a CR and in front of a pair, and the same lines with other terminators; the
    bytes of the first come in pieces, with the pair cut in two. -/
theorem same_lines_of_mixed_terminators :
    let a : Lines := ⟨['a'], [(.cr, []), (.crlf, ['é'])], by decide, by decide⟩
    let b : Lines := ⟨['a'], [(.lf, []), (.cr, ['é'])], by decide, by decide⟩
    let s : Source := .ofSteps [.data [0x61, 0x0d, 0x0d], .data [0x0a, 0xc3, 0xa9]]
    a.lines = b.lines ∧ ofText "a\r\r\né" = ofText "a\n\ré" ∧
      ∃ c, (Checksum.ofReader true s).1 = .ok c ∧
        (Checksum.ofReader true (Source.ofBytes (Utf8.encode b.text))).1 = .ok c := by
  intro a b s
  have hlines : a.lines = b.lines := rfl
  have hsame := same_lines_same_checksum a b hlines
  refine ⟨hlines, hsame.2.2.1, hsame.2.2.2 _ _ ?_ ?_ ?_ ?_⟩ <;> decide +kernel

end Checksum

end ContentChecksum
