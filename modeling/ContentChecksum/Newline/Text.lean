/-!
# Line breaks in texts

A line break is written LF, CR or CR LF.  `unify` writes every one of them as LF, looking one
character ahead to see whether a CR has an LF beside it.  `unify?` answers `none` when there is
nothing to do, that is when the text has no CR.
-/

namespace ContentChecksum.Newline

/-- The loop of `unify`: the output so far is kept back to front. -/
def unifyOnto : List Char → List Char → List Char
  | out, [] => out.reverse
  | out, '\r' :: '\n' :: rest => unifyOnto ('\n' :: out) rest
  | out, c :: rest => unifyOnto ((if c = '\r' then '\n' else c) :: out) rest

/-- The text with every line break written as LF. -/
def unify (text : List Char) : List Char :=
  unifyOnto [] text

/-- The text with every line break written as LF, if that is another text. -/
def unify? (text : List Char) : Option (List Char) :=
  if '\r' ∈ text then some (unify text) else none

/-! ### `unify` by cases -/

/-- What has been unified so far is put in front, in its order. -/
theorem unifyOnto_eq (out text : List Char) : unifyOnto out text = out.reverse ++ unify text := by
  suffices h : ∀ out front, unifyOnto (out ++ front) text = front.reverse ++ unifyOnto out text by
    simpa [unify] using h [] out
  intro out front
  fun_induction unifyOnto out text generalizing front with
  | case1 => simp [unifyOnto]
  | case2 out rest ih =>
    rw [unifyOnto, ← List.cons_append, ih]
  | case3 out c rest hc ih =>
    rw [unifyOnto, ← List.cons_append, ih]
    intro r' hr; exact hc r' hr

@[simp] theorem unify_nil : unify [] = [] := rfl

@[simp] theorem unify_crlf (rest : List Char) :
    unify ('\r' :: '\n' :: rest) = '\n' :: unify rest := by
  rw [unify, unifyOnto, unifyOnto_eq]; rfl

/-- A CR that begins no pair is a line break of its own. -/
theorem unify_cr {rest : List Char} (h : ∀ r, rest ≠ '\n' :: r) :
    unify ('\r' :: rest) = '\n' :: unify rest := by
  rw [unify, unifyOnto, unifyOnto_eq]
  · rfl
  · intro r _ hr; exact h r hr

/-- All other characters stay. -/
theorem unify_cons {c : Char} (hc : c ≠ '\r') (rest : List Char) :
    unify (c :: rest) = c :: unify rest := by
  rw [unify, unifyOnto, unifyOnto_eq, if_neg hc]
  · rfl
  · intro r h _; exact hc h

/-- The CR of a pair adds nothing to what becomes of its LF. -/
theorem unify_cr_of_head?_eq {rest : List Char} (h : rest.head? = some '\n') :
    unify ('\r' :: rest) = unify rest := by
  obtain ⟨tail, rfl⟩ := List.head?_eq_some_iff.1 h
  rw [unify_crlf, unify_cons (by decide)]

/-- A CR without an LF beside it is a line break of its own. -/
theorem unify_cr_of_head?_ne {rest : List Char} (h : rest.head? ≠ some '\n') :
    unify ('\r' :: rest) = '\n' :: unify rest :=
  unify_cr fun r hr => h (by rw [hr]; rfl)

/-- A front without CR is left alone, whatever follows. -/
theorem unify_append {front : List Char} (h : '\r' ∉ front) (rest : List Char) :
    unify (front ++ rest) = front ++ unify rest := by
  induction front with
  | nil => rfl
  | cons c front ih =>
    rw [List.mem_cons, not_or] at h
    rw [List.cons_append, unify_cons (Ne.symm h.1), ih h.2, List.cons_append]

/-- A text without CR is left alone. -/
theorem unify_eq_self {text : List Char} (h : '\r' ∉ text) : unify text = text := by
  have happend := unify_append h []
  rwa [unify_nil, List.append_nil] at happend

/-- Whether `unify?` answers or not, it is `unify` that is meant. -/
theorem getD_unify? (text : List Char) : (unify? text).getD text = unify text := by
  unfold unify?
  split
  · rfl
  · exact (unify_eq_self ‹_›).symm

-- Three spellings of a line break, and an empty line between the last two.
example : unify ['a', '\r', '\n', 'b', '\n', 'c', '\r', '\r', '\n'] =
    ['a', '\n', 'b', '\n', 'c', '\n', '\n'] := by decide

end ContentChecksum.Newline
