import ContentChecksum.Proofs.Answers
import ContentChecksum.Proofs.Sessions

namespace ContentChecksum

open ContentChecksum.Path

/-!
# Verifying what was computed

A checksum that one run prints is found unchanged by the next one, as long as the content is the same.

* `Command.Words.scan_behind` — words are sorted the same with an operand in front of them, so whatever
  content `compute` takes, `verify` takes behind the stored checksum
  (`Command.Request.ofLine_verify`);
* `compute_spec` — at some point of a successful run of `compute`, the settings are settled and the
  content is there, and nothing but the log is written to from then on;
* `verify_spec` — a run of `verify` that begins so finds the same settings and the same content;
* `verify_after_compute` — the two together.
-/

namespace Command

/-! ### The command line of the second run -/

/-- A form with room for one more operand. -/
def Form.roomier (form : Form) : Form :=
  { form with operands := form.operands + 1 }

namespace Words

/-- Sorted words with one more operand in front. -/
def behind (stored : String) (w : Words) : Words :=
  { w with operands := stored :: w.operands }

/-- A flag is taken the same with an operand in front. -/
theorem addFlag_behind (stored : String) (w : Words) (flag : Flag) :
    (w.behind stored).addFlag flag = (w.addFlag flag).map (behind stored) := by
  rw [addFlag, addFlag]
  show (if flag ∈ w.flags then _ else _) = _
  split <;> rfl

/-- So is a path. -/
theorem setFile_behind (stored : String) (w : Words) (path : String) :
    (w.behind stored).setFile path = (w.setFile path).map (behind stored) := by
  rw [setFile, setFile]
  show (if path = "" then _ else if w.file.isSome then _ else _) = _
  split
  · rfl
  · split <;> rfl

/-- So is another operand, where there is room for one more. -/
theorem addOperand_behind (form : Form) (stored : String) (w : Words) (text : String) :
    addOperand form.roomier (w.behind stored) text =
      (addOperand form w text).map (behind stored) := by
  rw [addOperand, addOperand]
  show (if w.operands.length + 1 < form.operands + 1 then _ else _) = _
  by_cases h : w.operands.length < form.operands
  · rw [if_pos h, if_pos (Nat.succ_lt_succ h)]
    rfl
  · rw [if_neg h, if_neg (mt Nat.lt_of_succ_lt_succ h)]
    rfl

/-- So is a long option, with a value or without. -/
theorem addLong_behind (form : Form) (stored : String) (w : Words) (name : String)
    (value : Option String) :
    addLong form.roomier (w.behind stored) name value =
      (addLong form w name value).map (behind stored) := by
  have hflags : form.roomier.flags = form.flags := rfl
  unfold addLong
  rw [hflags]
  cases form.flags.find? (·.name = name) with
  | none => rfl
  | some flag =>
    cases value with
    | none => exact addFlag_behind stored w flag
    | some _ => rfl

/-- Steps that take the operand along can be done one after the other. -/
theorem bind_behind {stored : String} {x y : Except Refusal Words}
    {next next' : Words → Except Refusal Words} (hxy : y = x.map (behind stored))
    (hnext : ∀ w, next' (w.behind stored) = (next w).map (behind stored)) :
    (y >>= next') = (x >>= next).map (behind stored) := by
  rw [hxy]
  cases x with
  | error error => rfl
  | ok w => exact hnext w

/-- Operands are taken the same with another in front of them. -/
theorem foldlM_addOperand_behind (form : Form) (stored : String) (w : Words) (texts : List String) :
    texts.foldlM (addOperand form.roomier) (w.behind stored) =
      (texts.foldlM (addOperand form) w).map (behind stored) := by
  induction texts generalizing w with
  | nil => rfl
  | cons text texts ih => exact bind_behind (addOperand_behind form stored w text) ih

/-- Words are sorted the same with an operand in front of them, if there is room for it. -/
theorem scan_behind (form : Form) (stored : String) :
    ∀ (w : Words) (words : List String),
      scan form.roomier (w.behind stored) words = (scan form w words).map (behind stored)
  | _, [] => rfl
  | w, word :: rest => by
    -- both forms take the same branch, for they differ in the number of operands only
    have hfile : form.roomier.file = form.file := rfl
    rw [scan, scan, hfile]
    cases Word.ofText word with
    | endOfOptions => exact foldlM_addOperand_behind form stored w rest
    | operand text =>
      exact bind_behind (addOperand_behind form stored w text) fun w => scan_behind form stored w rest
    | short first more =>
      dsimp only
      split <;> rfl
    | long name value =>
      dsimp only
      by_cases hhelp : name = "help"
      · rw [if_pos hhelp, if_pos hhelp]
        split <;> rfl
      · rw [if_neg hhelp, if_neg hhelp]
        by_cases hname : form.file = true ∧ name = "file"
        · rw [if_pos hname, if_pos hname]
          match value, rest with
          | some path, rest =>
            exact bind_behind (setFile_behind stored w path) fun w => scan_behind form stored w rest
          | .none, [] => rfl
          | .none, path :: rest =>
            dsimp only
            by_cases hpath : (Word.ofText path).isOperand = true
            · rw [if_pos hpath, if_pos hpath]
              exact bind_behind (setFile_behind stored w path) fun w => scan_behind form stored w rest
            · rw [if_neg hpath, if_neg hpath]
              rfl
        · rw [if_neg hname, if_neg hname]
          exact bind_behind (addLong_behind form stored w name value) fun w =>
            scan_behind form stored w rest

end Words

namespace Request

/-- A text that begins with no dash is an operand. -/
theorem ofText_of_ne_dash {text : String} {c : Char} {rest : List Char} (h : text.toList = c :: rest)
    (hc : c ≠ '-') : Word.ofText text = .operand text := by
  rw [Word.ofText, h]
  split
  · rename_i heq; exact absurd (List.cons.inj heq).1 hc
  · rename_i heq; exact absurd (List.cons.inj heq).1 hc
  · rename_i heq; exact absurd (List.cons.inj heq).1 hc
  · rfl

/-- A command line that asks for a command begins with its name, and the words behind it tell the rest. -/
theorem exists_words_of_run {line : List String} {command : Command}
    (h : ofLine line = .ok (.run command)) :
    ∃ name words w, line = name.text :: words ∧ Words.scan name.form .none words = .ok w ∧
      Command.ofWords name w = .ok command := by
  match line with
  | [] => cases h
  | first :: rest =>
    rw [ofLine] at h
    -- a first word that is no name asks for help, or is refused
    cases hname : Name.ofText? first with
    | none =>
      rw [hname] at h
      dsimp only at h
      split at h
      · rcases hwords : Topic.ofWords rest with error | topic <;> rw [hwords] at h <;> cases h
      · split at h <;> cases h
    | some name =>
      have hfirst : name.text = first := by
        simpa using List.find?_some hname
      rw [hname] at h
      dsimp only at h
      rw [ofWords] at h
      refine ⟨name, rest, ?_⟩
      cases hscan : Words.scan name.form .none rest with
      | error error =>
        rw [hscan] at h
        cases error <;> cases h
      | ok w =>
        refine ⟨w, by rw [hfirst], rfl, ?_⟩
        rw [hscan] at h
        cases hcommand : Command.ofWords name w with
        | error error =>
          have herror : (Except.ok w >>= Command.ofWords name) = .error error := hcommand
          rw [herror] at h
          cases error <;> cases h
        | ok command' =>
          have hok : (Except.ok w >>= Command.ofWords name) = .ok command' := hcommand
          rw [hok] at h
          rw [Request.run.inj (Except.ok.inj h)]

/-- Content is told of by the words behind `compute`. -/
theorem exists_words_of_compute {line : List String} {input : Input}
    (h : ofLine line = .ok (.run (.compute input))) :
    ∃ words w, line = "compute" :: words ∧ Words.scan Name.compute.form .none words = .ok w ∧
      Input.ofWords w w.operands.head? = .ok input := by
  obtain ⟨name, words, w, rfl, hscan, hcommand⟩ := exists_words_of_run h
  obtain ⟨flags, file, operands⟩ := w
  cases name with
  | compute =>
    refine ⟨words, _, rfl, hscan, ?_⟩
    rw [Command.ofWords] at hcommand
    rcases hinput : Input.ofWords ⟨flags, file, operands⟩ operands.head? with error | input'
    · rw [hinput] at hcommand
      cases hcommand
    · rw [hinput] at hcommand
      rw [Command.compute.inj (Except.ok.inj hcommand)]
  | parse => cases operands <;> cases hcommand
  | verify =>
    cases operands with
    | nil => cases hcommand
    | cons stored operands =>
      change Command.verify stored <$> _ = _ at hcommand
      rcases hinput : Input.ofWords ⟨flags, file, stored :: operands⟩ operands.head? with error | input'
      · rw [hinput] at hcommand
        cases hcommand
      · rw [hinput] at hcommand
        cases hcommand
  | version => cases hcommand

/-- The content that follows `compute` can follow `verify` and a stored checksum. -/
theorem ofLine_verify {line : List String} {input : Input} {stored : String}
    (hline : ofLine line = .ok (.run (.compute input)))
    (hstored : Word.ofText stored = .operand stored) :
    ∃ words, line = "compute" :: words ∧
      ofLine ("verify" :: stored :: words) = .ok (.run (.verify stored input)) := by
  obtain ⟨words, w, rfl, hscan, hinput⟩ := exists_words_of_compute hline
  have hverify : Words.scan Name.verify.form .none (stored :: words) = .ok (w.behind stored) := by
    rw [Words.scan, hstored]
    show Words.scan Name.compute.form.roomier (Words.none.behind stored) words = _
    rw [Words.scan_behind, hscan]
    rfl
  refine ⟨words, rfl, ?_⟩
  have hcommand : Command.ofWords .verify (w.behind stored) = .ok (.verify stored input) := by
    show Command.verify stored <$> Input.ofWords w w.operands.head? = _
    rw [hinput]
    rfl
  have hok : (Except.ok (w.behind stored) >>= Command.ofWords .verify) = .ok (.verify stored input) :=
    hcommand
  show ofWords .verify (stored :: words) = _
  rw [ofWords, hverify, hok]

end Request

end Command

open Command

/-! ### The two runs -/

variable {env : Environment} {w v : World} {input : Input} {settings : Settings} {source : Source}
  {fresh : Checksum}

/-- The content of a command is there, and has a checksum under settings that are settled. -/
structure Reproducible (env : Environment) (w : World) (input : Input) (fresh : Checksum) : Prop where
  intro ::
  exists_source : ∃ settings source, Settled env w settings ∧
    input.origin.source? w = some source ∧ input.checksum? settings source = some fresh

/-- The content of a command is not read from the log file. -/
def Command.Input.AvoidsLog (input : Input) (env : Environment) (here : Location) : Prop :=
  ∀ path, input.origin = .file path → env.logPlace? here ≠ some (place here path)

/-- While nothing but the log is written to, that stays so. -/
theorem Reproducible.of_grows (h : Reproducible env w input fresh)
    (hlog : input.AvoidsLog env w.here) (hgrows : World.Grows env.journalFootprint w v)
    (hinput : v.standardInput = w.standardInput) : Reproducible env v input fresh := by
  obtain ⟨settings, source, hsettled, hsource, hfresh⟩ := h
  refine ⟨settings, source, ?_, ?_, hfresh⟩
  · exact hsettled.of_grows hgrows fun loc hplace hgrown =>
      Environment.logPlace?_ne_settingsPlace? hgrown hplace
  · exact Origin.source?_of_grows hsource hgrows hinput hlog

/-- **Computing.** When `compute` succeeds, it prints a checksum of content that was there at some
    point, under settings that were settled.  From then on nothing but the log is written to. -/
theorem compute_spec {line : List String}
    (hline : Request.ofLine line = .ok (.run (.compute input)))
    (hstatus : ((run env line : Simulation Status) w).1 = .success) :
    ∃ v fresh, v.here = w.here ∧ v.standardInput = w.standardInput ∧ Reproducible env v input fresh ∧
      World.Grows env.journalFootprint v ((run env line : Simulation Status) w).2 ∧
      ((run env line : Simulation Status) w).2.output = w.output ++ (fresh.canonical ++ "\n") := by
  obtain ⟨w₁, hstarted, hrun⟩ := Simulation.run_command_spec hline env w
  have hloaded := Simulation.keeps_load env w₁
  have hsettled := @Simulation.settled_of_load env w₁
  rcases hload : (Settings.load env : Simulation (Except Settings.LoadError Settings.Loaded)) w₁ with
    ⟨error | loaded, w₂⟩
  · -- without settings the run would have failed
    rw [hload] at hrun
    rw [hrun.1] at hstatus
    cases hstatus
  · rw [hload] at hrun hloaded hsettled
    obtain ⟨v, hbefore, hafter, hanswer, houtput⟩ := hrun
    rw [hanswer] at hstatus
    rw [houtput]
    rw [Command.answer] at hstatus ⊢
    cases hfresh : (input.origin.source? v).bind (input.checksum? loaded.settings) with
    | none =>
      -- and without content as well
      rw [hfresh] at hstatus
      cases hstatus
    | some fresh =>
      obtain ⟨source, hsource, hchecksum⟩ := Option.bind_eq_some_iff.1 hfresh
      have hsettled' := (hsettled rfl).of_grows hbefore.toGrows fun loc hplace hgrown =>
        Environment.logPlace?_ne_settingsPlace? hgrown hplace
      refine ⟨v, fresh, ?_, ?_, ⟨_, source, hsettled', hsource, hchecksum⟩, hafter, rfl⟩
      · rw [hbefore.here_eq, hloaded.here_eq, hstarted.here_eq]
      · rw [hbefore.standardInput_eq, hloaded.standardInput_eq, hstarted.standardInput_eq]

/-- **Verifying.** Where the content is there, under settings that are settled, `verify` compares the
    stored checksum with that of the content. -/
theorem verify_spec {line : List String} {stored : String}
    (hline : Request.ofLine line = .ok (.run (.verify stored input)))
    (h : Reproducible env w input fresh) (hlog : input.AvoidsLog env w.here) :
    ((run env line : Simulation Status) w).1 = (Report.ofComparison (.parse stored) fresh).answer.2 ∧
      ((run env line : Simulation Status) w).2.output =
        w.output ++ (Report.ofComparison (.parse stored) fresh).answer.1 := by
  obtain ⟨w₁, hstarted, hrun⟩ := Simulation.run_command_spec hline env w
  have h₁ := h.of_grows hlog hstarted.toGrows hstarted.standardInput_eq
  obtain ⟨settings, source, hsettled, hsource, hchecksum⟩ := h₁
  obtain ⟨path, hload⟩ := hsettled.load_eq
  rw [hload] at hrun
  obtain ⟨v, hbefore, -, hanswer, houtput⟩ := hrun
  have hsource' := Origin.source?_of_grows hsource hbefore.toGrows hbefore.standardInput_eq
    (hstarted.here_eq.symm ▸ hlog)
  rw [hanswer, houtput, Command.answer, hsource', Option.bind_some, hchecksum]
  exact ⟨rfl, rfl⟩

/-- A fresh checksum, also with something behind it that does not go on with a letter or digit, is
    found unchanged. -/
theorem ofComparison_suffixed (hfresh : Checksum.Fresh fresh) {suffix : String}
    (hsuffix : ∀ x ∈ suffix.toList.head?, x.isAlphanum = false) :
    Report.ofComparison (.parse (fresh.canonical ++ suffix)) fresh = .success "unchanged\n" := by
  have hform : Checksum.HasDigest (fresh.canonical ++ suffix) fresh.digest.toList := by
    refine ⟨suffix.toList, ?_, hsuffix⟩
    rw [hfresh.canonical_eq, String.toList_append, String.toList_append]
    rfl
  rw [Report.ofComparison, (Checksum.compare_parse_eq_unchanged_iff hfresh _).2 hform]

/-- **Verifying what was computed.** Let a run of `compute` succeed and print a line, on content that is
    not read from the log file.  Behind the words of its command line, `verify` takes the printed
    checksum, also with something behind it that does not go on with a letter or digit.  And
    whenever `verify` is asked for that content and that stored checksum, in the same environment and
    current directory and with the same standard input, on the tree that the first run left, it
    prints that the content is unchanged, and succeeds. -/
theorem verify_after_compute (i : Invocation) (t : FileTree) {c suffix : String}
    (hline : Request.ofLine i.line = .ok (.run (.compute input)))
    (houtcome : i.outcome t = (c ++ "\n", .success))
    (hlog : input.AvoidsLog i.env i.here)
    (hsuffix : ∀ x ∈ suffix.toList.head?, x.isAlphanum = false) :
    (∃ words, i.line = "compute" :: words ∧
      Request.ofLine ("verify" :: (c ++ suffix) :: words) =
        .ok (.run (.verify (c ++ suffix) input))) ∧
    ∀ line clock, Request.ofLine line = .ok (.run (.verify (c ++ suffix) input)) →
      ({ i with line, clock } : Invocation).outcome (i.perform t) = ("unchanged\n", .success) := by
  obtain ⟨v, fresh, hhere, hinput, hthere, hafter, hprinted⟩ :=
    compute_spec (w := i.world t) hline (congrArg Prod.snd houtcome)
  have hfresh : Checksum.Fresh fresh := by
    obtain ⟨settings, source, -, -, hchecksum⟩ := hthere
    exact Input.fresh_of_checksum? hchecksum
  have hc : c = fresh.canonical := by
    -- the two printed lines end in the same line feed
    have hlines := (congrArg Prod.fst houtcome).symm.trans hprinted
    rw [← String.toList_inj, String.toList_append, String.toList_append, String.toList_append] at hlines
    exact String.toList_inj.1 (List.append_cancel_right hlines)
  subst hc
  refine ⟨?_, fun line clock hverify => ?_⟩
  · -- what begins with a digit is no option
    have hdigit : (fresh.canonical ++ suffix).toList = '8' :: ':' :: (fresh.digest ++ suffix).toList := by
      rw [hfresh.canonical_eq, String.toList_append, String.toList_append, String.toList_append]
      rfl
    exact Request.ofLine_verify hline (Request.ofText_of_ne_dash hdigit (by decide))
  · -- the second run begins in the tree that the first has only logged in since
    have hagain : World.Grows i.env.journalFootprint v
        (Invocation.world { i with line, clock } (i.perform t)) := ⟨hhere.symm, hafter.growth⟩
    have hthere' := hthere.of_grows (hhere.symm ▸ hlog) hagain hinput.symm
    obtain ⟨hstatus, houtput⟩ := verify_spec hverify hthere' hlog
    rw [ofComparison_suffixed hfresh hsuffix] at hstatus houtput
    exact Prod.ext (houtput.trans String.empty_append) hstatus

/-- The first run makes the settings file, the second is given the stored checksum with a line feed. -/
theorem verify_after_compute_of_file :
    let i : Invocation :=
      ⟨⟨some "/h", none, none, none⟩, ["compute", "--file", "f"], ["h"], [], 0⟩
    let t : FileTree := ⟨[(["h"], .directory), (["h", "f"], .file [0x61, 0x0D, 0x0A])]⟩
    let stored := "8:60b725f10c9c85c70d97880dfe8191b3"
    i.outcome t = (stored ++ "\n", .success) ∧
      ({ i with line := ["verify", stored ++ "\n", "--file", "f"], clock := 5 } : Invocation).outcome
        (i.perform t) = ("unchanged\n", .success) := by
  intro i t stored
  have hline : Request.ofLine i.line = .ok (.run (.compute ⟨.file "f", none, false⟩)) :=
    eq_ok_of_toOption (by decide +kernel)
  have hverify : Request.ofLine ["verify", stored ++ "\n", "--file", "f"] =
      .ok (.run (.verify (stored ++ "\n") ⟨.file "f", none, false⟩)) :=
    eq_ok_of_toOption (by decide +kernel)
  have houtcome : i.outcome t = (stored ++ "\n", .success) := by decide +kernel
  have hlog : Input.AvoidsLog ⟨.file "f", none, false⟩ i.env i.here := by
    intro path hpath
    rw [← Origin.file.inj hpath]
    decide +kernel
  have hsuffix : ∀ x ∈ "\n".toList.head?, x.isAlphanum = false := by
    intro x hx
    rw [← Option.some.inj hx]
    rfl
  exact ⟨houtcome, (verify_after_compute i t hline houtcome hlog hsuffix).2 _ 5 hverify⟩

end ContentChecksum
