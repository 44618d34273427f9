import ContentChecksum.Proofs.ExitStatus

namespace ContentChecksum

open ContentChecksum.Path

/-!
# Content and where it comes from

A text on the command line, a file and the standard input are read in three ways, and each of them in
two modes.  What comes of it depends on the bytes and the mode alone.

* `Command.Origin.Holds` — the bytes that are found where content comes from;
* `Command.Inquiry` — a checksum is asked for, somewhere in a world;
* `Command.Inquiry.Finds.result_eq` — what is answered, in the six cases at once;
* `Invocation.Asks` — the inquiry of a run, whose answer is what the run prints
  (`Invocation.Asks.outcome_eq`);
* `Command.Inquiry.checksum_of_content` — so the way in which content is supplied does not matter,
  neither for the checksum nor for what is printed.
-/

/-! ### Reading what is held -/

/-- The checksum of bytes that come as a stream. -/
theorem Checksum.ofReader_ofBytes (unify : Bool) (bytes : List UInt8) :
    (Checksum.ofReader unify (Source.ofBytes bytes)).1 =
      .ok (.ofBytes (if unify then Newline.collapse bytes else bytes)) := by
  rw [Checksum.ofReader_source, Source.ofBytes, Source.ofSteps, hashedBytes]
  simp only [Script.fault?_data, Script.content_data]

/-- There is always one. -/
theorem Computed.exists_ofReader_ofBytes (unify : Bool) (bytes : List UInt8) :
    ∃ computed, (Computed.ofReader unify (Source.ofBytes bytes)).1 = .ok computed ∧
      computed.checksum = .ofBytes (if unify then Newline.collapse bytes else bytes) := by
  have hchecksum := Checksum.ofReader_ofBytes unify bytes
  rw [Checksum.ofReader] at hchecksum
  generalize Computed.ofReader unify (Source.ofBytes bytes) = answer at hchecksum ⊢
  obtain ⟨error | computed, rest⟩ := answer
  · cases hchecksum
  · exact ⟨computed, rfl, Except.ok.inj hchecksum⟩

namespace Command

/-- These bytes are found where content comes from. -/
inductive Origin.Holds (w : World) : Origin → List UInt8 → Prop
  /-- A text is taken in UTF-8. -/
  | argument (text : String) : Holds w (.argument text) (Utf8.encode text.toList)
  /-- The path leads to a file, which has these bytes. -/
  | file {path : String} {loc : Location} {bytes : List UInt8}
    (hfile : w.files.resolve w.here path = .ok (.present loc (.file bytes))) :
    Holds w (.file path) bytes
  /-- These bytes have not been taken from the standard input so far. -/
  | standardInput : Holds w .standardInput w.standardInput

variable {o : Origin} {w : World} {bytes : List UInt8}

/-- What is read as text. -/
theorem Origin.Holds.fst_readText (h : o.Holds w bytes) :
    ((o.readText : Simulation (Except Fault (List Char))) w).1 = (Source.ofBytes bytes).readText := by
  cases h with
  | argument text =>
    -- a text is not decoded, but it would be itself
    rw [Source.readText_ofBytes, Utf8.decode?_encode]
    rfl
  | file hfile =>
    rw [readText, Host.readText, Simulation.bind_apply, Simulation.openSource_apply,
      FileTree.openSource_of_present hfile]
    rfl
  | standardInput => rfl

/-- What is hashed as a stream. -/
theorem Origin.Holds.fst_hashStream (unify : Bool) (h : o.Holds w bytes) :
    ((o.hashStream unify : Simulation (Except ChecksumError Computed)) w).1 =
      (Computed.ofReader unify (Source.ofBytes bytes)).1 := by
  cases h with
  | argument text => rfl
  | file hfile =>
    rw [hashStream, Computed.ofFile, Simulation.bind_apply, Simulation.openSource_apply,
      FileTree.openSource_of_present hfile]
    rfl
  | standardInput => rfl

/-- Where nothing is done but within a footprint, the bytes stay, unless that very file may grow. -/
theorem Origin.Holds.of_still {f : Location → Footprint} {w' : World} (h : o.Holds w bytes)
    (hstill : World.Still f w w')
    (hstays : ∀ path, o = .file path → ¬ (f w.here).grown (place w.here path)) :
    o.Holds w' bytes := by
  cases h with
  | argument text => exact .argument text
  | file hfile =>
    have hstays' := hstays _ rfl
    rw [← FileTree.location_of_resolve hfile] at hstays'
    have hfile' := hstill.growth.resolve_present hfile (Or.inr hstays')
    rw [← hstill.here_eq] at hfile'
    exact .file hfile'
  | standardInput =>
    rw [← hstill.standardInput_eq]
    exact .standardInput

/-! ### Asking for a checksum -/

/-- A checksum is asked for: that of which content, under which settings, with which journal under
    way, and in which world. -/
structure Inquiry where
  input : Input
  settings : Settings
  journal : Log.Journal
  world : World

namespace Inquiry

/-- The mode in which content is taken. -/
def mode (q : Inquiry) : InputMode :=
  q.input.mode q.settings

/-- What is answered. -/
def result (q : Inquiry) : Except ContentError Checksum :=
  ((q.input.checksum q.settings q.journal : Simulation (Except ContentError Checksum)) q.world).1

/-- The world in which content is looked for: the journal has been told. -/
def lookout (q : Inquiry) : World :=
  (Simulation.announceContent q.input q.settings q.journal q.world).2

/-- The content that is asked for has these bytes when it is looked for. -/
def Finds (q : Inquiry) (bytes : List UInt8) : Prop :=
  q.input.origin.Holds q.lookout bytes

/-- The answer is the checksum of what is hashed. -/
theorem result_eq_map (q : Inquiry) :
    q.result = ((q.input.hash (q.input.unifies q.settings) q.mode :
      Simulation (Except ContentError Computed)) q.lookout).1.map Computed.checksum := by
  unfold result lookout Simulation.announceContent mode
  rw [Input.checksum, Simulation.bind_apply, Simulation.bind_apply]
  rcases (q.input.hash (q.input.unifies q.settings) (q.input.mode q.settings) :
    Simulation (Except ContentError Computed)) _ with ⟨_ | _, _⟩ <;> rfl

variable {q : Inquiry}

/-- **Six cases.** The answer for content with these bytes. -/
theorem Finds.result_eq (h : q.Finds bytes) :
    q.result = match q.mode with
      | .text =>
        match Utf8.decode? bytes with
        | some text => .ok (.ofText (String.ofList text))
        | none => .error (.text q.input.origin .notUtf8)
      | .stream => .ok (.ofBytes
          (if q.input.unifies q.settings then Newline.collapse bytes else bytes)) := by
  rw [result_eq_map]
  cases q.mode with
  | text =>
    -- the answer hangs on the text that is read, whichever way it is read
    have hread := h.fst_readText
    rw [Source.readText_ofBytes] at hread
    rw [Input.hash, Simulation.bind_apply]
    rcases hfound : (q.input.origin.readText : Simulation (Except Fault (List Char))) q.lookout with
      ⟨found, w'⟩
    rw [hfound] at hread
    obtain rfl := hread
    cases Utf8.decode? bytes <;> rfl
  | stream =>
    have hhashed := h.fst_hashStream (q.input.unifies q.settings)
    -- a stream always has a checksum, so that of these bytes is the one that is answered
    obtain ⟨computed, hcomputed, hchecksum⟩ :=
      Computed.exists_ofReader_ofBytes (q.input.unifies q.settings) bytes
    dsimp only
    rw [hcomputed] at hhashed
    rw [← hchecksum, Input.hash, Simulation.bind_apply]
    rcases hfound : (q.input.origin.hashStream (q.input.unifies q.settings) :
      Simulation (Except ChecksumError Computed)) q.lookout with ⟨hashed, w'⟩
    rw [hfound] at hhashed
    obtain rfl := hhashed
    rfl

/-- Content has its bytes still when it is looked for, unless it is the log file. -/
theorem finds_of_holds {env : Environment} {bytes : List UInt8} (hj : q.journal.BelongsTo env)
    (hlog : ∀ path, q.input.origin = .file path →
      env.logPlace? q.world.here ≠ some (place q.world.here path))
    (h : q.input.origin.Holds q.world bytes) : q.Finds bytes :=
  h.of_still (Simulation.keeps_record hj _ q.world) hlog

/-- Two that find the same bytes get the same checksum, or none, if they take them in the same mode. -/
theorem Finds.result_congr {q' : Inquiry} {bytes : List UInt8} (h : q.Finds bytes)
    (h' : q'.Finds bytes) (hmode : q.mode = q'.mode)
    (hunifies : q.mode = .stream → q.input.unifies q.settings = q'.input.unifies q'.settings) :
    q.result.toOption = q'.result.toOption := by
  rw [h.result_eq, h'.result_eq, ← hmode]
  cases hq : q.mode with
  | text => cases Utf8.decode? bytes <;> rfl
  | stream => rw [hunifies hq]

end Inquiry

end Command

/-! ### The inquiry of a run -/

namespace Invocation

/-- How a run asks for the checksum of its content, once it has loaded its settings. -/
def inquiry (i : Invocation) (t : FileTree) (input : Command.Input) (loaded : Settings.Loaded) :
    Command.Inquiry where
  input := input
  settings := loaded.settings
  journal := (Simulation.begun i.env (i.world t)).1
  world := (Simulation.announce (Simulation.begun i.env (i.world t)).1 loaded
    (Simulation.loading i.env (i.world t)).2).2

/-- A run asks for a checksum: its command line says so, and its settings have been loaded. -/
inductive Asks (i : Invocation) (t : FileTree) : Command.Inquiry → Prop
  | intro {input : Command.Input} {loaded : Settings.Loaded}
    (hline : Command.Request.ofLine i.line = .ok (.run (.compute input)))
    (hloaded : i.loaded t = .ok loaded) : Asks i t (i.inquiry t input loaded)

variable {i : Invocation} {t : FileTree} {q : Command.Inquiry}

/-- What is printed is the answer. -/
theorem Asks.outcome_eq (h : i.Asks t q) :
    i.outcome t = match q.result.toOption with
      | none => ("", .failure)
      | some c => (c.canonical ++ "\n", .success) := by
  obtain @⟨input, loaded, hline, hloaded⟩ := h
  have hresult : (i.inquiry t input loaded).result.toOption =
      (input.origin.source? (i.lookout t (.compute input) loaded)).bind
        (input.checksum? loaded.settings) :=
    (Simulation.checksum_spec (Simulation.belongsTo_start i.env (i.world t)) input loaded.settings
      (i.inquiry t input loaded).world).2
  rw [hresult]
  exact outcome_of_loaded hline hloaded

/-- Content that is there when a run begins is found, unless it is the log file. -/
theorem Asks.finds {bytes : List UInt8} (h : i.Asks t q)
    (hholds : q.input.origin.Holds (i.world t) bytes)
    (hlog : ∀ path, q.input.origin = .file path →
      i.env.logPlace? i.here ≠ some (place i.here path)) : q.Finds bytes := by
  obtain @⟨input, loaded, -, -⟩ := h
  have hj := Simulation.belongsTo_start i.env (i.world t)
  have hstarted := (Simulation.keeps_start i.env (i.world t)).mono i.env.journal_within_command
  have hloading := (Simulation.keeps_load i.env (Simulation.begun i.env (i.world t)).2).mono
    i.env.settings_within_command
  have hannounced := (Simulation.keeps_announce hj loaded
    (Simulation.loading i.env (i.world t)).2).mono i.env.journal_within_command
  have hasked := (Simulation.keeps_record hj
    (.computing (input.mode loaded.settings) (input.unifies loaded.settings))
    (i.inquiry t input loaded).world).mono i.env.journal_within_command
  refine hholds.of_still (hstarted.trans (hloading.trans (hannounced.trans hasked))) ?_
  rintro path horigin (hgrown | hgrown)
  · exact hlog path horigin hgrown
  · exact hgrown

end Invocation

/-! ### All ways at once -/

namespace Command.Inquiry

/-- **The way does not matter.** Content that is found as these bytes, be it on the command line, in a
    file or on the standard input, has this checksum: in text mode that of the text that the bytes
    encode, whatever is said about line breaks, and there is an error if they do not encode any; in
    stream mode that of the stream of these bytes, with the line breaks unified if the settings say
    so and the command line does not say otherwise.  A run that asks for it prints it in a line of its
    own and succeeds, or prints nothing and fails if there is an error.  So wherever else the same
    bytes are found, the checksum is the same, or there is none in either case, and what is printed
    is the same, if only the mode is the same and, for a stream, what becomes of line breaks. -/
theorem checksum_of_content {q q' : Inquiry} {bytes : List UInt8} (h : q.Finds bytes)
    (h' : q'.Finds bytes) :
    (q.mode = .text →
      (∀ text : String, bytes = Utf8.encode text.toList → q.result = .ok (.ofText text)) ∧
      (Utf8.decode? bytes = none → q.result = .error (.text q.input.origin .notUtf8))) ∧
    (q.mode = .stream → ∃ c,
      (Checksum.ofReader (q.settings.unifyLineBreaks && !q.input.rawLineBreaks)
        (Source.ofBytes bytes)).1 = .ok c ∧ q.result = .ok c) ∧
    (∀ (i : Invocation) (t : FileTree), i.Asks t q →
      i.outcome t = match q.result.toOption with
        | none => ("", .failure)
        | some c => (c.canonical ++ "\n", .success)) ∧
    (q.mode = q'.mode →
      (q.mode = .stream → q.input.unifies q.settings = q'.input.unifies q'.settings) →
      (∀ c, q.result = .ok c ↔ q'.result = .ok c) ∧
      ∀ (i i' : Invocation) (t t' : FileTree), i.Asks t q → i'.Asks t' q' →
        i.outcome t = i'.outcome t') := by
  have hresult := h.result_eq
  refine ⟨?_, ?_, fun i t hasks => hasks.outcome_eq, ?_⟩
  · intro hmode
    rw [hmode] at hresult
    constructor
    · rintro text rfl
      rw [hresult, Utf8.decode?_encode]
      dsimp only
      rw [String.ofList_toList]
    · intro hnone
      rw [hresult, hnone]
  · intro hmode
    rw [hmode] at hresult
    exact ⟨_, Checksum.ofReader_ofBytes _ bytes, hresult⟩
  · intro hmode hunifies
    -- errors name the origin, so the two answers agree only as far as they are checksums
    have hcongr := h.result_congr h' hmode hunifies
    refine ⟨fun c => ⟨fun hc => ?_, fun hc => ?_⟩, fun i i' t t' hasks hasks' => ?_⟩
    · rw [hc] at hcongr
      exact eq_ok_of_toOption hcongr.symm
    · rw [hc] at hcongr
      exact eq_ok_of_toOption hcongr
    · rw [hasks.outcome_eq, hasks'.outcome_eq, hcongr]

/-- Decomposed text with a CR LF in it is a text on the command line of one run and the content of a
    file for another; and bytes that encode none are taken from a file and from the standard input. -/
theorem checksum_of_argument_file_and_input :
    let text := "e\u0301\r\n\uFFFD"
    let t : FileTree :=
      ⟨[(["f"], .file (Utf8.encode text.toList)), (["g"], .file [0xff, 0x0d])]⟩
    let i : Invocation := ⟨⟨some "/h", none, none, none⟩, ["compute", text], [], [0xff, 0x0d], 0⟩
    let i' : Invocation := { i with line := ["compute", "--text", "--file", "f"] }
    let journal : Log.Journal := ⟨.standardError, .ofVariable none⟩
    let broken : Inquiry := ⟨⟨.file "g", some .stream, false⟩, .default, journal, i.world t⟩
    let piped : Inquiry := ⟨⟨.standardInput, none, false⟩, ⟨true, .stream⟩, journal, i.world t⟩
    (i.outcome t = ((Checksum.ofText text).canonical ++ "\n", .success) ∧
      i.outcome t = i'.outcome t) ∧
    ∃ c, broken.result = .ok c ∧ piped.result = .ok c := by
  intro text t i i' journal broken piped
  have hfile : ∀ name content,
      (i.world t).files.resolve [] name = .ok (.present [name] (.file content)) →
      Origin.Holds (i.world t) (.file name) content := fun name content h => .file h
  constructor
  · -- the two runs load the same settings
    obtain ⟨loaded, hloaded⟩ : ∃ loaded, i.loaded t = .ok loaded :=
      exists_ok_of_isSome (by decide +kernel)
    have hgiven : i.Asks t (i.inquiry t ⟨.argument text, none, false⟩ loaded) :=
      .intro (eq_ok_of_toOption (by decide +kernel)) hloaded
    have hfiled : i'.Asks t (i'.inquiry t ⟨.file "f", some .text, false⟩ loaded) :=
      .intro (eq_ok_of_toOption (by decide +kernel)) hloaded
    have hfinds := hgiven.finds (.argument text) nofun
    have hfinds' := hfiled.finds (hfile "f" _ rfl) (by rintro _ ⟨⟩; decide +kernel)
    obtain ⟨htext, -, hprints, hsame⟩ := checksum_of_content hfinds hfinds'
    have hok := (htext rfl).1 text rfl
    refine ⟨?_, (hsame rfl nofun).2 i i' t t hgiven hfiled⟩
    rw [hprints i t hgiven, hok]
    rfl
  · have hj : journal.BelongsTo i.env := nofun
    have hbroken : broken.Finds [0xff, 0x0d] :=
      finds_of_holds hj (by rintro _ ⟨⟩; decide +kernel) (hfile "g" _ rfl)
    have hpiped : piped.Finds [0xff, 0x0d] := finds_of_holds hj nofun .standardInput
    obtain ⟨-, hstream, -, hsame⟩ := checksum_of_content hbroken hpiped
    obtain ⟨c, -, hc⟩ := hstream rfl
    exact ⟨c, hc, ((hsame rfl (fun _ => rfl)).1 c).1 hc⟩

end Command.Inquiry

end ContentChecksum
