import ContentChecksum.Host.Simulation
import ContentChecksum.Proofs.GrowingTrees

namespace ContentChecksum

/-!
# What a simulated program does to its world

* `Simulation.bind_apply`, `Simulation.pure_apply` — one step of a program after another, in a world;
* `World.Grows` — a world that has changed as far as a footprint lets its tree grow; `World.Silent` —
  moreover nothing has been printed; `World.Still` — nor read, so that only the standard error tells;
* `Simulation.Keeps` — a program that leaves every world in a given relation to what it was.  A program
  keeps what its steps keep (`Keeps.bind`), and there is a lemma for each operation of the host that
  a run is made of.
-/

/-! ### How a world changes -/

namespace World

variable {f g : Location → Footprint} {w w' w'' : World}

/-- The tree has grown, and the current directory is the same. -/
structure Grows (f : Location → Footprint) (w w' : World) : Prop where
  here_eq : w'.here = w.here
  growth : FileTree.Growth w.here (f w.here) w.files w'.files

/-- The tree has grown, and nothing has been printed. -/
structure Silent (f : Location → Footprint) (w w' : World) : Prop extends Grows f w w' where
  output_eq : w'.output = w.output

/-- The tree has grown, and nothing has been read or printed. -/
structure Still (f : Location → Footprint) (w w' : World) : Prop extends Silent f w w' where
  standardInput_eq : w'.standardInput = w.standardInput

/-- A world has grown if nothing has happened to it. -/
theorem Grows.refl (w : World) : Grows f w w :=
  ⟨rfl, .refl⟩

/-- Growing goes on: the current directory stays, so the footprint is the same one. -/
theorem Grows.trans (h : Grows f w w') (h' : Grows f w' w'') : Grows f w w'' where
  here_eq := h'.here_eq.trans h.here_eq
  growth := h.growth.trans (h.here_eq ▸ h'.growth)

/-- A wider footprint allows what a narrower one does. -/
theorem Grows.mono (hfg : ∀ here, (f here).Within (g here)) (h : Grows f w w') : Grows g w w' :=
  ⟨h.here_eq, h.growth.mono (hfg w.here)⟩

/-- Where nothing happens, nothing is printed. -/
theorem Silent.refl (w : World) : Silent f w w :=
  ⟨.refl w, rfl⟩

/-- Two silent stretches are silent together. -/
theorem Silent.trans (h : Silent f w w') (h' : Silent f w' w'') : Silent f w w'' :=
  ⟨h.toGrows.trans h'.toGrows, h'.output_eq.trans h.output_eq⟩

/-- So it is where nothing is printed. -/
theorem Silent.mono (hfg : ∀ here, (f here).Within (g here)) (h : Silent f w w') : Silent g w w' :=
  ⟨h.toGrows.mono hfg, h.output_eq⟩

/-- A world that nothing happens to is still. -/
theorem Still.refl (w : World) : Still f w w :=
  ⟨.refl w, rfl⟩

/-- Two stretches without reading are one without reading. -/
theorem Still.trans (h : Still f w w') (h' : Still f w' w'') : Still f w w'' :=
  ⟨h.toSilent.trans h'.toSilent, h'.standardInput_eq.trans h.standardInput_eq⟩

/-- And where nothing is read. -/
theorem Still.mono (hfg : ∀ here, (f here).Within (g here)) (h : Still f w w') : Still g w w' :=
  ⟨h.toSilent.mono hfg, h.standardInput_eq⟩

instance : Std.Refl (Grows f) := ⟨Grows.refl⟩

instance : Trans (Grows f) (Grows f) (Grows f) := ⟨Grows.trans⟩

instance : Std.Refl (Silent f) := ⟨Silent.refl⟩

instance : Trans (Silent f) (Silent f) (Silent f) := ⟨Silent.trans⟩

instance : Std.Refl (Still f) := ⟨Still.refl⟩

instance : Trans (Still f) (Still f) (Still f) := ⟨Still.trans⟩

end World

namespace Simulation

variable {α β : Type}

/-! ### Steps -/

/-- The next step runs in the world that the first one leaves. -/
theorem bind_apply (x : Simulation α) (f : α → Simulation β) (w : World) :
    (x >>= f) w = f (x w).1 (x w).2 := rfl

/-- A result alone changes nothing. -/
theorem pure_apply (a : α) (w : World) : (pure a : Simulation α) w = (a, w) := rfl

/-- Looking for a directory changes nothing. -/
theorem isDirectory_apply (path : String) (w : World) :
    (Host.isDirectory path : Simulation Bool) w = (w.files.isDirectory w.here path, w) := rfl

/-- Looking for anything changes nothing. -/
theorem has_apply (path : String) (w : World) :
    (Host.has path : Simulation Bool) w = (w.files.has w.here path, w) := rfl

/-- Opening a file changes nothing, for what is read of it is the reader's own. -/
theorem openSource_apply (path : String) (w : World) :
    (Host.openSource path : Simulation (Except Fault Source)) w =
      (w.files.openSource w.here path, w) := rfl

/-- A directory is made where its path leads to nothing, in a directory that is there. -/
theorem makeDirectory_apply (path : String) (w : World) :
    (Host.makeDirectory path : Simulation (Except Fault Unit)) w =
      match w.files.resolve w.here path with
      | .error fault => (.error fault, w)
      | .ok (.present _ _) => (.error .alreadyExists, w)
      | .ok (.vacant loc) => (.ok (), { w with files := w.files.put loc .directory }) := by
  show change (fun files here => files.makeDirectory here path) w = _
  rw [change, FileTree.makeDirectory]
  rcases w.files.resolve w.here path with fault | ⟨loc, e⟩ | loc <;> rfl

/-- A file gets its bytes whether it is there or not, if there is a place for it. -/
theorem write_apply (path : String) (bytes : List UInt8) (w : World) :
    (Host.write path bytes : Simulation (Except Fault Unit)) w =
      match w.files.resolve w.here path with
      | .error fault => (.error fault, w)
      | .ok (.present _ .directory) => (.error .isADirectory, w)
      | .ok (.present loc (.file _)) | .ok (.vacant loc) =>
        (.ok (), { w with files := w.files.put loc (.file bytes) }) := by
  show change (fun files here => files.write here path bytes) w = _
  rw [change, FileTree.write, FileTree.modifyFile]
  rcases w.files.resolve w.here path with fault | ⟨loc, c | _⟩ | loc <;> rfl

/-- Whatever the world, the program leaves it in a relation to what it was. -/
def Keeps (R : World → World → Prop) (x : Simulation α) : Prop :=
  ∀ w, R w (x w).2

section Keeps

variable {R : World → World → Prop} {x : Simulation α} {f : Location → Footprint}

/-- A result alone leaves every world as it is. -/
theorem Keeps.pure [Std.Refl R] (a : α) : Keeps R (pure a : Simulation α) :=
  fun w => Std.Refl.refl w

/-- **Sequences.** What both of two steps keep, whatever the first one answers, they keep together. -/
theorem Keeps.bind [Trans R R R] {y : α → Simulation β} (hx : Keeps R x) (hy : ∀ a, Keeps R (y a)) :
    Keeps R (x >>= y) :=
  fun w => Trans.trans (hx w) (hy (x w).1 (x w).2)

/-- An answer that is not used does not count. -/
theorem Keeps.discard (hx : Keeps R x) : Keeps R (discard x : Simulation PUnit) := hx

/-- What keeps worlds in a relation keeps them in any that follows from it. -/
theorem Keeps.mono {S : World → World → Prop} (hx : Keeps R x) (h : ∀ {w w'}, R w w' → S w w') :
    Keeps S x :=
  fun w => h (hx w)

/-- A program that does not read is as silent as it was. -/
theorem Keeps.silent (hx : Keeps (World.Still f) x) : Keeps (World.Silent f) x :=
  hx.mono World.Still.toSilent

/-- A program that does not print keeps within its footprint. -/
theorem Keeps.grows (hx : Keeps (World.Silent f) x) : Keeps (World.Grows f) x :=
  hx.mono World.Silent.toGrows

/-! ### Operations of the host -/

/-- Looking for a directory keeps anything. -/
theorem keeps_isDirectory [Std.Refl R] (path : String) :
    Keeps R (Host.isDirectory path : Simulation Bool) :=
  fun w => Std.Refl.refl w

/-- So does opening a file. -/
theorem keeps_openSource [Std.Refl R] (path : String) :
    Keeps R (Host.openSource path : Simulation (Except Fault Source)) :=
  fun w => Std.Refl.refl w

/-- So does asking for the time. -/
theorem keeps_now [Std.Refl R] : Keeps R (Host.now : Simulation Nat) :=
  fun w => Std.Refl.refl w

/-- Writing to the standard error leaves everything else alone. -/
theorem keeps_printError (text : String) :
    Keeps (World.Still f) (Host.printError text : Simulation Unit) :=
  fun _ => ⟨⟨⟨rfl, .refl⟩, rfl⟩, rfl⟩

/-- Printing leaves the tree alone. -/
theorem keeps_print (text : String) :
    Keeps (World.Grows f) (Host.print text : Simulation Unit) :=
  fun _ => ⟨rfl, .refl⟩

/-- Taking the standard input prints nothing, and leaves the tree alone. -/
theorem keeps_input : Keeps (World.Silent f) (Host.input : Simulation Source) :=
  fun _ => ⟨⟨rfl, .refl⟩, rfl⟩

/-- A change of the tree is all that such an operation does. -/
theorem keeps_change {operation : FileTree → Location → Except Fault FileTree}
    (h : ∀ {t t' here}, operation t here = .ok t' → FileTree.Growth here (f here) t t') :
    Keeps (World.Still f) (change operation) := by
  intro w
  rw [change]
  cases hop : operation w.files w.here with
  | error fault => exact .refl w
  | ok files => exact ⟨⟨⟨rfl, h hop⟩, rfl⟩, rfl⟩

/-- Making a directory is within a footprint that lets it be made. -/
theorem keeps_makeDirectory {path : String}
    (h : ∀ here, (f here).fresh (Path.place here path) .directory) :
    Keeps (World.Still f) (Host.makeDirectory path : Simulation (Except Fault Unit)) := by
  refine keeps_change fun {t t' here} hmake => ?_
  rw [FileTree.makeDirectory] at hmake
  split at hmake
  · cases hmake
  · cases hmake
  · rename_i loc hvacant
    obtain rfl := Except.ok.inj hmake
    obtain rfl : loc = _ := FileTree.location_of_resolve hvacant
    exact .put .refl hvacant (h here)

/-- Adding to a file is within a footprint that lets it grow, and be made if it is not there. -/
theorem keeps_append {path : String}
    (hfresh : ∀ here c, (f here).fresh (Path.place here path) (.file c))
    (hgrown : ∀ here, (f here).grown (Path.place here path)) (bytes : List UInt8) :
    Keeps (World.Still f) (Host.append path bytes : Simulation (Except Fault Unit)) := by
  refine keeps_change fun {t t' here} happend => ?_
  rw [FileTree.append, FileTree.modifyFile] at happend
  split at happend
  · cases happend
  · rename_i loc c hfile
    obtain rfl := Except.ok.inj happend
    obtain rfl : loc = _ := FileTree.location_of_resolve hfile
    exact .extend .refl hfile (hgrown here) bytes
  · cases happend
  · rename_i loc hvacant
    obtain rfl := Except.ok.inj happend
    obtain rfl : loc = _ := FileTree.location_of_resolve hvacant
    exact .put .refl hvacant (hfresh here _)

end Keeps

end Simulation

end ContentChecksum
