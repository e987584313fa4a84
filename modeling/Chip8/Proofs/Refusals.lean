import Chip8.Proofs.OrdinaryErrors
import Chip8.Settings

/-!
# Refusals of settings, files and pictures

Settings can be refused for many reasons: a reference leads nowhere, a value is of the wrong kind,
there is no such setting. Each part of a job keeps its refusal until its turn comes. None of these
refusals is a machine error, neither those of the tree (`Job.ordinary_ofValue`) nor those that the
job takes along (`Job.isOrdinary_ofValue`), and so the configuration of its host brings none either
(`Config.isOrdinary_ofSettings`). The same holds of the files in a folder
(`Folder.isOrdinary_access`), and of pictures if it holds of the files that they are written to.
-/

namespace Chip8

/-! ## Values -/

namespace Value

theorem ordinary_whole (v : Value) : Ordinary v.whole := by
  unfold whole
  split
  · exact avoids_error rfl
  · exact avoids_error rfl
  · exact avoids_error rfl
  · exact avoids_ok _
  · exact avoids_ok _
  · split
    · exact avoids_ok _
    · exact avoids_error rfl
  · exact avoids_error rfl

theorem ordinary_count (purpose : Purpose) (v : Value) : Ordinary (v.count purpose) := by
  unfold count
  split
  · exact avoids_ok _
  · exact avoids_ok _
  · exact avoids_error rfl

theorem ordinary_seed (v : Value) : Ordinary v.seed := by
  unfold seed
  split
  · exact avoids_error rfl
  · exact avoids_ok _

theorem ordinary_scale (v : Value) : Ordinary v.scale := by
  unfold scale
  split
  · exact avoids_ok _
  · exact avoids_ok _
  · exact avoids_error rfl
  · exact avoids_ok _
  · exact avoids_ok _
  · exact avoids_error rfl

theorem ordinary_time {refusal : Kind → Error} (h : ∀ kind, (refusal kind).isMachineError = false)
    (v : Value) : Ordinary (v.time refusal) := by
  unfold time
  split
  · exact avoids_ok _
  · exact avoids_ok _
  · exact avoids_error (h _)

/-- References are followed for so many rounds. -/
theorem ordinary_contents (rounds : Nat) (found : Found) : Ordinary (contents rounds found) := by
  induction rounds generalizing found with
  | zero => exact avoids_error rfl
  | succ rounds ih =>
      rw [contents]
      by_cases unset : found.value.isUnset = true
      · rw [if_pos unset]
        exact avoids_error rfl
      · rw [if_neg unset]
        dsimp only [pure, bind, Except.pure, Except.bind]
        split
        · split
          · exact avoids_error rfl
          · exact avoids_error rfl
        · exact (avoids_mapM fun child _ => (ih _).map _).bind fun _ => avoids_ok _

theorem ordinary_resolved (tree : Value) : Ordinary tree.resolved := ordinary_contents _ _

end Value

theorem Pace.ordinary_ofValue (v : Value) : Ordinary (Pace.ofValue v).run ∧
    Ordinary (Pace.ofValue v).counted := by
  refine ⟨?_, Value.ordinary_count _ v⟩
  unfold ofValue
  dsimp only
  split
  · exact avoids_error rfl
  · split
    · exact avoids_error rfl
    · exact Value.ordinary_whole _

/-! ## Settings of a host -/

def Setting.IsOrdinary : Setting → Prop
  | cyclesPerFrame pace => Ordinary pace.run ∧ Ordinary pace.counted
  | reportInterval interval => Ordinary interval
  | refused e => e.isMachineError = false
  | modern _ | strictLoad _ | seed _ | logLevel _ | other _ => True

theorem Setting.isOrdinary_ofField (field : String × Value) :
    (Setting.ofField field).IsOrdinary := by
  unfold ofField
  split
  · exact Pace.ordinary_ofValue _
  · trivial
  · trivial
  · next v =>
      have seed := v.ordinary_seed
      split
      · trivial
      · next e he => exact seed e he
  · trivial
  · rfl
  · exact Value.ordinary_time (fun _ => rfl) _
  · trivial

namespace Config

structure IsOrdinary (c : Config) : Prop where
  run : Ordinary c.cyclesPerFrame.run
  counted : Ordinary c.cyclesPerFrame.counted
  interval : Ordinary c.reportInterval

variable {c d : Config} {s : Setting} {settings : List Setting}

theorem isOrdinary_default : ({} : Config).IsOrdinary := ⟨avoids_ok _, avoids_ok _, avoids_ok _⟩

theorem ordinary_assign (hs : s.IsOrdinary) (c : Config) : Ordinary (c.assign s) := by
  cases s with
  | refused e => exact avoids_error hs
  | other name => exact avoids_error rfl
  | _ => exact avoids_ok _

theorem IsOrdinary.assign (hc : c.IsOrdinary) (hs : s.IsOrdinary) (assigned : c.assign s = .ok d) :
    d.IsOrdinary := by
  cases s with
  | cyclesPerFrame pace =>
      obtain rfl := Except.ok.inj assigned
      exact ⟨hs.1, hs.2, hc.interval⟩
  | reportInterval interval =>
      obtain rfl := Except.ok.inj assigned
      exact ⟨hc.run, hc.counted, hs⟩
  | modern _ | strictLoad _ | seed _ | logLevel _ =>
      obtain rfl := Except.ok.inj assigned
      exact ⟨hc.run, hc.counted, hc.interval⟩
  | refused _ | other _ => cases assigned

/-- What is changed by ordinary settings, one after another, stays ordinary. -/
theorem IsOrdinary.of_foldlM (hc : c.IsOrdinary) (hs : ∀ s ∈ settings, s.IsOrdinary)
    (h : settings.foldlM Config.assign c = .ok d) : d.IsOrdinary := by
  induction settings generalizing c with
  | nil =>
      obtain rfl := Except.ok.inj h
      exact hc
  | cons s settings ih =>
      rw [List.foldlM_cons] at h
      obtain ⟨next, assigned, h⟩ := exists_of_bind_ok h
      exact ih (hc.assign (hs s List.mem_cons_self) assigned)
        (fun t ht => hs t (List.mem_cons_of_mem s ht)) h

theorem ordinary_ofSettings (hs : ∀ s ∈ settings, s.IsOrdinary) :
    Ordinary (ofSettings settings) := by
  rw [ofSettings]
  split
  · exact avoids_error rfl
  · exact avoids_foldlM (fun c s h => ordinary_assign (hs s h) c) _

theorem isOrdinary_ofSettings (hs : ∀ s ∈ settings, s.IsOrdinary)
    (h : ofSettings settings = .ok c) : c.IsOrdinary := by
  rw [ofSettings] at h
  split at h
  · cases h
  · exact isOrdinary_default.of_foldlM hs h

end Config

/-! ## Jobs -/

namespace Job

structure IsOrdinary (job : Job) : Prop where
  program : Ordinary job.program
  frames : Ordinary job.frames
  scheme : Ordinary job.scheme
  scale : Ordinary job.scale
  settings : ∀ s ∈ job.settings, s.IsOrdinary

theorem ordinary_programName (v : Value) : Ordinary (programName v) := by
  unfold programName
  split
  · exact avoids_ok _
  · split
    · split
      · exact avoids_error rfl
      · exact avoids_error rfl
    · exact avoids_error rfl

theorem ordinary_schemeName (v : Value) : Ordinary (schemeName v) := by
  unfold schemeName
  split
  · exact avoids_error rfl
  · exact avoids_ok _

theorem ordinary_frameCount (v : Value) (progress : Bool) : Ordinary (frameCount v progress) := by
  unfold frameCount
  split
  · exact Value.ordinary_count _ v
  · split
    · exact avoids_error rfl
    · exact Value.ordinary_count _ v

/-- A tree that describes no job is refused with an ordinary error. -/
theorem ordinary_ofValue (settings : Value) : Ordinary (ofValue settings) := by
  refine (Value.ordinary_resolved settings).bind fun settings => ?_
  dsimp only
  split
  · exact avoids_ok _
  · exact avoids_error rfl

/-- A job that a tree describes brings no machine error with it. -/
theorem isOrdinary_ofValue {settings : Value} {job : Job} (h : ofValue settings = .ok job) :
    job.IsOrdinary := by
  obtain ⟨settings, -, h⟩ := exists_of_bind_ok h
  dsimp only at h
  split at h
  · obtain rfl := Except.ok.inj h
    refine ⟨ordinary_programName _, ordinary_frameCount _ _, ordinary_schemeName _,
      Value.ordinary_scale _, ?_⟩
    intro s hs
    obtain ⟨field, -, rfl⟩ := List.mem_map.mp hs
    exact Setting.isOrdinary_ofField field
  · cases h

end Job

/-! ## Files and pictures -/

structure Files.IsOrdinary (files : Files) : Prop where
  read : ∀ path, Ordinary (files.read path)
  writable : ∀ path, Ordinary (files.writable path)

namespace Folder

theorem ordinary_parts (path : String) : Ordinary (parts path) := by
  unfold parts
  split
  · exact avoids_error rfl
  · split
    · exact avoids_error rfl
    · split
      · exact avoids_error rfl
      · exact avoids_ok _

theorem ordinary_enter (f : Folder) (path : String) (place : Place) (part : String) :
    Ordinary (f.enter path place part) := by
  unfold enter
  split
  · exact avoids_error rfl
  · split
    · exact avoids_ok _
    · split
      · exact avoids_ok _
      · split
        · exact avoids_error rfl
        · split
          · exact avoids_ok _
          · exact avoids_error rfl

theorem ordinary_walk (f : Folder) (path : String) (parts : List String) :
    Ordinary (f.walk path parts) :=
  avoids_foldlM (fun place part _ => f.ordinary_enter path place part) _

theorem ordinary_read (f : Folder) (path : String) : Ordinary (f.read path) := by
  refine (ordinary_parts path).bind fun parts => (f.ordinary_walk path parts).bind fun place => ?_
  split
  · exact avoids_ok _
  · exact avoids_error rfl

theorem ordinary_write (f : Folder) (path : String) (bytes : List UInt8) :
    Ordinary (f.write path bytes) := by
  refine (ordinary_parts path).bind fun parts => ?_
  dsimp only
  split
  · exact avoids_error rfl
  · refine (f.ordinary_walk path _).bind fun place => ?_
    split
    · exact avoids_error rfl
    · split
      · exact avoids_error rfl
      · split
        · exact avoids_error rfl
        · split
          · exact avoids_ok _
          · exact avoids_ok _

/-- The files in a folder are an example. -/
theorem isOrdinary_access (f : Folder) : f.access.IsOrdinary :=
  ⟨f.ordinary_read, fun path => (f.ordinary_write path []).map _⟩

end Folder

namespace Picture

theorem ordinary_fitting (space : Int) (dimensions : List Int) :
    Ordinary (fitting space dimensions) := by
  unfold fitting
  split
  · exact avoids_error rfl
  · split
    · exact avoids_error rfl
    · split
      · exact avoids_error rfl
      · exact avoids_ok _

theorem ordinary_magnified (space : Int) {w h : Nat} (b : Bitmap w h) (scale : Int)
    (on off : Paint) : Ordinary (magnified space b scale on off) := by
  rw [magnified]
  by_cases large : scaleLimit ≤ scale
  · rw [if_pos large]
    exact avoids_error rfl
  · rw [if_neg large]
    change Ordinary (if scale ≤ 1 then _ else _)
    split
    · exact avoids_ok _
    · refine (ordinary_fitting _ _).bind fun _ => (ordinary_fitting _ _).bind fun _ => ?_
      dsimp only
      split
      · exact avoids_error rfl
      · exact avoids_ok _

theorem ordinary_filed (p : Picture) : Ordinary p.filed := by
  unfold filed
  split
  · exact avoids_error rfl
  · split
    · exact avoids_error rfl
    · exact avoids_ok _

theorem ordinary_named (name : String) : Ordinary (ColourScheme.named name) := by
  unfold ColourScheme.named
  split
  · exact avoids_ok _
  · exact avoids_error rfl

variable {files : Files} {scale : Except Error Int}

theorem ordinary_forFile (access : files.IsOrdinary) (space : Int) {w h : Nat} (b : Bitmap w h)
    (path : String) (hscale : Ordinary scale) (scheme : String) :
    Ordinary (forFile space b files path scale scheme) := by
  refine (ordinary_named scheme).bind fun scheme => hscale.bind fun scale => ?_
  refine (ordinary_magnified space b scale _ _).bind fun picture => ?_
  refine picture.ordinary_filed.bind fun _ => ?_
  dsimp only
  split
  · exact avoids_error rfl
  · refine Avoids.bind (access.writable path) fun _ => ?_
    split
    · exact avoids_error rfl
    · exact avoids_ok _

end Picture

end Chip8
