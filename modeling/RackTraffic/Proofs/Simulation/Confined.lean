import RackTraffic.Proofs.Disk.Agreement
import RackTraffic.Proofs.Simulation.Files
import RackTraffic.Proofs.Simulation.Step

/-!
# What a pair does to the disk

A pair *owns* the places of its three files in the output directory (`PairId.Owns`), and no place is
owned by two pairs (`owner_unique`). An action is *local* to a pair if it changes nothing but what
the pair owns, and if its outcome and what it leaves there depend on nothing else that any pair owns
(`IsLocal`). The steps of a pair are local to it (`isLocal_clear`, `isLocal_settle`), provided that
its simulator is confined to the files of the job (`Simulator.ConfinedTo`, `isLocal_simulator`).

All this is relative to a disk `b`, the disk on which the work starts. On every disk that the work
leads to, the paths of the files lead to the same places as on `b` (`Nearby.locate_eq`).
-/

namespace RackTraffic

/-- A simulator that keeps to the files of a job. -/
structure Simulator.ConfinedTo (simulator : Simulator) (job : Job) : Prop where
  /-- What it does depends only on the directories and on the files of the job. -/
  reads : ∀ d e : Disk, d.SameDirectories e →
    (∀ path ∈ [job.flowLog, job.allocationLog, job.output, job.console], d.AgreeAt e path) →
      (simulator job d).1 = (simulator job e).1 ∧
        ∀ path ∈ [job.output, job.console], ∀ place, d.locate path = .ok place →
          (simulator job d).2.at? place = (simulator job e).2.at? place
  /-- It neither makes nor removes a directory. -/
  directories : ∀ d : Disk, d.SameDirectories (simulator job d).2
  /-- It changes nothing but the output and the console file. -/
  writes : ∀ (d : Disk) (place : Place),
    (∀ path ∈ [job.output, job.console], d.locate path ≠ .ok place) →
      d.at? place = (simulator job d).2.at? place

variable {results : Path} {b d d' e : Disk} {id : PairId} {name : String} {place : Place}

/-! ## Places of pairs -/

/-- A place is that of a file of a pair. -/
def PairId.Owns (id : PairId) (results : Path) (b : Disk) (place : Place) : Prop :=
  ∃ name ∈ id.workNames, b.locate (results.join name) = .ok place

theorem owns_of_mem (hname : name ∈ id.workNames)
    (hplace : b.locate (results.join name) = .ok place) : id.Owns results b place :=
  ⟨name, hname, hplace⟩

/-- Names that lead to one place are the same. -/
theorem name_unique {name' : String} (hname : IsEntryName name) (hname' : IsEntryName name')
    (h : b.locate (results.join name) = .ok place)
    (h' : b.locate (results.join name') = .ok place) : name = name' := by
  obtain ⟨-, p, -, -, hplace⟩ := (Disk.locate_join hname).mp h
  obtain ⟨-, p', -, -, hplace'⟩ := (Disk.locate_join hname').mp h'
  exact (List.cons.inj (hplace.symm.trans hplace')).1

/-- A place has one owner. -/
theorem owner_unique {id' : PairId} (h : id.Owns results b place) (h' : id'.Owns results b place) :
    id = id' := by
  obtain ⟨name, hname, hplace⟩ := h
  obtain ⟨name', hname', hplace'⟩ := h'
  have heq : name = name' := name_unique (PairId.isEntryName_of_mem_workNames hname)
    (PairId.isEntryName_of_mem_workNames hname') hplace hplace'
  exact PairId.eq_of_mem_workNames hname (heq ▸ hname')

/-- The root has no owner. -/
theorem ne_nil_of_owns (h : id.Owns results b place) : place ≠ [] := by
  obtain ⟨name, hname, hplace⟩ := h
  obtain ⟨-, p, -, -, rfl⟩ :=
    (Disk.locate_join (PairId.isEntryName_of_mem_workNames hname)).mp hplace
  exact List.cons_ne_nil _ _

/-! ## Disks that the work leads to -/

/-- A disk that differs from `b` only in files of pairs. -/
structure Nearby (results : Path) (b d : Disk) : Prop where
  directories : b.SameDirectories d
  at?_eq : ∀ place, (∀ id : PairId, ¬ id.Owns results b place) → b.at? place = d.at? place

theorem Nearby.refl (results : Path) (b : Disk) : Nearby results b b :=
  ⟨.refl b, fun _ _ => rfl⟩

/-- The files of pairs stay where they are. -/
theorem Nearby.locate_eq (h : Nearby results b d) (hname : name ∈ id.workNames) :
    d.locate (results.join name) = b.locate (results.join name) := by
  have hbut : b.SameButIn results d := by
    refine ⟨h.directories, fun place hplace => h.at?_eq place ?_⟩
    rintro other ⟨name', hname', hlocate⟩
    exact hplace name' (PairId.isEntryName_of_mem_workNames hname') hlocate
  exact (hbut.locate_join (PairId.isEntryName_of_mem_workNames hname)).symm

/-- Two disks have the same files of a pair. -/
def PairId.SameOn (id : PairId) (results : Path) (b d e : Disk) : Prop :=
  ∀ place, id.Owns results b place → d.at? place = e.at? place

theorem Nearby.agreeAt (hd : Nearby results b d) (he : Nearby results b e)
    (hsame : id.SameOn results b d e) (hname : name ∈ id.workNames) :
    d.AgreeAt e (results.join name) := by
  refine ⟨(hd.locate_eq hname).trans (he.locate_eq hname).symm, fun place hplace => ?_⟩
  rw [hd.locate_eq hname] at hplace
  exact hsame place (owns_of_mem hname hplace)

/-- No file of a pair becomes a directory. -/
theorem Nearby.isDirectory_eq_false (hd : Nearby results b d) (hname : name ∈ id.workNames)
    (h : b.isDirectory (results.join name) = false) :
    d.isDirectory (results.join name) = false := by
  rw [Bool.eq_false_iff] at h ⊢
  intro hdirectory
  obtain ⟨place, hlocate, hentry⟩ := Disk.isDirectory_iff.mp hdirectory
  rw [hd.locate_eq hname] at hlocate
  exact h (Disk.isDirectory_iff.mpr ⟨place, hlocate, (hd.directories.directory place).mpr hentry⟩)

/-- Nothing has changed but what a pair owns. -/
structure PairId.Touches (id : PairId) (results : Path) (b d d' : Disk) : Prop where
  directories : d.SameDirectories d'
  at?_eq : ∀ place, ¬ id.Owns results b place → d.at? place = d'.at? place

theorem PairId.Touches.refl : id.Touches results b d d := ⟨.refl d, fun _ _ => rfl⟩

theorem Nearby.touch (hd : Nearby results b d) (h : id.Touches results b d d') :
    Nearby results b d' :=
  ⟨hd.directories.trans h.directories, fun place hplace =>
    (hd.at?_eq place hplace).trans (h.at?_eq place (hplace id))⟩

theorem PairId.Touches.trans {d'' : Disk} (h : id.Touches results b d d')
    (h' : id.Touches results b d' d'') : id.Touches results b d d'' :=
  ⟨h.directories.trans h'.directories, fun place hplace =>
    (h.at?_eq place hplace).trans (h'.at?_eq place hplace)⟩

theorem touches_take (howns : id.Owns results b place) (hfile : d.at? place ≠ some .directory) :
    id.Touches results b d (d.take place) := by
  refine ⟨Disk.sameDirectories_take hfile, fun q hq => ?_⟩
  rw [Disk.at?_take _ _ _ (ne_nil_of_owns howns), if_neg]
  rintro rfl
  exact hq howns

theorem touches_put {entry : Entry} (howns : id.Owns results b place)
    (hfile : d.at? place ≠ some .directory) (hentry : entry ≠ .directory) :
    id.Touches results b d (d.put place entry) := by
  refine ⟨Disk.sameDirectories_put hfile hentry, fun q hq => ?_⟩
  rw [Disk.at?_put _ _ _ _ (ne_nil_of_owns howns), if_neg]
  rintro rfl
  exact hq howns

theorem PairId.SameOn.take (h : id.SameOn results b d e) (hplace : place ≠ []) :
    id.SameOn results b (d.take place) (e.take place) := by
  intro q hq
  rw [Disk.at?_take _ _ _ hplace, Disk.at?_take _ _ _ hplace, h q hq]

theorem PairId.SameOn.put (h : id.SameOn results b d e) (hplace : place ≠ []) (entry : Entry) :
    id.SameOn results b (d.put place entry) (e.put place entry) := by
  intro q hq
  rw [Disk.at?_put _ _ _ _ hplace, Disk.at?_put _ _ _ _ hplace, h q hq]

/-! ## Local actions -/

/-- An action that does not leave what a pair owns. -/
structure IsLocal {ε α : Type} (id : PairId) (results : Path) (b : Disk)
    (act : DiskAction ε α) : Prop where
  touches : ∀ d, Nearby results b d → id.Touches results b d (act d).2
  same : ∀ d e, Nearby results b d → Nearby results b e → id.SameOn results b d e →
    (act d).1 = (act e).1 ∧ id.SameOn results b (act d).2 (act e).2

namespace IsLocal

variable {ε ε' α β : Type}

theorem throw (fault : ε) : IsLocal id results b (throw fault : DiskAction ε α) :=
  ⟨fun _ _ => .refl, fun _ _ _ _ hsame => ⟨rfl, hsame⟩⟩

theorem mapFailure {act : DiskAction ε α} (h : IsLocal id results b act) (f : ε → ε') :
    IsLocal id results b (act.mapFailure f) :=
  ⟨h.touches, fun d e hd he hsame =>
    ⟨congrArg (Except.mapError f) (h.same d e hd he hsame).1, (h.same d e hd he hsame).2⟩⟩

theorem bind {act : DiskAction ε α} {f : α → DiskAction ε β} (h : IsLocal id results b act)
    (hf : ∀ a, IsLocal id results b (f a)) : IsLocal id results b (act >>= f) := by
  constructor
  · intro d hd
    have htouches := h.touches d hd
    rw [DiskAction.bind_apply]
    rcases hact : act d with ⟨r, d'⟩
    rw [hact] at htouches
    cases r with
    | error fault => exact htouches
    | ok a => exact htouches.trans ((hf a).touches d' (hd.touch htouches))
  · intro d e hd he hsame
    have hd' := hd.touch (h.touches d hd)
    have he' := he.touch (h.touches e he)
    obtain ⟨hr, hsame'⟩ := h.same d e hd he hsame
    rw [DiskAction.bind_apply, DiskAction.bind_apply]
    rcases hact : act d with ⟨r, d'⟩
    rcases hact' : act e with ⟨r', e'⟩
    rw [hact] at hd' hsame' hr
    rw [hact'] at he' hsame' hr
    cases hr
    cases r with
    | error fault => exact ⟨rfl, hsame'⟩
    | ok a => exact (hf a).same d' e' hd' he' hsame'

end IsLocal

/-- The path of a file of a pair leads to what the pair owns. -/
theorem owns_of_resolve (hd : Nearby results b d) (hname : name ∈ id.workNames)
    (h : d.resolve (results.join name) = .ok place) : id.Owns results b place := by
  have hlocate := Disk.locate_of_resolve h
  rw [hd.locate_eq hname] at hlocate
  exact owns_of_mem hname hlocate

theorem owns_of_find {entry : Entry} (hd : Nearby results b d) (hname : name ∈ id.workNames)
    (h : d.find (results.join name) = .ok (place, entry)) : id.Owns results b place :=
  owns_of_resolve hd hname (Disk.find_eq_ok.mp h).1

theorem isLocal_removeIfPresent (hname : name ∈ id.workNames)
    (h : b.isDirectory (results.join name) = false) :
    IsLocal id results b (Disk.removeIfPresent (results.join name)) := by
  constructor
  · intro d hd
    have hdirectory := hd.isDirectory_eq_false hname h
    rw [Disk.removeIfPresent_eq hdirectory]
    cases hfind : d.find (results.join name) with
    | error error => cases error <;> exact .refl
    | ok found =>
      obtain ⟨place, entry⟩ := found
      have hlocate := Disk.locate_of_resolve (Disk.find_eq_ok.mp hfind).1
      exact touches_take (owns_of_find hd hname hfind)
        (Disk.ne_directory_of_locate hdirectory hlocate)
  · intro d e hd he hsame
    rw [Disk.removeIfPresent_eq (hd.isDirectory_eq_false hname h),
      Disk.removeIfPresent_eq (he.isDirectory_eq_false hname h),
      ← (hd.agreeAt he hsame hname).find_eq]
    cases hfind : d.find (results.join name) with
    | error error => cases error <;> exact ⟨rfl, hsame⟩
    | ok found => exact ⟨rfl, hsame.take (ne_nil_of_owns (owns_of_find hd hname hfind))⟩

/-- What is found where no directory is, is no directory. -/
theorem ne_directory_of_find {path : Path} {entry : Entry} (h : d.isDirectory path = false)
    (hfind : d.find path = .ok (place, entry)) : entry ≠ .directory := by
  rintro rfl
  rw [Disk.isDirectory_of_find hfind] at h
  cases h

/-- A change of the disk is local if it is so where it does not fail. -/
theorem isLocal_change {f : Disk → Except SimulationFault Disk}
    (htouches : ∀ d d', Nearby results b d → f d = .ok d' → id.Touches results b d d')
    (hsame : ∀ d e, Nearby results b d → Nearby results b e → id.SameOn results b d e →
      (∃ fault, f d = .error fault ∧ f e = .error fault) ∨
        ∃ d' e', f d = .ok d' ∧ f e = .ok e' ∧ id.SameOn results b d' e') :
    IsLocal id results b (DiskAction.change f) := by
  constructor
  · intro d hd
    cases hf : f d with
    | error fault => simp [DiskAction.change, hf, PairId.Touches.refl]
    | ok d' => simpa [DiskAction.change, hf] using htouches d d' hd hf
  · intro d e hd he h
    rcases hsame d e hd he h with ⟨fault, hfd, hfe⟩ | ⟨d', e', hfd, hfe, h'⟩
    · simpa [DiskAction.change, hfd, hfe] using h
    · simpa [DiskAction.change, hfd, hfe] using h'

section

variable {source target : String} (hsource : source ∈ id.workNames)
  (htarget : target ∈ id.workNames) (hsourceFile : b.isDirectory (results.join source) = false)
  (htargetFile : b.isDirectory (results.join target) = false)
include hsource htarget hsourceFile htargetFile

/-- What renaming does on a disk that the work leads to. -/
theorem Nearby.rename_eq (hd : Nearby results b d) :
    d.rename (results.join source) (results.join target) =
      (d.find (results.join source)).bind fun (sourcePlace, entry) =>
        (d.resolve (results.join target)).bind fun targetPlace =>
          .ok (if sourcePlace = targetPlace then d
            else (d.take sourcePlace).put targetPlace entry) :=
  Disk.rename_eq (hd.isDirectory_eq_false hsource hsourceFile)
    (hd.isDirectory_eq_false htarget htargetFile)
    (Path.endsInName_join (PairId.isEntryName_of_mem_workNames htarget))
    (Path.endsInSlash_join (PairId.isEntryName_of_mem_workNames htarget))

theorem Nearby.rename_touches (hd : Nearby results b d)
    (h : d.rename (results.join source) (results.join target) = .ok d') :
    id.Touches results b d d' := by
  rw [hd.rename_eq hsource htarget hsourceFile htargetFile] at h
  cases hfind : d.find (results.join source) with
  | error error => simp [hfind, Except.bind] at h
  | ok found =>
    obtain ⟨sourcePlace, entry⟩ := found
    cases hresolve : d.resolve (results.join target) with
    | error error => simp [hfind, hresolve, Except.bind] at h
    | ok targetPlace =>
      simp only [hfind, hresolve, Except.bind, Except.ok.injEq] at h
      subst h
      split_ifs with hplace
      · exact .refl
      have hsourceOwns := owns_of_find hd hsource hfind
      have hentry := ne_directory_of_find (hd.isDirectory_eq_false hsource hsourceFile) hfind
      refine (touches_take hsourceOwns ?_).trans
        (touches_put (owns_of_resolve hd htarget hresolve) ?_ hentry)
      · rw [(Disk.find_eq_ok.mp hfind).2]
        exact fun h => hentry (Option.some.inj h)
      · rw [Disk.at?_take _ _ _ (ne_nil_of_owns hsourceOwns), if_neg hplace]
        intro hdirectory
        exact ne_directory_of_find (hd.isDirectory_eq_false htarget htargetFile)
          (Disk.find_eq_ok.mpr ⟨hresolve, hdirectory⟩) rfl

theorem isLocal_rename : IsLocal id results b (DiskAction.change fun d =>
    (d.rename (results.join source) (results.join target)).mapError SimulationFault.io) := by
  refine isLocal_change (fun d d' hd h => ?_) fun d e hd he hsame => ?_
  · refine hd.rename_touches hsource htarget hsourceFile htargetFile ?_
    cases hrename : d.rename (results.join source) (results.join target) with
    | error error => simp [hrename, Except.mapError] at h
    | ok d'' =>
      simp only [hrename, Except.mapError, Except.ok.injEq] at h
      rw [h]
  · rw [hd.rename_eq hsource htarget hsourceFile htargetFile,
      he.rename_eq hsource htarget hsourceFile htargetFile,
      ← (hd.agreeAt he hsame hsource).find_eq, ← (hd.agreeAt he hsame htarget).resolve_eq]
    cases hfind : d.find (results.join source) with
    | error error => exact .inl ⟨_, rfl, rfl⟩
    | ok found =>
      obtain ⟨sourcePlace, entry⟩ := found
      cases hresolve : d.resolve (results.join target) with
      | error error => exact .inl ⟨_, rfl, rfl⟩
      | ok targetPlace =>
        refine .inr ⟨_, _, rfl, rfl, ?_⟩
        split_ifs with hplace
        · exact hsame
        · exact (hsame.take (ne_nil_of_owns (owns_of_find hd hsource hfind))).put
            (ne_nil_of_owns (owns_of_resolve hd htarget hresolve)) entry

end

/-! ## The steps of a pair -/

/-- A job whose files in the output directory are those of its pair, with no directory in the place
of its result or of its output, and whose logs are no files of pairs. -/
structure Job.Fits (results : Path) (b : Disk) (job : Job) : Prop
    extends job.InDirectory results where
  flowLog : ∀ d, Nearby results b d → b.AgreeAt d job.flowLog
  allocationLog : ∀ d, Nearby results b d → b.AgreeAt d job.allocationLog
  result_file : b.isDirectory (job.result results) = false
  output_file : b.isDirectory job.output = false

theorem resultName_mem (id : PairId) : id.resultName ∈ id.workNames := by simp [PairId.workNames]

theorem partialName_mem (id : PairId) : id.partialName ∈ id.workNames := by
  simp [PairId.workNames]

theorem consoleName_mem (id : PairId) : id.consoleName ∈ id.workNames := by
  simp [PairId.workNames]

section

variable {job : Job} {simulator : Simulator} (hfits : job.Fits results b)
include hfits

theorem isLocal_clear : IsLocal job.id results b (job.clear results) :=
  (isLocal_removeIfPresent (resultName_mem _) hfits.result_file).mapFailure SimulationFault.io

theorem isLocal_settle (made : Except SimulationFault Unit) :
    IsLocal job.id results b (job.settle results made) := by
  have hfile : b.isDirectory (results.join job.id.partialName) = false :=
    hfits.output_eq ▸ hfits.output_file
  cases made with
  | ok u =>
    unfold Job.settle Job.result
    rw [hfits.output_eq]
    exact isLocal_rename (partialName_mem _) (resultName_mem _) hfile hfits.result_file
  | error fault =>
    unfold Job.settle
    rw [hfits.output_eq]
    have hremove := (isLocal_removeIfPresent (partialName_mem job.id) hfile).mapFailure
      SimulationFault.io
    exact hremove.bind fun _ => .throw fault

/-- The output and the console file of a job are files of its pair. -/
theorem exists_name_of_mem {path : Path} (h : path ∈ [job.output, job.console]) :
    ∃ name ∈ job.id.workNames, path = results.join name := by
  simp only [List.mem_cons, List.not_mem_nil, or_false] at h
  rcases h with rfl | rfl
  · exact ⟨_, partialName_mem _, hfits.output_eq⟩
  · exact ⟨_, consoleName_mem _, hfits.console_eq⟩

theorem isLocal_simulator (hsim : simulator.ConfinedTo job) :
    IsLocal job.id results b (simulator job) := by
  constructor
  · refine fun d hd => ⟨hsim.directories d, fun place hplace => hsim.writes d place ?_⟩
    rintro path hpath hlocate
    obtain ⟨name, hname, rfl⟩ := exists_name_of_mem hfits hpath
    rw [hd.locate_eq hname] at hlocate
    exact hplace (owns_of_mem hname hlocate)
  · intro d e hd he hsame
    have hagree : ∀ path ∈ [job.output, job.console], d.AgreeAt e path := by
      intro path hpath
      obtain ⟨name, hname, rfl⟩ := exists_name_of_mem hfits hpath
      exact hd.agreeAt he hsame hname
    obtain ⟨hmade, hleft⟩ := hsim.reads d e (hd.directories.symm.trans he.directories) (by
      intro path hpath
      rcases List.mem_cons.mp hpath with rfl | hpath
      · exact (hfits.flowLog d hd).symm.trans (hfits.flowLog e he)
      rcases List.mem_cons.mp hpath with rfl | hpath
      · exact (hfits.allocationLog d hd).symm.trans (hfits.allocationLog e he)
      · exact hagree path hpath)
    refine ⟨hmade, fun place hplace => ?_⟩
    by_cases hwritten : ∃ path ∈ [job.output, job.console], d.locate path = .ok place
    · obtain ⟨path, hpath, hlocate⟩ := hwritten
      exact hleft path hpath place hlocate
    · -- Neither run of the simulator has written here.
      push Not at hwritten
      rw [← hsim.writes d place hwritten, ← hsim.writes e place fun path hpath => ?_]
      · exact hsame place hplace
      · rw [← (hagree path hpath).locate_eq]
        exact hwritten path hpath

variable (hsim : simulator.ConfinedTo job)
include hsim

/-- A step changes nothing but what its pair owns. -/
theorem advance_touches (hd : Nearby results b d) (p : Progress) :
    job.id.Touches results b d (job.advance simulator results d p).2 := by
  cases p with
  | waiting =>
    have h := (isLocal_clear hfits).touches d hd
    rw [Job.advance_waiting]
    generalize job.clear results d = cleared at h ⊢
    exact h
  | cleared => exact (isLocal_simulator hfits hsim).touches d hd
  | simulated made left =>
    have h := (isLocal_settle hfits made).touches d hd
    rw [Job.advance_simulated]
    generalize job.settle results made d = settled at h ⊢
    exact h
  | published left => exact .refl
  | failed fault => exact .refl

/-- A step goes in the same way wherever the files of its pair are the same. -/
theorem advance_same (hd : Nearby results b d) (he : Nearby results b e)
    (hsame : job.id.SameOn results b d e) (p : Progress) :
    (job.advance simulator results d p).1 = (job.advance simulator results e p).1 ∧
      job.id.SameOn results b (job.advance simulator results d p).2
        (job.advance simulator results e p).2 := by
  cases p with
  | waiting =>
    obtain ⟨hr, h⟩ := (isLocal_clear hfits).same d e hd he hsame
    rw [Job.advance_waiting, Job.advance_waiting]
    generalize job.clear results d = cleared at hr h ⊢
    generalize job.clear results e = cleared' at hr h ⊢
    exact ⟨congrArg Progress.ofCleared hr, h⟩
  | cleared =>
    obtain ⟨hr, h⟩ := (isLocal_simulator hfits hsim).same d e hd he hsame
    have hd' := hd.touch ((isLocal_simulator hfits hsim).touches d hd)
    have he' := he.touch ((isLocal_simulator hfits hsim).touches e he)
    have hread := (hd'.agreeAt he' h (partialName_mem _)).read_eq
    rw [← hfits.output_eq] at hread
    rw [Job.advance_cleared, Job.advance_cleared]
    refine ⟨?_, h⟩
    dsimp only
    rw [hr, hread]
  | simulated made left =>
    obtain ⟨hr, h⟩ := (isLocal_settle hfits made).same d e hd he hsame
    rw [Job.advance_simulated, Job.advance_simulated]
    generalize job.settle results made d = settled at hr h ⊢
    generalize job.settle results made e = settled' at hr h ⊢
    exact ⟨congrArg (Progress.ofSettled left) hr, h⟩
  | published left => exact ⟨rfl, hsame⟩
  | failed fault => exact ⟨rfl, hsame⟩

end

end RackTraffic
