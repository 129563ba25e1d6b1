import RackTraffic.Proofs.Simulation.Confined

/-!
# Results are seen only when they are complete

As long as a pair waits, the result of an earlier batch is seen under its name. From its first step
on there is no result, until its own partial file becomes the result; then the result holds what the
simulator has left (`Progress.Sound`). Each step of the pair keeps this up (`advance_sound`), and
steps of other pairs do not concern it (`Progress.Sound.congr`).
-/

namespace RackTraffic

variable {simulator : Simulator} {results : Path} {b d e : Disk} {job : Job}

/-- What is seen of the result of a job, and of its output, for every progress of its run. -/
def Progress.Sound (results : Path) (b d : Disk) (job : Job) : Progress → Prop
  | .waiting => d.find (job.result results) = b.find (job.result results)
  | .cleared => d.contains (job.result results) = false
  | .simulated _ left => d.contains (job.result results) = false ∧ d.read job.output = left
  | .published left => d.read (job.result results) = left ∧ ∃ contents, left = .ok contents
  | .failed _ => d.contains (job.result results) = false

theorem Progress.Sound.congr {p : Progress} (h : p.Sound results b d job)
    (hresult : d.AgreeAt e (job.result results)) (houtput : d.AgreeAt e job.output) :
    p.Sound results b e job := by
  cases p with
  | waiting => exact hresult.find_eq.symm.trans h
  | cleared => exact hresult.contains_eq.symm.trans h
  | simulated made left =>
    exact ⟨hresult.contains_eq.symm.trans h.1, houtput.read_eq.symm.trans h.2⟩
  | published left => exact ⟨hresult.read_eq.symm.trans h.1, h.2⟩
  | failed fault => exact hresult.contains_eq.symm.trans h

/-! ## The steps of the pair -/

theorem settle_eq_ok : job.settle results (.ok ()) d = (.ok (), e) ↔
    d.rename job.output (job.result results) = .ok e := by
  rw [Job.settle, DiskAction.change_eq_ok, mapError_eq_ok]

/-- After a failure the output is removed, and the run fails in any case. -/
theorem settle_error (results : Path) (job : Job) (fault : SimulationFault) (d : Disk) :
    ∃ fault', job.settle results (.error fault) d =
      (.error fault', (Disk.removeIfPresent job.output d).2) := by
  rw [Job.settle, DiskAction.bind_apply, DiskAction.mapFailure]
  rcases Disk.removeIfPresent job.output d with ⟨r, d'⟩
  cases r with
  | ok u => exact ⟨fault, rfl⟩
  | error error => exact ⟨.io error, rfl⟩

variable (hfits : job.Fits results b)
include hfits

theorem output_ne_result {place : Place} (houtput : b.locate job.output = .ok place) :
    b.locate (job.result results) ≠ .ok place := by
  intro hresult
  rw [hfits.output_eq] at houtput
  exact job.id.resultName_ne_partialName (name_unique job.id.isEntryName_resultName
    job.id.isEntryName_partialName hresult houtput)

theorem console_ne_result {place : Place} (hconsole : b.locate job.console = .ok place) :
    b.locate (job.result results) ≠ .ok place := by
  intro hresult
  rw [hfits.console_eq] at hconsole
  exact job.id.resultName_ne_consoleName (name_unique job.id.isEntryName_resultName
    job.id.isEntryName_consoleName hresult hconsole)

/-- The simulator leaves the result alone. -/
theorem agreeAt_result_simulator (hsim : simulator.ConfinedTo job) (hd : Nearby results b d) :
    d.AgreeAt (simulator job d).2 (job.result results) := by
  have hd' := hd.touch ((isLocal_simulator hfits hsim).touches d hd)
  have hresult := hd.locate_eq (resultName_mem job.id)
  refine ⟨hresult.trans (hd'.locate_eq (resultName_mem job.id)).symm, fun place hplace => ?_⟩
  rw [Job.result, hresult] at hplace
  refine hsim.writes d place fun path hpath hlocate => ?_
  simp only [List.mem_cons, List.not_mem_nil, or_false] at hpath
  rcases hpath with rfl | rfl
  · rw [hfits.output_eq, hd.locate_eq (partialName_mem _), ← hfits.output_eq] at hlocate
    exact output_ne_result hfits hlocate hplace
  · rw [hfits.console_eq, hd.locate_eq (consoleName_mem _), ← hfits.console_eq] at hlocate
    exact console_ne_result hfits hlocate hplace

theorem isDirectory_output_eq_false (hd : Nearby results b d) :
    d.isDirectory job.output = false := by
  have h := hfits.output_file
  rw [hfits.output_eq] at h ⊢
  exact hd.isDirectory_eq_false (partialName_mem _) h

/-- Removing the output leaves the result alone. -/
theorem agreeAt_result_removeIfPresent (hd : Nearby results b d) :
    d.AgreeAt (Disk.removeIfPresent job.output d).2 (job.result results) := by
  have hlocal := isLocal_removeIfPresent (partialName_mem job.id)
    (hfits.output_eq ▸ hfits.output_file)
  have hd' := hd.touch (hlocal.touches d hd)
  rw [← hfits.output_eq] at hd'
  have hresult := hd.locate_eq (resultName_mem job.id)
  refine ⟨hresult.trans (hd'.locate_eq (resultName_mem job.id)).symm, fun place hplace => ?_⟩
  rw [Disk.removeIfPresent_eq (isDirectory_output_eq_false hfits hd)]
  cases hfind : d.find job.output with
  | error error => cases error <;> rfl
  | ok found =>
    obtain ⟨outputPlace, entry⟩ := found
    rw [hfits.output_eq] at hfind
    have howns := owns_of_find hd (partialName_mem _) hfind
    have hlocate := Disk.locate_of_resolve (Disk.find_eq_ok.mp hfind).1
    rw [hd.locate_eq (partialName_mem _), ← hfits.output_eq] at hlocate
    dsimp only
    rw [Disk.at?_take _ _ _ (ne_nil_of_owns howns), if_neg]
    rintro rfl
    rw [Job.result, hresult] at hplace
    exact output_ne_result hfits hlocate hplace

/-- A rename that succeeds publishes what could be read in the output. -/
theorem read_result_of_rename {d' : Disk} (hd : Nearby results b d)
    (h : d.rename job.output (job.result results) = .ok d') :
    ∃ contents, d.read job.output = .ok contents ∧ d'.read (job.result results) = .ok contents := by
  have houtput := isDirectory_output_eq_false hfits hd
  have hentryName := job.id.isEntryName_resultName
  cases hfind : d.find job.output with
  | error error => simp [Disk.rename, hfind, bind, Except.bind] at h
  | ok found =>
    obtain ⟨place, entry⟩ := found
    have hlocate := Disk.locate_of_resolve (Disk.find_eq_ok.mp hfind).1
    cases entry with
    | directory => exact absurd rfl (ne_directory_of_find houtput hfind)
    | file contents executable =>
      have hne : d.locate (job.result results) ≠ .ok place := by
        intro hresult
        rw [Job.result, hd.locate_eq (resultName_mem _)] at hresult
        rw [hfits.output_eq, hd.locate_eq (partialName_mem _), ← hfits.output_eq] at hlocate
        exact output_ne_result hfits hlocate hresult
      exact ⟨contents, by simp [Disk.read, hfind, bind, Except.bind, pure, Except.pure],
        Disk.read_of_rename hfind (Path.endsInName_join hentryName)
          (Path.endsInSlash_join hentryName) hne h⟩

/-- Each step of a pair shows of its result what is due. -/
theorem advance_sound (hsim : simulator.ConfinedTo job) (hd : Nearby results b d) {p : Progress}
    (h : p.Sound results b d job) :
    (job.advance simulator results d p).1.Sound results b (job.advance simulator results d p).2
      job := by
  cases p with
  | waiting =>
    have hcontains := Disk.contains_removeIfPresent
      (hd.isDirectory_eq_false (resultName_mem job.id) hfits.result_file)
    rcases hclear : Disk.removeIfPresent (job.result results) d with ⟨r, d'⟩
    rw [← Job.result, hclear] at hcontains
    rw [Job.advance_waiting, clear_eq hclear]
    cases r <;> exact hcontains
  | cleared =>
    rw [Job.advance_cleared]
    have hagree := agreeAt_result_simulator hfits hsim hd
    exact ⟨hagree.contains_eq.symm.trans h, rfl⟩
  | simulated made left =>
    rw [Job.advance_simulated]
    cases made with
    | error fault =>
      have hagree := agreeAt_result_removeIfPresent hfits hd
      have hcontains := hagree.contains_eq.symm.trans h.1
      obtain ⟨fault', hsettle⟩ := settle_error results job fault d
      rw [hsettle]
      exact hcontains
    | ok u =>
      cases hrename : d.rename job.output (job.result results) with
      | error error =>
        have hsettle : job.settle results (.ok u) d = (.error (.io error), d) := by
          simp [Job.settle, DiskAction.change, hrename, Except.mapError]
        rw [hsettle]
        exact h.1
      | ok d' =>
        have hsettle : job.settle results (.ok u) d = (.ok (), d') := settle_eq_ok.mpr hrename
        obtain ⟨contents, hread, hread'⟩ := read_result_of_rename hfits hd hrename
        rw [h.2] at hread
        rw [hsettle]
        exact ⟨hread'.trans hread.symm, contents, hread⟩
  | published left => exact h
  | failed fault => exact h

end RackTraffic
