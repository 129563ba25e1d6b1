import RackTraffic.Proofs.Disk.Agreement
import RackTraffic.Proofs.Simulation.Turn
import RackTraffic.Simulation.Launch

/-!
# The current directory

Which directory is current is not changed by any operation on disks. So if the programs that a host
runs do not change it either, it is the same in every turn of a batch (`Turns.current_eq`), and a
path that does not start at the root starts in the same directory all the time.
-/

namespace RackTraffic

variable {host : Host} {results : Path} {d e : Disk} {job : Job}

/-! ## Actions -/

/-- An action that does not change which directory is current. -/
def DiskAction.KeepsCurrent {ε α : Type} (act : DiskAction ε α) : Prop :=
  ∀ d, (act d).2.current = d.current

namespace DiskAction.KeepsCurrent

variable {ε ε' α β : Type} {act : DiskAction ε α}

theorem look (f : Disk → Except ε α) : KeepsCurrent (DiskAction.look f) := fun _ => rfl

theorem change {f : Disk → Except ε Disk} (h : ∀ d e, f d = .ok e → e.current = d.current) :
    KeepsCurrent (DiskAction.change f) := by
  intro d
  unfold DiskAction.change
  cases hf : f d with
  | error fault => rfl
  | ok e => exact h d e hf

theorem mapFailure (h : KeepsCurrent act) (f : ε → ε') :
    KeepsCurrent (DiskAction.mapFailure f act) := h

theorem bind {f : α → DiskAction ε β} (h : KeepsCurrent act) (hf : ∀ a, KeepsCurrent (f a)) :
    KeepsCurrent (act >>= f) := by
  intro d
  have hd := h d
  rw [DiskAction.bind_apply]
  rcases hact : act d with ⟨_ | a, d'⟩
  · rw [hact] at hd
    exact hd
  · rw [hact] at hd
    exact (hf a d').trans hd

end DiskAction.KeepsCurrent

open DiskAction (KeepsCurrent)

/-! ## Operations on files -/

theorem keepsCurrent_removeIfPresent (path : Path) : KeepsCurrent (Disk.removeIfPresent path) := by
  intro d
  unfold Disk.removeIfPresent Disk.removeFile
  cases hfind : d.find path with
  | error error => cases error <;> rfl
  | ok found =>
    obtain ⟨place, entry⟩ := found
    cases entry <;> rfl

theorem current_of_rename {source target : Path} (h : d.rename source target = .ok e) :
    e.current = d.current := by
  unfold Disk.rename at h
  cases hfind : d.find source with
  | error error => simp [hfind, bind, Except.bind] at h
  | ok found =>
    cases hresolve : d.resolve target with
    | error error => simp [hfind, hresolve, bind, Except.bind] at h
    | ok place =>
      simp only [hfind, hresolve, bind, Except.bind, pure, Except.pure, throw, throwThe,
        MonadExceptOf.throw] at h
      split_ifs at h
      · cases h
        rfl
      all_goals split at h <;> cases h <;> rfl

theorem current_of_write {path : Path} {contents : ByteArray} (h : d.write path contents = .ok e) :
    e.current = d.current := by
  rcases (Disk.AgreeAt.refl d path).write (.refl d) contents with
    ⟨error, herror, -⟩ | ⟨place, executable, -, -, hok, -⟩
  · rw [herror] at h
    cases h
  · rw [hok] at h
    cases h
    rfl

/-! ## Turns -/

/-- The programs that a host runs do not change the current directory. -/
def Host.KeepsCurrent (host : Host) : Prop :=
  ∀ command console limit, DiskAction.KeepsCurrent (host command console limit)

theorem keepsCurrent_simulate (hhost : host.KeepsCurrent) (p : SimulatorProgram) (job : Job) :
    KeepsCurrent (p.simulate host job) := by
  refine .bind (.look _) fun home => .bind (.look _) fun full => .bind (.look _) fun command =>
    .bind (.change fun d e h => ?_) fun _ =>
      .bind (.mapFailure (hhost command full.console p.timeLimit) _) fun ending => .look _
  exact current_of_write (mapError_eq_ok.mp h)

theorem keepsCurrent_settle (results : Path) (job : Job) (made : Except SimulationFault Unit) :
    KeepsCurrent (job.settle results made) := by
  cases made with
  | ok u => exact .change fun d e h => current_of_rename (mapError_eq_ok.mp h)
  | error fault =>
    exact .bind ((keepsCurrent_removeIfPresent job.output).mapFailure SimulationFault.io)
      fun _ _ => rfl

theorem Turn.current_eq {simulator : Simulator} {run : PairRun}
    (hsim : ∀ job, KeepsCurrent (simulator job)) (h : Turn simulator results d job run e) :
    e.current = d.current := by
  cases h with
  | refused hclear =>
    have hd := keepsCurrent_removeIfPresent (job.result results) d
    rwa [hclear] at hd
  | @called given left _ made outcome hclear hcall hsettle =>
    have hd := keepsCurrent_removeIfPresent (job.result results) d
    have hgiven := hsim job given
    have hleft := keepsCurrent_settle results job made left
    rw [hclear] at hd
    rw [hcall] at hgiven
    rw [hsettle] at hleft
    exact hleft.trans (hgiven.trans hd)

theorem Turns.current_eq {simulator : Simulator} {runs : List PairRun}
    (hsim : ∀ job, KeepsCurrent (simulator job)) (h : Turns simulator results d runs e) :
    e.current = d.current := by
  induction h with
  | nil => rfl
  | cons hturn hrest ih => exact ih.trans (hturn.current_eq hsim)

end RackTraffic
