import RackTraffic.CommandLine.Execution
import RackTraffic.Proofs.Scenario.Batch
import RackTraffic.Proofs.Simulation.Effect

/-!
# Nothing is overwritten without consent

Three commands write into a directory of their own choice: a batch is generated into it, the results
of simulations go to it, or the tensors of a directory do (`Invocation.target?`). They may do so
if there is nothing yet, or if it is a directory and consent is given, by a flag or by an answer
(`MayWrite`).

**Theorem (`execute_needs_consent`).** Otherwise the command fails, the disk is as before, and no
simulator has been started.

A simulator is a program that a host runs, and a host that runs one may do anything to the disk and
end in any way. So that none has been started is said by comparing hosts: the command does the same
on all of them (`Refuses`).

The proof follows a command up to the step that stops it. What comes before may fail, too, but it
leaves the disk and the answer as they are (`Terminal.Agrees`, `aborts_bind`). The step is the
question, if the answer to it is no. Else it is the preparation of the output directory, which then
is no directory (`prepareOutput_of_confirm`).
-/

namespace RackTraffic.CommandLine

/-! ## Consent -/

/-- The directory that a command writes into, and whether its flag consents to that. -/
def Invocation.target? : Invocation → Option (Path × Bool)
  | .generate directory _ _ consent => some (directory, consent)
  | .run _ results _ _ consent => some (results, consent)
  | .parse _ _ (some directory) consent => some (directory, consent)
  | .parse _ _ none _ | .best .. | .render .. => none

/-- The first line of what the user has typed, without blanks around it, is a yes. -/
def Consents (typed : String) : Prop :=
  let answer := Text.trim (typed.toList.takeWhile (· != '\n'))
  answer = "y".toList ∨ answer = "Y".toList ∨ answer = "yes".toList

instance (typed : String) : Decidable (Consents typed) := inferInstanceAs (Decidable (_ ∨ _ ∨ _))

/-- A directory may be written into: there is nothing yet, or it is a directory and there is
consent. -/
def MayWrite (d : Disk) (directory : Path) (flag : Bool) (typed : String) : Prop :=
  d.contains directory = false ∨ d.isDirectory directory = true ∧ (flag = true ∨ Consents typed)

theorem consents_iff {typed : String} : Interaction.consents typed = true ↔ Consents typed := by
  rw [Interaction.consents, Consents]
  generalize Text.trim (typed.toList.takeWhile (· != '\n')) = answer
  simp only [List.any_cons, List.any_nil, Bool.or_false, Bool.or_eq_true, beq_iff_eq]
  rw [eq_comm, eq_comm (a := "Y".toList), eq_comm (a := "yes".toList)]

/-! ## Steps that leave the disk and the answer -/

/-- The disk and what the user has typed are the same. What has been printed may differ. -/
structure Terminal.Agrees (t t' : Terminal) : Prop where
  disk : t'.disk = t.disk
  typed : t'.typed = t.typed

theorem Terminal.Agrees.not_mayWrite {t t' : Terminal} {directory : Path} {flag : Bool}
    (h : t.Agrees t') (hnot : ¬MayWrite t.disk directory flag t.typed) :
    ¬MayWrite t'.disk directory flag t'.typed := by
  rwa [h.disk, h.typed]

/-! ## Steps that stop at the output directory -/

section

variable {σ : Type} [WordSource σ] {d : Disk} {directory : Path} {allow : Bool}
  {reason : OutputFault}

theorem write_stops (shape : BatchShape)
    (h : Disk.prepareOutput directory allow d = (.error reason, d)) (s : σ) :
    ∃ fault, shape.write directory allow (s, d) = some (.error fault, (s, d)) := by
  cases hcheck : shape.check with
  | error fault => exact ⟨.refused fault, by rw [BatchShape.write_apply, hcheck]⟩
  | ok u => exact ⟨.output reason, BatchShape.write_of_prepareOutput_error hcheck h s⟩

theorem runAll_stops (logs : Path)
    (h : Disk.prepareOutput directory allow d = (.error reason, d)) :
    ∃ fault, ∀ simulator, runAll simulator logs directory allow d = (.error fault, d) := by
  cases hlist : d.list logs with
  | error error => exact ⟨.io error, fun simulator => runAll_of_list_error hlist⟩
  | ok entries => exact ⟨.output reason, fun simulator => runAll_of_prepareOutput_error hlist h⟩

end

namespace Interaction

variable {ε ι α β : Type} {t t' : Terminal} {directory : Path} {flag allow : Bool}

theorem look_apply (fault : ε → CommandFault) (f : Disk → Except ε α) (t : Terminal) :
    look fault f t = ((f t.disk).mapError fault, t) := by
  have hget : (get : Interaction Terminal) t = (.ok t, t) := rfl
  rw [look, stateful_bind_apply, hget]
  dsimp only
  cases f t.disk <;> rfl

theorem act_apply (fault : ε → CommandFault) (action : DiskAction ε α) (t : Terminal) :
    act fault action t =
      ((action t.disk).1.mapError fault, { t with disk := (action t.disk).2 }) := by
  have hget : (get : Interaction Terminal) t = (.ok t, t) := rfl
  rw [act, stateful_bind_apply, hget]
  dsimp only
  rcases action t.disk with ⟨r, disk⟩
  cases r <;> rfl

/-- A terminal after the question whether a directory may be written into. -/
def asked (directory : Path) (t : Terminal) : Terminal :=
  { t with printed := t.printed ++ (directory.text ++ " already exists. Overwrite? [y/n] ") }

/-- The question is asked if there is something and the flag does not consent. -/
theorem confirm_apply (directory : Path) (flag : Bool) (t : Terminal) :
    confirm directory flag t =
      if flag = true ∨ t.disk.contains directory = false then (.ok flag, t)
      else
        (if Consents t.typed then .ok true else .error (.refused directory),
          asked directory t) := by
  have hquestion : confirm directory flag t =
      if (flag || !t.disk.contains directory) = true then (.ok flag, t)
      else
        (if consents t.typed = true then .ok true else .error (.refused directory),
          asked directory t) := by
    rw [confirm, stateful_bind_apply]
    show (if (flag || !t.disk.contains directory) = true then (return flag : Interaction Bool)
      else (do
        print (directory.text ++ " already exists. Overwrite? [y/n] ")
        if !consents (← get).typed then throw (.refused directory)
        return true)) t = _
    by_cases hasked : (flag || !t.disk.contains directory) = true
    · rw [if_pos hasked, if_pos hasked]
      rfl
    · rw [if_neg hasked, if_neg hasked, stateful_bind_apply]
      show ((do
        if !consents t.typed then throw (.refused directory)
        return true) : Interaction Bool) (asked directory t) = _
      cases consents t.typed <;> rfl
  rw [hquestion]
  simp only [consents_iff, Bool.or_eq_true, Bool.not_eq_true']

theorem print_agrees (text : String) (t : Terminal) : t.Agrees (print text t).2 := ⟨rfl, rfl⟩

theorem look_agrees (fault : ε → CommandFault) (f : Disk → Except ε α) (t : Terminal) :
    t.Agrees (look fault f t).2 := by
  rw [look_apply]
  exact ⟨rfl, rfl⟩

theorem settingsOf_agrees (flags : RunSettings) (file : Option Path) (t : Terminal) :
    t.Agrees (settingsOf flags file t).2 := by
  cases file with
  | none => exact ⟨rfl, rfl⟩
  | some path =>
    rw [settingsOf, stateful_bind_apply, look_apply]
    cases t.disk.readSettings path <;> exact ⟨rfl, rfl⟩

theorem confirm_agrees (directory : Path) (flag : Bool) (t : Terminal) :
    t.Agrees (confirm directory flag t).2 := by
  rw [confirm_apply]
  split_ifs <;> exact ⟨rfl, rfl⟩

/-- If a directory may not be written into and the question is passed, something else is there. -/
theorem prepareOutput_of_confirm (hnot : ¬MayWrite t.disk directory flag t.typed)
    (h : confirm directory flag t = (.ok allow, t')) :
    Disk.prepareOutput directory allow t.disk = (.error (.notADirectory directory), t.disk) := by
  rw [MayWrite, not_or, Bool.not_eq_false, not_and] at hnot
  obtain ⟨hcontains, hnot⟩ := hnot
  have hconsent : flag = true ∨ Consents t.typed := by
    rw [confirm_apply] at h
    split_ifs at h with hflag hconsents
    · exact .inl (hflag.resolve_right (by simp [hcontains]))
    · exact .inr hconsents
    · cases h
  have hdirectory : t.disk.isDirectory directory = false :=
    Bool.eq_false_iff.mpr fun hdirectory => hnot hdirectory hconsent
  rw [Disk.prepareOutput_apply, if_pos hcontains, if_pos hdirectory]

/-! ## Commands that are stopped -/

/-- On every host an interaction fails, in the same way, and leaves the disk. -/
def Aborts (act : Host → Interaction α) (t : Terminal) : Prop :=
  ∃ fault t', t'.disk = t.disk ∧ ∀ host, act host t = (.error fault, t')

theorem aborts_bind {act : Interaction α} {f : Host → α → Interaction β}
    (hact : t.Agrees (act t).2)
    (hf : ∀ a t', act t = (.ok a, t') → t.Agrees t' → Aborts (fun host => f host a) t') :
    Aborts (fun host => act >>= f host) t := by
  rcases h : act t with ⟨fault | a, t'⟩
  · rw [h] at hact
    exact ⟨fault, t', hact.disk, fun host => (stateful_bind_apply act (f host) t).trans (by rw [h])⟩
  · rw [h] at hact
    obtain ⟨fault, t'', hdisk, hall⟩ := hf a t' h hact
    refine ⟨fault, t'', hdisk.trans hact.disk, fun host =>
      (stateful_bind_apply act (f host) t).trans ?_⟩
    rw [h]
    exact hall host

theorem aborts_act {fault : ε → CommandFault} {action : Host → DiskAction ε α}
    {f : Host → α → Interaction β} {error : ε}
    (h : ∀ host, action host t.disk = (.error error, t.disk)) :
    Aborts (fun host => act fault (action host) >>= f host) t := by
  refine ⟨fault error, t, rfl, fun host => (stateful_bind_apply _ (f host) t).trans ?_⟩
  rw [act_apply, h]
  rfl

theorem aborts_generate {shape : BatchShape} {seed : UInt64}
    (hnot : ¬MayWrite t.disk directory flag t.typed) :
    Aborts (fun _ => generate directory shape seed flag) t := by
  refine aborts_bind (confirm_agrees directory flag t) fun allow t' h hagrees => ?_
  obtain ⟨fault, hwrite⟩ := write_stops shape (prepareOutput_of_confirm hnot h)
    (KeyStream.ofSeed seed)
  rw [← hagrees.disk] at hwrite
  refine ⟨.batch fault, t', rfl, fun _ => (stateful_bind_apply _ _ t').trans ?_⟩
  have hget : (get : Interaction Terminal) t' = (.ok t', t') := rfl
  rw [hget]
  dsimp only
  rw [hwrite]
  rfl

theorem aborts_run {logs : Path} {settingsFile : Option Path} {flags : RunSettings}
    (hnot : ¬MayWrite t.disk directory flag t.typed) :
    Aborts (fun host => run host logs directory settingsFile flags flag) t := by
  refine aborts_bind (settingsOf_agrees flags settingsFile t) fun settings t₁ _ h₁ => ?_
  refine aborts_bind (look_agrees _ _ t₁) fun program t₂ _ h₂ => ?_
  refine aborts_bind (confirm_agrees directory flag t₂) fun allow t₃ h h₃ => ?_
  have hprepare := prepareOutput_of_confirm (h₂.not_mayWrite (h₁.not_mayWrite hnot)) h
  obtain ⟨error, hrun⟩ := runAll_stops logs hprepare
  rw [← h₃.disk] at hrun
  exact aborts_act fun host => hrun (program.simulate host)

theorem aborts_parse {logs : Path} {rackCount : UInt64}
    (hnot : ¬MayWrite t.disk directory flag t.typed) :
    Aborts (fun _ => parse logs rackCount (some directory) flag) t := by
  refine aborts_bind (look_agrees _ _ t) fun batch t₁ _ h₁ => ?_
  refine aborts_bind (print_agrees _ t₁) fun _ t₂ _ h₂ => ?_
  refine aborts_bind (confirm_agrees directory flag t₂) fun allow t₃ h h₃ => ?_
  have hprepare := prepareOutput_of_confirm (h₂.not_mayWrite (h₁.not_mayWrite hnot)) h
  rw [← h₃.disk] at hprepare
  exact aborts_act fun _ => hprepare

end Interaction

/-! ## The program -/

variable {invocation : Invocation} {arguments : List String} {directory : Path} {flag : Bool}

theorem aborts_execute {t : Terminal} (htarget : invocation.target? = some (directory, flag))
    (hnot : ¬MayWrite t.disk directory flag t.typed) (seed : UInt64) :
    Interaction.Aborts (fun host => invocation.execute host seed) t := by
  cases invocation with
  | generate directory shape own consent =>
    cases htarget
    exact Interaction.aborts_generate hnot
  | run logs results settingsFile flags consent =>
    cases htarget
    exact Interaction.aborts_run hnot
  | parse logs rackCount directory? consent =>
    cases directory? with
    | none => cases htarget
    | some directory =>
      cases htarget
      exact Interaction.aborts_parse hnot
  | best results scenario json => cases htarget
  | render log rackCount output layout => cases htarget

theorem CommandFault.code_ne_zero (fault : CommandFault) : fault.code ≠ 0 := by
  unfold code
  split <;> decide

/-- On every host the program fails, in the same way, and leaves the disk. -/
def Refuses (seed : UInt64) (arguments : List String) (typed : String) (d : Disk) : Prop :=
  ∃ outcome, outcome.code ≠ 0 ∧ ∀ host, execute host seed arguments typed d = (outcome, d)

/-- The program changes the disk or starts a simulator: what it does depends on the host. -/
def Acts (host : Host) (seed : UInt64) (arguments : List String) (typed : String) (d : Disk) :
    Prop :=
  (execute host seed arguments typed d).2 ≠ d ∨
    ∃ other, execute other seed arguments typed d ≠ execute host seed arguments typed d

theorem Refuses.not_acts {seed : UInt64} {typed : String} {d : Disk}
    (h : Refuses seed arguments typed d) (host : Host) : ¬Acts host seed arguments typed d := by
  obtain ⟨outcome, -, hall⟩ := h
  rintro (hdisk | ⟨other, hother⟩)
  · exact hdisk (by rw [hall])
  · exact hother (by rw [hall, hall])

/-- The program does not work in a directory that it may not write into. -/
theorem refuses_of_not_mayWrite
    (htarget : (Invocation.ofArguments? arguments).bind Invocation.target? = some (directory, flag))
    {typed : String} {d : Disk} (hnot : ¬MayWrite d directory flag typed) (seed : UInt64) :
    Refuses seed arguments typed d := by
  obtain ⟨invocation, hinvocation, htarget⟩ := Option.bind_eq_some_iff.mp htarget
  obtain ⟨fault, t, hdisk, hall⟩ :=
    aborts_execute (t := { disk := d, typed }) htarget hnot seed
  refine ⟨⟨fault.code, t.printed, report fault.reasons⟩, fault.code_ne_zero, fun host => ?_⟩
  have hrun : invocation.execute host seed { disk := d, typed } = (.error fault, t) := hall host
  rw [execute, hinvocation]
  dsimp only
  rw [hrun]
  exact congrArg (Prod.mk _) hdisk

/-- **Nothing is overwritten without consent.** The program changes the disk or starts a simulator
only if the directory that it is to write into may be written into. If something is there and there
is no consent, or something other than a directory is there, it fails and leaves the disk. -/
theorem execute_needs_consent
    (htarget : (Invocation.ofArguments? arguments).bind Invocation.target? = some (directory, flag))
    (seed : UInt64) (typed : String) (d : Disk) :
    (∀ host, Acts host seed arguments typed d → MayWrite d directory flag typed) ∧
      (d.contains directory = true → flag = false → ¬Consents typed →
        Refuses seed arguments typed d) ∧
      (d.contains directory = true → d.isDirectory directory = false →
        Refuses seed arguments typed d) := by
  refine ⟨fun host hacts => ?_, fun hcontains hflag hconsents => ?_,
    fun hcontains hdirectory => ?_⟩
  · by_contra hnot
    exact (refuses_of_not_mayWrite htarget hnot seed).not_acts host hacts
  · exact refuses_of_not_mayWrite htarget (by simp [MayWrite, hcontains, hflag, hconsents]) seed
  · exact refuses_of_not_mayWrite htarget (by simp [MayWrite, hcontains, hdirectory]) seed

/-- A disk with a pair to simulate and its result of an earlier batch. -/
def oldResult : Disk := onePair [(["0_0.txt", "r"], .file "old".toUTF8 false)]

/-- The arguments to simulate the pair again. -/
def rerun : List String :=
  ["run", "-f", "l", "-r", "r", "--ns3-dir", "n", "--topology", "t", "--direct"]

/-- A result is in the way. After a no, whatever else has been typed, there is nothing but the
question. After a yes the result is removed. -/
theorem execute_needs_consent_oldResult :
    (Refuses 7 rerun " no\ny\n" oldResult ∧ ∀ host,
      (execute host 7 rerun " no\ny\n" oldResult).1.output =
        "r already exists. Overwrite? [y/n] ") ∧
    Acts idleHost 7 rerun " yes \n" oldResult ∧
      (execute idleHost 7 rerun " yes \n" oldResult).2.at? ["0_0.txt", "r"] = none ∧
      MayWrite oldResult ⟨"r"⟩ false " yes \n" := by
  have htarget : (Invocation.ofArguments? rerun).bind Invocation.target? = some (⟨"r"⟩, false) := by
    decide +kernel
  have hrefuses : Refuses 7 rerun " no\ny\n" oldResult :=
    (@execute_needs_consent rerun ⟨"r"⟩ false htarget 7 " no\ny\n" oldResult).2.1
      (by decide +kernel) rfl (by decide +kernel)
  have hremoved :
      (execute idleHost 7 rerun " yes \n" oldResult).2.at? ["0_0.txt", "r"] = none := by
    decide +kernel
  have hacts : Acts idleHost 7 rerun " yes \n" oldResult := by
    refine .inl fun hsame => ?_
    rw [hsame] at hremoved
    exact absurd hremoved (by decide +kernel)
  refine ⟨⟨hrefuses, fun host => ?_⟩, hacts, hremoved,
    (@execute_needs_consent rerun ⟨"r"⟩ false htarget 7 " yes \n" oldResult).1 idleHost hacts⟩
  obtain ⟨outcome, -, hall⟩ := hrefuses
  have hidle : (execute idleHost 7 rerun " no\ny\n" oldResult).1.output =
      "r already exists. Overwrite? [y/n] " := by decide +kernel
  rw [hall] at hidle ⊢
  exact hidle

end RackTraffic.CommandLine
