import RackTraffic.Proofs.Simulation.Launch
import RackTraffic.Proofs.Text.Blank

/-!
# The words that a program is started with

**Theorem (`simulate_hands_words`).** Directly or through the build script, a simulator program is
started with the words of its text and the arguments that tell it what to do. The build script
splits one text at blanks, which gives the arguments back because none of them holds a blank: a job
that needs one that does fails with the first such argument. Then the program is not started and the
disk stays as it is. If the source tree is not there, this is the fault that is reported.

Joining the arguments and splitting at blanks gives them back (`wordsOf_intercalate`). The text of
the program may hold any blanks: it is split by itself, because a blank stands behind it
(`wordsOf_append_blank`).
-/

namespace RackTraffic.SimulatorProgram

variable {p : SimulatorProgram} {job full : Job} {d : Disk} {home : Path} {command : Command}
  {arguments : List String} {argument : String}

theorem wordsOf_append_blank (s t : String) : wordsOf (s ++ " " ++ t) = wordsOf s ++ wordsOf t := by
  have hlist : (s ++ " " ++ t).toList = s.toList ++ ' ' :: t.toList := by simp
  rw [wordsOf, hlist, Text.words_append_blank_cons (by decide), List.map_append, wordsOf, wordsOf]

theorem hasBlank_eq_false {text : String} :
    hasBlank text = false ↔ ∀ c ∈ text.toList, Text.isBlank c = false := by
  simp [hasBlank]

theorem wordsOf_intercalate
    (h : ∀ argument ∈ arguments, argument ≠ "" ∧ hasBlank argument = false) :
    wordsOf (" ".intercalate arguments) = arguments := by
  have hwords : ∀ word ∈ arguments.map String.toList,
      word ≠ [] ∧ ∀ c ∈ word, Text.isBlank c = false := by
    refine List.forall_mem_map.mpr fun argument hmem => ?_
    obtain ⟨hne, hblank⟩ := h argument hmem
    exact ⟨by simpa using hne, hasBlank_eq_false.mp hblank⟩
  have hblank : " ".toList = [' '] := rfl
  rw [wordsOf, String.toList_intercalate, hblank, Text.words_intercalate (by decide) hwords]
  simp

/-- Every argument begins with what it is about. -/
theorem ne_empty_of_mem_arguments (h : argument ∈ p.arguments job) : argument ≠ "" := by
  rintro rfl
  simp [SimulatorProgram.arguments] at h

/-! ## Commands -/

/-- The words that a command hands to the program. The build script splits its text at blanks. -/
inductive Hands (home : Path) : Launcher → Command → List String → Prop where
  | direct (program : String) (arguments : List String) :
      Hands home .direct ⟨program, arguments, home⟩ (program :: arguments)
  | buildScript (run : String) :
      Hands home .buildScript ⟨(home.join scriptName).text, ["--run", run], home⟩ (wordsOf run)

/-- There is a command, unless the build script would tear an argument apart. -/
theorem exists_hands (home : Path) (hwords : wordsOf p.program ≠ [])
    (harguments : ∀ argument ∈ arguments, argument ≠ "" ∧
      (p.launcher = .buildScript → hasBlank argument = false)) :
    ∃ command, p.command home arguments = .ok command ∧
      Hands home p.launcher command (wordsOf p.program ++ arguments) := by
  cases hlauncher : p.launcher with
  | direct =>
    obtain ⟨program, rest, hprogram⟩ := List.exists_cons_of_ne_nil hwords
    refine ⟨⟨program, rest ++ arguments, home⟩, ?_, ?_⟩
    · simp [SimulatorProgram.command, hlauncher, hprogram]
    · rw [hprogram]
      exact .direct program (rest ++ arguments)
  | buildScript =>
    have hfit : ∀ argument ∈ arguments, argument ≠ "" ∧ hasBlank argument = false :=
      fun argument hmem => (harguments argument hmem).imp_right (· hlauncher)
    have hfind : arguments.find? hasBlank = none :=
      List.find?_eq_none.mpr fun argument hmem => by simp [(hfit argument hmem).2]
    obtain ⟨text, htext⟩ : ∃ text, p.program ++ " " ++ " ".intercalate arguments = text := ⟨_, rfl⟩
    have hcommand : p.command home arguments =
        .ok ⟨(home.join scriptName).text, ["--run", text], home⟩ := by
      rw [SimulatorProgram.command, hlauncher, ← htext]
      simp only [hfind]
    have hsplit : wordsOf text = wordsOf p.program ++ arguments := by
      rw [← htext, wordsOf_append_blank, wordsOf_intercalate hfit]
    exact ⟨_, hcommand, hsplit ▸ .buildScript text⟩

/-- The first argument that the build script would tear apart. -/
theorem command_of_hasBlank (hlauncher : p.launcher = .buildScript)
    (h : ∃ argument ∈ arguments, hasBlank argument = true) :
    ∃ before argument after, arguments = before ++ argument :: after ∧
      (∀ earlier ∈ before, hasBlank earlier = false) ∧ hasBlank argument = true ∧
        ∀ home, p.command home arguments = .error (.unfitArgument argument) := by
  obtain ⟨argument, hfind⟩ := Option.isSome_iff_exists.mp (List.find?_isSome.mpr h)
  obtain ⟨hblank, before, after, heq, hbefore⟩ := List.find?_eq_some_iff_append.mp hfind
  refine ⟨before, argument, after, heq, fun earlier hmem => by simpa using hbefore earlier hmem,
    hblank, fun home => ?_⟩
  rw [SimulatorProgram.command, hlauncher]
  simp only [hfind]

/-! ## Simulations -/

/-- Run a command for a job. -/
def run (p : SimulatorProgram) (host : Host) (job : Job) (command : Command) :
    DiskAction SimulationFault Unit := do
  DiskAction.change fun d => (d.write job.console .empty).mapError .io
  let ending ← (host command job.console p.timeLimit).mapFailure .notStarted
  DiskAction.look fun d => judge job d ending

/-- Before a command is run the disk is only looked at. -/
theorem simulate_eq (host : Host) (habsolute : job.absolute d = .ok full) :
    p.simulate host job d = match d.canonical p.home with
      | .error error => (.error (.io error), d)
      | .ok home => match p.command home (p.arguments full) with
        | .error fault => (.error fault, d)
        | .ok command => p.run host full command d := by
  rw [simulate, DiskAction.bind_apply, DiskAction.look]
  cases d.canonical p.home with
  | error error => rfl
  | ok home =>
    simp only [Except.mapError, run, DiskAction.bind_apply, DiskAction.look, habsolute]
    cases p.command home (p.arguments full) <;> rfl

/-- **Both ways of starting a program hand it the same words**, and what would not reach it is
refused before anything is done. -/
theorem simulate_hands_words (hwords : wordsOf p.program ≠ [])
    (habsolute : job.absolute d = .ok full) :
    ((∀ argument ∈ p.arguments full, p.launcher = .buildScript → hasBlank argument = false) →
      ∀ home, ∃ command, p.command home (p.arguments full) = .ok command ∧
        Hands home p.launcher command (wordsOf p.program ++ p.arguments full) ∧
          ∀ host, d.canonical p.home = .ok home →
            p.simulate host job d = p.run host full command d) ∧
    (p.launcher = .buildScript → (∃ argument ∈ p.arguments full, hasBlank argument = true) →
      ∃ before argument after, p.arguments full = before ++ argument :: after ∧
        (∀ earlier ∈ before, hasBlank earlier = false) ∧ hasBlank argument = true ∧
          ∀ host,
            (∀ home, d.canonical p.home = .ok home →
              p.simulate host job d = (.error (.unfitArgument argument), d)) ∧
            ∀ error, d.canonical p.home = .error error →
              p.simulate host job d = (.error (.io error), d)) := by
  refine ⟨fun hfit home => ?_, fun hlauncher hblank => ?_⟩
  · obtain ⟨command, hcommand, hhands⟩ := exists_hands home hwords
      fun argument hmem => ⟨ne_empty_of_mem_arguments hmem, hfit argument hmem⟩
    refine ⟨command, hcommand, hhands, fun host hhome => ?_⟩
    rw [simulate_eq host habsolute, hhome]
    simp only [hcommand]
  · obtain ⟨before, argument, after, heq, hbefore, hblank, hcommand⟩ :=
      command_of_hasBlank hlauncher hblank
    refine ⟨before, argument, after, heq, hbefore, hblank, fun host =>
      ⟨fun home hhome => ?_, fun error hhome => ?_⟩⟩
    · rw [simulate_eq host habsolute, hhome]
      simp only [hcommand]
    · rw [simulate_eq host habsolute, hhome]

/-- A program that is started through the build script of a source tree. -/
def scriptProgram (home topology : Path) : SimulatorProgram :=
  { directProgram with home, topology, program := " sim\t -v", launcher := .buildScript }

/-- The job for the pair on a disk, with paths that start with a given text. -/
def pairJob (start : String) : Job where
  id := ⟨⟨0⟩, ⟨0⟩⟩
  flowLog := ⟨start ++ "l/flows__0.dat"⟩
  allocationLog := ⟨start ++ "l/alloc__0_0.dat"⟩
  output := ⟨start ++ "r/out"⟩
  console := ⟨start ++ "r/console"⟩

theorem absolute_pairJob : (pairJob "").absolute (onePair []) = .ok (pairJob "/") :=
  toOption_eq_some_iff.mp (by decide +kernel)

theorem simulate_hands_words_scriptProgram : ∃ command,
    Hands ⟨"/n"⟩ .buildScript command ["sim", "-v", "--topo=t", "--flow=/l/flows__0.dat",
      "--alloc=/l/alloc__0_0.dat", "--outfile=/r/out", "--gain=25"] ∧
    ∀ host, (scriptProgram ⟨"n"⟩ ⟨"t"⟩).simulate host (pairJob "") (onePair []) =
      (scriptProgram ⟨"n"⟩ ⟨"t"⟩).run host (pairJob "/") command (onePair []) := by
  have hhome : (onePair []).canonical ⟨"n"⟩ = .ok ⟨"/n"⟩ :=
    toOption_eq_some_iff.mp (by decide +kernel)
  have hwords : wordsOf (scriptProgram ⟨"n"⟩ ⟨"t"⟩).program ++
      (scriptProgram ⟨"n"⟩ ⟨"t"⟩).arguments (pairJob "/") = ["sim", "-v", "--topo=t",
        "--flow=/l/flows__0.dat", "--alloc=/l/alloc__0_0.dat", "--outfile=/r/out",
        "--gain=25"] := by
    decide +kernel
  obtain ⟨hfit, -⟩ := @simulate_hands_words (scriptProgram ⟨"n"⟩ ⟨"t"⟩) (pairJob "") (pairJob "/")
    (onePair []) (by decide +kernel) absolute_pairJob
  obtain ⟨command, -, hhands, hrun⟩ := hfit (by decide +kernel) ⟨"/n"⟩
  exact ⟨command, hwords ▸ hhands, fun host => hrun host hhome⟩

/-- Where there is no source tree, this is what is reported, whatever the arguments are. -/
theorem simulate_of_no_home :
    wordsOf (scriptProgram ⟨"missing"⟩ ⟨"a b"⟩).program ≠ [] ∧
    (scriptProgram ⟨"missing"⟩ ⟨"a b"⟩).launcher = .buildScript ∧
    (pairJob "").absolute (onePair []) = .ok (pairJob "/") ∧
    (∃ argument ∈ (scriptProgram ⟨"missing"⟩ ⟨"a b"⟩).arguments (pairJob "/"),
      hasBlank argument = true) ∧
    ∀ host, (scriptProgram ⟨"missing"⟩ ⟨"a b"⟩).simulate host (pairJob "") (onePair []) =
      (.error (.io .notFound), onePair []) := by
  have hhome : (onePair []).canonical ⟨"missing"⟩ = .error .notFound := by decide +kernel
  refine ⟨by decide +kernel, rfl, absolute_pairJob, by decide +kernel, fun host => ?_⟩
  rw [simulate_eq host absolute_pairJob, scriptProgram, hhome]

end RackTraffic.SimulatorProgram
