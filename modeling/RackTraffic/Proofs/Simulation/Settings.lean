import RackTraffic.Simulation.Settings

/-!
# Layered settings

Settings that are put over one another have, of each setting by itself, the first value that is set
(`Layers.get_combined`). So only the order in which they are put over one another counts, and not
how they are bracketed: `or` is associative, settings that leave everything open change nothing, and
neither does a second layer of the same settings.

**Theorem (`Layers.combined_firstSet`).** It follows which simulator program layered settings
describe: none if no layer says where the source tree is, or if none says where the topology is,
which is reported only after the source tree; and otherwise the one whose parts are the first values
that are set, or the defaults where nothing is.
-/

namespace RackTraffic

/-- One of the settings. -/
inductive Setting where
  | home
  | topology
  | program
  | gain
  | timeLimit
  | workers
  | launcher
  deriving DecidableEq, Repr

/-- What a setting can be set to. -/
def Setting.Value : Setting → Type
  | .home | .topology => Path
  | .program => String
  | .gain => Float
  | .timeLimit | .workers => UInt64
  | .launcher => Launcher

namespace RunSettings

/-- The value of a setting, if it is set. -/
def get (s : RunSettings) : (k : Setting) → Option k.Value
  | .home => s.home
  | .topology => s.topology
  | .program => s.program
  | .gain => s.gain
  | .timeLimit => s.timeLimit
  | .workers => s.workers
  | .launcher => s.launcher

variable {s t : RunSettings}

/-- Settings are known by their values. -/
theorem ext_get (h : ∀ k, s.get k = t.get k) : s = t := by
  obtain ⟨home, topology, program, gain, timeLimit, workers, launcher⟩ := s
  rw [mk.injEq]
  exact ⟨h .home, h .topology, h .program, h .gain, h .timeLimit, h .workers, h .launcher⟩

theorem get_or (s t : RunSettings) (k : Setting) : (s.or t).get k = (s.get k).or (t.get k) := by
  cases k <;> rfl

theorem get_open (k : Setting) : ({} : RunSettings).get k = none := by
  cases k <;> rfl

/-! ## Laws -/

theorem or_assoc (s t u : RunSettings) : (s.or t).or u = s.or (t.or u) :=
  ext_get fun k => by simp only [get_or, Option.or_assoc]

theorem open_or (s : RunSettings) : ({} : RunSettings).or s = s :=
  ext_get fun k => by rw [get_or, get_open, Option.none_or]

theorem or_open (s : RunSettings) : s.or {} = s :=
  ext_get fun k => by rw [get_or, get_open, Option.or_none]

theorem or_self (s : RunSettings) : s.or s = s :=
  ext_get fun k => by rw [get_or, Option.or_self]

/-! ## Layers -/

/-- One or more settings, put over one another in some bracketing. -/
inductive Layers where
  | single (s : RunSettings)
  | stack (upper lower : Layers)

/-- The settings that are put over one another, the uppermost first. -/
def Layers.chain : Layers → List RunSettings
  | .single s => [s]
  | .stack upper lower => upper.chain ++ lower.chain

/-- The settings that layers come to. -/
def Layers.combined : Layers → RunSettings
  | .single s => s
  | .stack upper lower => upper.combined.or lower.combined

/-- **The first value counts**, for each setting by itself. -/
theorem Layers.get_combined (layers : Layers) (k : Setting) :
    layers.combined.get k = layers.chain.findSome? (·.get k) := by
  induction layers with
  | single s => simp [combined, chain]
  | stack upper lower hupper hlower =>
    rw [combined, chain, get_or, hupper, hlower, List.findSome?_append]

/-! ## Simulator programs -/

/-- A simulator program has the first values that a chain of settings sets, and the defaults where
it sets none. The number of workers is not for the program. -/
structure Describes (chain : List RunSettings) (p : SimulatorProgram) : Prop where
  home : chain.findSome? (·.home) = some p.home
  topology : chain.findSome? (·.topology) = some p.topology
  program : p.program = (chain.findSome? (·.program)).getD "flyway-data"
  gain : p.gain = (chain.findSome? (·.gain)).getD 25.0
  timeLimit : p.timeLimit =
    (chain.findSome? (·.timeLimit)).map fun seconds => .ofSeconds seconds.toNat
  launcher : p.launcher = (chain.findSome? (·.launcher)).getD .buildScript

/-- The source tree is missed first. -/
theorem simulatorProgram_missing_home_iff :
    s.simulatorProgram = .error (.missing .home) ↔ s.home = none := by
  cases hhome : s.home <;> cases htopology : s.topology <;>
    simp [simulatorProgram, require, hhome, htopology, bind, Except.bind, pure, Except.pure]

theorem simulatorProgram_missing_topology_iff :
    s.simulatorProgram = .error (.missing .topology) ↔ s.home ≠ none ∧ s.topology = none := by
  cases hhome : s.home <;> cases htopology : s.topology <;>
    simp [simulatorProgram, require, hhome, htopology, bind, Except.bind, pure, Except.pure]

variable {layers : Layers}

/-- Layers leave a setting open if each of them does. -/
theorem Layers.get_combined_eq_none_iff (k : Setting) :
    layers.combined.get k = none ↔ ∀ s ∈ layers.chain, s.get k = none := by
  rw [get_combined, List.findSome?_eq_none_iff]

theorem Layers.get_combined_ne_none_iff (k : Setting) :
    layers.combined.get k ≠ none ↔ ∃ s ∈ layers.chain, s.get k ≠ none := by
  simp [get_combined_eq_none_iff]

theorem Layers.exists_program (hhome : layers.combined.home ≠ none)
    (htopology : layers.combined.topology ≠ none) :
    ∃ p, layers.combined.simulatorProgram = .ok p ∧ Describes layers.chain p := by
  obtain ⟨home, hhome⟩ := Option.ne_none_iff_exists'.mp hhome
  obtain ⟨topology, htopology⟩ := Option.ne_none_iff_exists'.mp htopology
  have hfirst := layers.get_combined
  refine ⟨_, by rw [simulatorProgram, hhome, htopology]; rfl, ?_⟩
  exact {
    home := (hfirst .home).symm.trans hhome
    topology := (hfirst .topology).symm.trans htopology
    program := congrArg (Option.getD · defaultProgram) (hfirst .program)
    gain := congrArg (Option.getD · defaultGain) (hfirst .gain)
    timeLimit := congrArg (Option.map fun seconds : UInt64 => Duration.ofSeconds seconds.toNat)
      (hfirst .timeLimit)
    launcher := congrArg (Option.getD · Launcher.buildScript) (hfirst .launcher) }

/-- **Layered settings.** Of each setting by itself the first value counts that a layer sets, so
layers can be bracketed in any way, and neither open settings nor a second layer of the same ones
make a difference. Layers describe a simulator program unless none of them says where the source
tree is, or else none says where the topology is. The program has the first values that are set, and
the defaults for the rest. -/
theorem Layers.combined_firstSet :
    (∀ (layers : Layers) (k : Setting),
      layers.combined.get k = layers.chain.findSome? (·.get k)) ∧
    (∀ s t u : RunSettings, (s.or t).or u = s.or (t.or u)) ∧
    (∀ s : RunSettings, ({} : RunSettings).or s = s ∧ s.or {} = s ∧ s.or s = s) ∧
    ∀ layers : Layers,
      (layers.combined.simulatorProgram = .error (.missing .home) ↔
        ∀ s ∈ layers.chain, s.home = none) ∧
      (layers.combined.simulatorProgram = .error (.missing .topology) ↔
        (∃ s ∈ layers.chain, s.home ≠ none) ∧ ∀ s ∈ layers.chain, s.topology = none) ∧
      ((∃ s ∈ layers.chain, s.home ≠ none) → (∃ s ∈ layers.chain, s.topology ≠ none) →
        ∃ p, layers.combined.simulatorProgram = .ok p ∧ Describes layers.chain p) := by
  refine ⟨get_combined, or_assoc, fun s => ⟨open_or s, or_open s, or_self s⟩, fun layers =>
    ⟨?_, ?_, fun hhome htopology => ?_⟩⟩
  · exact simulatorProgram_missing_home_iff.trans (get_combined_eq_none_iff .home)
  · exact simulatorProgram_missing_topology_iff.trans
      (and_congr (get_combined_ne_none_iff .home) (get_combined_eq_none_iff .topology))
  · exact exists_program ((get_combined_ne_none_iff .home).mpr hhome)
      ((get_combined_ne_none_iff .topology).mpr htopology)

/-- Flags that say where the topology is, over a file that does so too and says where the source
tree is, over another file. -/
def threeLayers : Layers :=
  .stack (.single { topology := some ⟨"t"⟩, workers := some 2 })
    (.stack (.single { home := some ⟨"n"⟩, topology := some ⟨"u"⟩, timeLimit := some 3 })
      (.single { home := some ⟨"m"⟩, timeLimit := some 4, launcher := some .direct }))

theorem Layers.combined_firstSet_threeLayers :
    ∃ p, threeLayers.combined.simulatorProgram = .ok p ∧ p.home = ⟨"n"⟩ ∧ p.topology = ⟨"t"⟩ ∧
      p.program = "flyway-data" ∧ p.timeLimit = some (.ofSeconds 3) ∧ p.launcher = .direct := by
  obtain ⟨-, -, -, hlayers⟩ := Layers.combined_firstSet
  obtain ⟨p, hp, h⟩ := (hlayers threeLayers).2.2
    ⟨{ home := some ⟨"n"⟩, topology := some ⟨"u"⟩, timeLimit := some 3 },
      by simp [threeLayers, chain],
      nofun⟩
    ⟨{ topology := some ⟨"t"⟩, workers := some 2 }, by simp [threeLayers, chain], nofun⟩
  exact ⟨p, hp, Option.some.inj (h.home.symm.trans rfl),
    Option.some.inj (h.topology.symm.trans rfl),
    h.program.trans rfl, h.timeLimit.trans rfl, h.launcher.trans rfl⟩

end RunSettings

end RackTraffic
