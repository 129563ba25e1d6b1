import RackTraffic.Proofs.Traffic.FileRole
import RackTraffic.Simulation.Batch

/-!
# The files of a pair

While a pair is run, three names in the output directory are its own: those of its result, of the
result while it is being made, and of the console file. All of them can be names of entries
(`isEntryName_of_mem_workNames`), two pairs have none in common (`eq_of_mem_workNames`), and none is
the name of a log (`flowLogName_notMem_workNames`, `allocationLogName_notMem_workNames`).
-/

namespace RackTraffic

/-! ## Names of entries -/

namespace PairId

/-- The names of the files that a pair is run with. -/
def workNames (id : PairId) : List String := [id.resultName, id.partialName, id.consoleName]

theorem isEntryName_partialName (id : PairId) : IsEntryName id.partialName := by
  rw [partialName_eq]
  exact id.isEntryName_name (by decide) (by decide) (by decide) (by decide)

theorem isEntryName_consoleName (id : PairId) : IsEntryName id.consoleName := by
  rw [consoleName_eq]
  exact id.isEntryName_name (by decide) (by decide) (by decide) (by decide)

end PairId

theorem PairId.isEntryName_of_mem_workNames {id : PairId} {name : String}
    (h : name ∈ id.workNames) : IsEntryName name := by
  simp only [workNames, List.mem_cons, List.not_mem_nil, or_false] at h
  rcases h with rfl | rfl | rfl
  · exact id.isEntryName_resultName
  · exact id.isEntryName_partialName
  · exact id.isEntryName_consoleName

/-! ## Different names -/

/-- What the files that a pair is run with are for. -/
def PairId.workRoles (id : PairId) : List FileRole := [.result id, .partialResult id, .console id]

theorem PairId.workNames_eq (id : PairId) : id.workNames = id.workRoles.map FileRole.name := rfl

/-- A file that is for something else has another name. -/
theorem PairId.name_notMem_workNames (id : PairId) (role : FileRole) (h : role ∉ id.workRoles) :
    role.name ∉ id.workNames := by
  rwa [workNames_eq, List.mem_map_of_injective FileRole.name_injective]

/-- No two pairs have a file in common. -/
theorem PairId.eq_of_mem_workNames {a b : PairId} {name : String} (ha : name ∈ a.workNames)
    (hb : name ∈ b.workNames) : a = b := by
  rw [workNames_eq, List.mem_map] at ha
  obtain ⟨role, hrole, rfl⟩ := ha
  rw [workNames_eq, List.mem_map_of_injective FileRole.name_injective] at hb
  simp only [workRoles, List.mem_cons, List.not_mem_nil, or_false] at hrole hb
  rcases hrole with rfl | rfl | rfl <;> simpa using hb

theorem PairId.resultName_ne_partialName (id : PairId) : id.resultName ≠ id.partialName :=
  FileRole.name_ne (nofun : FileRole.result id ≠ .partialResult id)

theorem PairId.resultName_ne_consoleName (id : PairId) : id.resultName ≠ id.consoleName :=
  FileRole.name_ne (nofun : FileRole.result id ≠ .console id)

theorem PairId.partialName_ne_consoleName (id : PairId) : id.partialName ≠ id.consoleName :=
  FileRole.name_ne (nofun : FileRole.partialResult id ≠ .console id)

theorem ScenarioId.flowLogName_notMem_workNames (s : ScenarioId) (id : PairId) :
    s.flowLogName ∉ id.workNames :=
  id.name_notMem_workNames (.flowLog s) (by simp [PairId.workRoles])

theorem PairId.allocationLogName_notMem_workNames (id id' : PairId) :
    id.allocationLogName ∉ id'.workNames :=
  id'.name_notMem_workNames (.allocationLog id) (by simp [workRoles])

/-- A job whose files in the output directory are those of its pair. -/
structure Job.InDirectory (results : Path) (job : Job) : Prop where
  output_eq : job.output = results.join job.id.partialName
  console_eq : job.console = results.join job.id.consoleName

end RackTraffic
