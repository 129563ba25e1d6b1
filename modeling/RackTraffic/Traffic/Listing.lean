import RackTraffic.Disk.Basic
import RackTraffic.Traffic.Name

/-!
# Listings

The files of a kind in a directory, with the numbers in their names. An operating system returns
the entries of a directory in any order; a listing is sorted by number, so it depends only on what
the directory holds. Directories and files with names of another form are left out.

Numbers are compared as numbers: scenario 9 comes before scenario 10. Pairs are compared by their
scenarios first.
-/

namespace RackTraffic

def ScenarioId.le (a b : ScenarioId) : Bool := a.number ≤ b.number

def PairId.le (a b : PairId) : Bool :=
  a.scenario.number < b.scenario.number ||
    a.scenario.number == b.scenario.number && a.variant.number ≤ b.variant.number

/-- The entries that are regular files with a recognised name, sorted by what the name says. -/
def listing {κ : Type} (le : κ → κ → Bool) (recognise : String → Option κ) (directory : Path)
    (entries : List (String × Entry)) : List (κ × Path) :=
  let found := entries.filterMap fun (name, entry) =>
    if entry.isFile then (recognise name).map fun key => (key, directory.join name) else none
  found.mergeSort fun a b => le a.1 b.1

namespace Disk

/-- The flow logs in a directory. -/
def flowLogs (d : Disk) (directory : Path) : Except IoError (List (ScenarioId × Path)) :=
  (d.list directory).map (listing ScenarioId.le ScenarioId.ofFlowLogName? directory)

def allocationLogs (d : Disk) (directory : Path) : Except IoError (List (PairId × Path)) :=
  (d.list directory).map (listing PairId.le PairId.ofAllocationLogName? directory)

def results (d : Disk) (directory : Path) : Except IoError (List (PairId × Path)) :=
  (d.list directory).map (listing PairId.le PairId.ofResultName? directory)

end Disk

end RackTraffic
