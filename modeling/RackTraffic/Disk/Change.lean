import RackTraffic.Disk.Basic

/-!
# Changes of disks

What has to be done to a disk to make another of it: first remove what is gone, from the inside out,
then make what is new, from the outside in.
-/

namespace RackTraffic

inductive DiskChange where
  | remove (place : Place) (entry : Entry)
  | make (place : Place) (entry : Entry)
  deriving DecidableEq

/-- The entries of the first disk that the second does not have, or has as something else, those
nearer to the root first. -/
def Disk.missing (d e : Disk) (gone : Entry → Option Entry → Bool) : List (Place × Entry) :=
  (d.entries.toList.filter fun (place, entry) => gone entry (e.at? place)).mergeSort
    fun a b => a.1.length ≤ b.1.length

/-- Whether an entry must be removed to make way for another. -/
def Entry.mustGo : Entry → Option Entry → Bool
  | _, none => true
  | .directory, some entry => entry.isFile
  | .file .., some entry => !entry.isFile

def Disk.changes (before after : Disk) : List DiskChange :=
  (before.missing after Entry.mustGo).reverse.map (fun (place, entry) => .remove place entry) ++
    (after.missing before fun entry found => found != some entry).map
      (fun (place, entry) => .make place entry)

end RackTraffic
