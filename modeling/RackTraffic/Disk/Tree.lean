import RackTraffic.Disk.Basic

/-!
# Trees of a disk

What is at a place and below it can be removed or copied as a whole.
-/

namespace RackTraffic

/-- Whether a place is at another one or below it. -/
def isWithin (outer place : Place) : Bool := outer.isSuffixOf place

namespace Disk

def takeTree (d : Disk) (place : Place) : Disk :=
  { d with entries := d.entries.filter fun other _ => !isWithin place other }

def copyTree (d : Disk) (source target : Place) : Disk :=
  (d.entries.toList.filter fun (place, _) => isWithin source place).foldl
    (fun d (place, entry) => d.put (movedPlace source target place) entry) d

end Disk

end RackTraffic
