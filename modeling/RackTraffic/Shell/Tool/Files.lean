import RackTraffic.Disk.Tree
import RackTraffic.Shell.Tool.Basic

/-!
# Tools for files

The tools that make, copy, move, list and remove files.

A file that is removed while a channel leads to it is gone from the disk, but the channel keeps its
bytes. A file that is moved takes its channels along.

Only the machine for scripts (`Shell.host`) needs this module, and only `Main` and test runs need
the machine; no result is about it.
-/

namespace RackTraffic.Shell

open Effect

/-! ## Channels of changed files -/

def detach (gone : Place → Bool) : Effect Unit := modify fun s =>
  { s with
    channels := s.channels.map fun channel =>
      match channel.medium with
      | .file place =>
        if gone place then { channel with medium := .memory (channel.contents s.disk) } else channel
      | _ => channel }

def follow (source target : Place) : Effect Unit := modify fun s =>
  { s with
    channels := s.channels.map fun channel =>
      match channel.medium with
      | .file place => { channel with medium := .file (Disk.movedPlace source target place) }
      | _ => channel }

def mishap (name doing file : String) (error : IoError) : Effect Unit := do
  say name (doing ++ " '" ++ file ++ "': " ++ reasonOf error)
  done 1

/-! ## Directories -/

def mkdir : Tool :=
  let letters : Options.Letters :=
    { plain := "pv", withArgument := "m"
      long := [("parents", 'p'), ("verbose", 'v'), ("mode", 'm')] }
  withOptions letters 1 fun name o => do
    if o.operands.isEmpty then
      refuse name .missingOperand 1
      return
    done 0
    for file in o.operands do
      let before := (← get).disk
      let paths := if o.has 'p' then (Disk.ancestors file.length ⟨file⟩).reverse else [⟨file⟩]
      let made ← change (if o.has 'p' then Disk.makeDirectoryTree ⟨file⟩
        else DiskAction.change (·.makeDirectory ⟨file⟩))
      match made with
      | .error error =>
        let obstacle := if error = .notADirectory then paths.find? (before.isFile ·) else none
        mishap name "cannot create directory" ((obstacle.map Path.text).getD file) error
      | .ok () =>
        if o.has 'v' then
          for path in paths do
            if path.text ≠ "" && !before.contains path then
              printLine (name ++ ": created directory '" ++ path.text ++ "'")

def rmdir : Tool :=
  withOptions { plain := "pv", long := [("parents", 'p')] } 1 fun name o => do
    if o.operands.isEmpty then
      refuse name .missingOperand 1
      return
    let remove (d : Disk) (file : String) : Except IoError Disk := do
      let (place, entry) ← d.find ⟨file⟩
      if entry.isFile then throw .notADirectory
      if !(d.children place).isEmpty then throw .directoryNotEmpty
      return d.take place
    done 0
    for file in o.operands do
      let paths := if o.has 'p' then
          ((Disk.ancestors file.length ⟨file⟩).map Path.text).filter (· ≠ "")
        else [file]
      for path in paths do
        if let .error error ← change (DiskAction.change (remove · path)) then
          mishap name "failed to remove" path error
          break

/-! ## Removing -/

def rm : Tool :=
  let letters : Options.Letters :=
    { plain := "frRdvi", long := [("force", 'f'), ("recursive", 'r'), ("verbose", 'v')] }
  withOptions letters 1 fun name o => do
    let recursive := o.has 'r' || o.has 'R'
    if o.operands.isEmpty && !o.has 'f' then
      refuse name .missingOperand 1
      return
    done 0
    for file in o.operands do
      let dots := ((⟨file⟩ : Path).pieces.filter (· ≠ "")).getLast?
      if recursive && (dots = some "." || dots = some "..") then
        say name ("refusing to remove '.' or '..' directory: skipping '" ++ file ++ "'")
        done 1
        continue
      match (← get).disk.find ⟨file⟩ with
      | .error error =>
        let absent := error = .notFound || error = .notADirectory
        if !(o.has 'f' && absent) then mishap name "cannot remove" file error
      | .ok (place, entry) =>
        if !entry.isFile && !recursive then
          if o.has 'd' && ((← get).disk.children place).isEmpty then
            modify fun s => { s with disk := s.disk.take place }
          else mishap name "cannot remove" file .isADirectory
        else
          detach (isWithin place)
          modify fun s => { s with disk := s.disk.takeTree place }
          if o.has 'v' then
            printLine ((if entry.isFile then "removed '" else "removed directory '") ++ file ++ "'")

/-! ## Making files -/

def touch : Tool :=
  let letters : Options.Letters :=
    { plain := "acm", withArgument := "drt", long := [("no-create", 'c')] }
  withOptions letters 1 fun name o => do
    if o.operands.isEmpty then
      refuse name (.other "missing file operand") 1
      return
    done 0
    for file in o.operands do
      let d := (← get).disk
      if !d.contains ⟨file⟩ && !o.has 'c' && (device? file).isNone then
        match ← change (DiskAction.change (·.write ⟨file⟩ .empty)) with
        | .ok () => pure ()
        | .error .isADirectory =>
          mishap name "setting times of" file .notFound
        | .error error => mishap name "cannot touch" file error

def truncate : Tool :=
  withOptions { plain := "c", withArgument := "s", long := [("size", 's')] } 1 fun name o => do
    match (o.last? 's').bind String.toNat? with
    | none => refuse name (.other "you must specify either '--size' or '--reference'") 1
    | some size =>
      if o.operands.isEmpty then
        refuse name (.other "missing file operand") 1
        return
      done 0
      for file in o.operands do
        let old := ((← get).disk.read ⟨file⟩).toOption.getD .empty
        let gap := ByteArray.mk (Array.replicate (size - old.size) 0)
        let new := old.extract 0 size ++ gap
        if let .error error ← change (DiskAction.change (·.write ⟨file⟩ new)) then
          mishap name "cannot open" (file ++ "' for writing: '") error

def executableAfter? (mode : String) (before : Bool) : Option Bool :=
  let s := mode.toList
  if !s.isEmpty && s.all fun c => '0' ≤ c && c ≤ '7' then
    some (s.reverse.take 3 |>.any fun c => (c.toNat - '0'.toNat) % 2 == 1)
  else
    (s.splitOn ',').foldl (fun state clause => do
      let now ← state
      let (_, rest) := clause.span (['u', 'g', 'o', 'a'].contains ·)
      match rest with
      | sign :: letters =>
        if !(['+', '-', '='].contains sign) ||
            !letters.all (['r', 'w', 'x', 'X', 's', 't'].contains ·) then none
        else
          let x := letters.contains 'x'
          match sign with
          | '+' => some (now || x)
          | '-' => some (now && !x)
          | _ => some x
      | [] => none) (some before)

def chmod : Tool := fun name words => do
  let words := words.filter fun word => !(["-R", "-v", "-f", "-c"].contains word)
  match words with
  | [] => refuse name .missingOperand 1
  | word :: rest =>
  if word.startsWith "--" then
    refuse name (.unknownOption word) 1
    return
  match word, rest with
  | mode, [] => refuse name (.missingOperandAfter mode) 1
  | mode, files =>
    if (executableAfter? mode false).isNone then
      refuse name (.other ("invalid mode: '" ++ mode ++ "'")) 1
      return
    done 0
    for file in files do
      match (← get).disk.find ⟨file⟩ with
      | .error error => mishap name "cannot access" file error
      | .ok (_, .directory) => pure ()
      | .ok (place, .file contents before) =>
        let after := (executableAfter? mode before).getD before
        modify fun s => { s with disk := s.disk.put place (.file contents after) }

/-! ## Copying and moving -/

def targetIn (directory file : String) : String :=
  ((⟨directory⟩ : Path).join (((⟨file⟩ : Path).fileName?).getD file)).text

/-- Whether words name files and a directory that they go to. If the words are not right, say so. -/
def checkTarget (name : String) (operands : List String) :
    Effect (Option (List String × String)) := do
  let refused (fault : UsageFault) : Effect (Option (List String × String)) := do
    refuse name fault 1
    return none
  match operands with
  | [] => refused (.other "missing file operand")
  | [only] => refused (.other ("missing destination file operand after '" ++ only ++ "'"))
  | _ =>
    let target := operands.getLast?.getD ""
    let sources := operands.dropLast
    if 1 < sources.length && !(← get).disk.isDirectory ⟨target⟩ then
      let error := match (← get).disk.find ⟨target⟩ with
        | .error error => error
        | .ok _ => .notADirectory
      say name ("target '" ++ target ++ "': " ++ reasonOf error)
      done 1
      return none
    return some (sources, target)

def cp : Tool :=
  let letters : Options.Letters :=
    { plain := "rRafpnvudLP", long := [("recursive", 'r'), ("archive", 'a'), ("force", 'f')] }
  withOptions letters 1 fun name o => do
    let recursive := o.has 'r' || o.has 'R' || o.has 'a'
    let some (sources, target) ← checkTarget name o.operands | return
    done 0
    for source in sources do
      let d := (← get).disk
      let path := if d.isDirectory ⟨target⟩ then targetIn target source else target
      let found := if device? source = some "null" then .ok ([], .file .empty false)
        else d.find ⟨source⟩
      match found with
      | .error error => mishap name "cannot stat" source error
      | .ok (place, .directory) =>
        if !recursive then
          say name ("-r not specified; omitting directory '" ++ source ++ "'")
          done 1
          continue
        match d.locate ⟨path⟩ with
        | .error error => mishap name "cannot create directory" path error
        | .ok goal =>
          if goal = place then
            say name ("'" ++ source ++ "' and '" ++ path ++ "' are the same file")
            done 1
          else if isWithin place goal then
            modify fun s => { s with disk := s.disk.copyTree place goal }
            say name ("cannot copy a directory, '" ++ source ++ "', into itself, '" ++ path ++ "'")
            done 1
          else
            match d.at? goal, d.at? goal.tail with
            | some (.file ..), _ =>
              say name ("cannot overwrite non-directory '" ++ path ++ "' with directory '" ++
                source ++ "'")
              done 1
            | none, some (.file ..) => mishap name "cannot create directory" path .notADirectory
            | none, none => mishap name "cannot create directory" path .notFound
            | _, _ => modify fun s => { s with disk := s.disk.copyTree place goal }
      | .ok (place, .file contents executable) =>
        match d.find ⟨path⟩ with
        | .ok (goal, .file ..) =>
          if goal = place then
            say name ("'" ++ source ++ "' and '" ++ path ++ "' are the same file")
            done 1
          else if !o.has 'n' then
            let _ ← change (DiskAction.change (·.write ⟨path⟩ contents))
        | .ok (_, .directory) =>
          say name ("cannot overwrite directory '" ++ path ++ "' with non-directory")
          done 1
        | .error .notADirectory =>
          mishap name (if (⟨path⟩ : Path).endsInSlash then "cannot stat"
            else "failed to access") path .notADirectory
        | .error _ =>
          if device? path = some "null" then continue
          match ← change (DiskAction.change (·.write ⟨path⟩ contents)) with
          | .error .isADirectory =>
            mishap name "cannot create regular file" path .notADirectory
          | .error error => mishap name "cannot create regular file" path error
          | .ok () =>
            if let .ok (goal, _) := (← get).disk.find ⟨path⟩ then
              modify fun s => { s with disk := s.disk.put goal (.file contents executable) }
            if o.has 'v' then printLine ("'" ++ source ++ "' -> '" ++ path ++ "'")

def mv : Tool :=
  withOptions { plain := "fnvui", long := [("force", 'f'), ("no-clobber", 'n')] } 1 fun name o => do
    let some (sources, target) ← checkTarget name o.operands | return
    done 0
    for source in sources do
      let d := (← get).disk
      let path := if d.isDirectory ⟨target⟩ then targetIn target source else target
      match d.find ⟨source⟩ with
      | .error error => mishap name "cannot stat" source error
      | .ok (place, entry) =>
        let goal? := (d.locate ⟨path⟩).toOption
        let there := (d.find ⟨path⟩).toOption
        if o.has 'n' && there.isSome then continue
        if goal? = some place then
          say name ("'" ++ source ++ "' and '" ++ path ++ "' are the same file")
          done 1
          continue
        if let some goal := goal? then detach (· == goal)
        match ← change (DiskAction.change (·.rename ⟨source⟩ ⟨path⟩)) with
        | .ok () =>
          if let some goal := goal? then follow place goal
          if o.has 'v' then
            printLine ("renamed '" ++ source ++ "' -> '" ++ path ++ "'")
        | .error error =>
          let wording := match error, there with
            | .moveIntoSelf, _ =>
              "cannot move '" ++ source ++ "' to a subdirectory of itself, '" ++ path ++ "'"
            | _, some (_, .file ..) =>
              if entry.isFile then
                "cannot move '" ++ source ++ "' to '" ++ path ++ "': " ++ reasonOf error
              else "cannot overwrite non-directory '" ++ path ++ "' with directory '" ++
                source ++ "'"
            | _, some (_, .directory) =>
              if entry.isFile then
                "cannot overwrite directory '" ++ path ++ "' with non-directory"
              else "cannot move '" ++ source ++ "' to '" ++ path ++ "': " ++ reasonOf error
            | _, none => "cannot move '" ++ source ++ "' to '" ++ path ++ "': " ++ reasonOf error
          say name wording
          done 1

/-! ## Looking -/

/-- A directory and those below it whose names are shown, each before what it holds. -/
def directoriesBelow (d : Disk) (isShown : String → Bool) (order : List String → List String) :
    (fuel : Nat) → String → List String
  | 0, directory => [directory]
  | fuel + 1, directory =>
    let names := ((d.list ⟨directory⟩).toOption.getD []).filterMap fun (name, entry) =>
      if !entry.isFile && isShown name then some name else none
    directory :: (order names).flatMap fun name =>
      directoriesBelow d isShown order fuel ((⟨directory⟩ : Path).join name).text

def ls : Tool :=
  let letters : Options.Letters := { plain := "aAd1FprtSUhCxRlgnosi", long := [("all", 'a')] }
  withOptions letters 2 fun name o => do
    let operands := if o.operands.isEmpty then ["."] else o.operands
    let order (names : List String) : List String :=
      let sorted := names.mergeSort fun a b => a ≤ b
      if o.has 'r' then sorted.reverse else sorted
    let d := (← get).disk
    let mark (isFile executable : Bool) (text : String) : String :=
      if !isFile && (o.has 'F' || o.has 'p') then text ++ "/"
      else if o.has 'F' && executable then text ++ "*"
      else text
    let shown (text path : String) : String :=
      match (d.find ⟨path⟩).toOption.map Prod.snd with
      | some (.file _ executable) => mark true executable text
      | some .directory => mark false false text
      | none => text
    done 0
    for file in operands do
      if let .error error := d.find ⟨file⟩ then
        say name ("cannot access '" ++ file ++ "': " ++ reasonOf error)
        done 2
    let there := operands.filter fun file => d.contains ⟨file⟩
    let (directories, files) := there.partition fun file => !o.has 'd' && d.isDirectory ⟨file⟩
    for file in order files do printLine (shown file file)
    let mut first := files.isEmpty
    let isShown (file : String) : Bool := o.has 'a' || o.has 'A' || !file.startsWith "."
    let deep := o.has 'R'
    let directories := (order directories).flatMap fun directory =>
      if deep then directoriesBelow d isShown order (d.entries.size + 1) directory else [directory]
    for directory in directories do
      let names := ((d.list ⟨directory⟩).toOption.getD []).map Prod.fst
      let names := if o.has 'a' then "." :: ".." :: names else names.filter isShown
      if deep || 1 < operands.length then
        printLine ((if first then "" else "\n") ++ directory ++ ":")
      first := false
      for file in order names do
        printLine (shown file ((⟨directory⟩ : Path).join file).text)

def realpath : Tool :=
  withOptions { plain := "fezmqs" } 1 fun name o => do
    if o.operands.isEmpty then
      refuse name .missingOperand 1
      return
    done 0
    for file in o.operands do
      match (← get).disk.locate ⟨file⟩ with
      | .ok place => printLine (Disk.pathTo place).text
      | .error error =>
        if name = "realpath" then say name (file ++ ": " ++ reasonOf error)
        done 1

end RackTraffic.Shell
