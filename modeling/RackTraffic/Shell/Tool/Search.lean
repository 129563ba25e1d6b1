import RackTraffic.Shell.Tool.Files

/-!
# Searching directories

A search goes through directories and what is below them, each directory before what it holds. For
each file a criterion is tested, parts of which may also print the path or run a command.

Only the machine for scripts (`Shell.host`) needs this module, and only `Main` and test runs need
the machine; no result is about it.
-/

namespace RackTraffic.Shell

open Effect

/-- What a file is tested for. -/
inductive Criterion where
  | always
  | name (pattern : List Char) (fold : Bool)
  | path (pattern : List Char)
  | kind (isFile : Bool)
  | empty
  | not (a : Criterion)
  | both (a b : Criterion)
  | either (a b : Criterion)
  | print (ending : List Char)
  | delete
  /-- Run a command with the path in it. -/
  | run (words : List String)
  /-- Run a command with all paths, when the search is over. -/
  | gather (words : List String)
  deriving Repr

namespace Criterion

def any (p : Criterion → Bool) : Criterion → Bool
  | .not a => a.any p
  | .both a b | .either a b => a.any p || b.any p
  | c => p c

/-- Whether a criterion acts, so that paths are not printed by themselves. -/
def acts : Criterion → Bool :=
  any fun
    | .print _ | .delete | .run _ | .gather _ => true
    | _ => false

/-- Whether a criterion removes files, so that a directory comes after what it holds. -/
def removes : Criterion → Bool :=
  any fun
    | .delete => true
    | _ => false

end Criterion

/-! ## Reading -/

/-- A criterion that is being read, with the depths that the words limit. -/
structure SearchRead where
  words : List String
  most : Option Nat := none
  least : Nat := 0

abbrev SearchReader := StateT SearchRead (Except String)

/-- Take the next word, which a word before it asks for. -/
def argumentOf (word : String) : SearchReader String := do
  match (← get).words with
  | argument :: rest =>
    modify fun r => { r with words := rest }
    return argument
  | [] => throw ("missing argument to \x60" ++ word ++ "'")

def depthOf (word : String) : SearchReader Nat := do
  let argument ← argumentOf word
  match argument.toNat? with
  | some n => return n
  | none =>
    throw ("Expected a positive decimal integer argument to " ++ word ++ ", but got \x60" ++
      argument ++ "'")

mutual

/-- Criteria of which one is to be met. -/
def readEither : (fuel : Nat) → SearchReader Criterion
  | 0 => throw ""
  | fuel + 1 => do
    let a ← readBoth fuel
    match (← get).words with
    | "-o" :: rest | "-or" :: rest =>
      modify fun r => { r with words := rest }
      return .either a (← readEither fuel)
    | _ => return a

def readBoth : (fuel : Nat) → SearchReader Criterion
  | 0 => throw ""
  | fuel + 1 => do
    let a ← readCriterion fuel
    match (← get).words with
    | [] | "-o" :: _ | "-or" :: _ | ")" :: _ => return a
    | "-a" :: rest | "-and" :: rest =>
      modify fun r => { r with words := rest }
      return .both a (← readBoth fuel)
    | _ => return .both a (← readBoth fuel)

def readCriterion : (fuel : Nat) → SearchReader Criterion
  | 0 => throw ""
  | fuel + 1 => do
    match (← get).words with
    | [] => return .always
    | word :: rest =>
      modify fun r => { r with words := rest }
      match word with
      | "!" | "-not" => return .not (← readCriterion fuel)
      | "(" =>
        let c ← readEither fuel
        match (← get).words with
        | ")" :: rest =>
          modify fun r => { r with words := rest }
          return c
        | _ =>
          throw "invalid expression; I was expecting to find a ')' somewhere but did not see one."
      | "-name" => return .name (← argumentOf word).toList false
      | "-iname" => return .name ((← argumentOf word).toList.map Char.toLower) true
      | "-path" | "-wholename" => return .path (← argumentOf word).toList
      | "-empty" => return .empty
      | "-true" | "-depth" => return .always
      | "-false" => return .not .always
      | "-print" => return .print ['\n']
      | "-print0" => return .print ['\x00']
      | "-delete" => return .delete
      | "-type" =>
        match ← argumentOf word with
        | "f" => return .kind true
        | "d" => return .kind false
        | kind =>
          if ["b", "c", "p", "l", "s"].contains kind then return .not .always
          throw ("Unknown argument to -type: " ++ kind)
      | "-maxdepth" =>
        let n ← depthOf word
        modify fun r => { r with most := some n }
        return .always
      | "-mindepth" =>
        let n ← depthOf word
        modify fun r => { r with least := n }
        return .always
      | "-exec" =>
        let words := (← get).words
        let command := words.takeWhile fun w => w != ";" && w != "+"
        match words.drop command.length with
        | stop :: rest =>
          modify fun r => { r with words := rest }
          if stop = "+" then return .gather (command.filter (· != "\x7b\x7d"))
          return .run command
        | [] => throw ("missing argument to \x60" ++ word ++ "'")
      | _ => throw ("unknown predicate \x60" ++ word ++ "'")

end

/-! ## Searching -/

/-- The paths at and below a path, each with its depth and place. -/
def pathsBelow (d : Disk) (most : Option Nat) (late : Bool) :
    (fuel depth : Nat) → Path → Place → List (Nat × Path × Place)
  | 0, _, _, _ => []
  | fuel + 1, depth, path, place =>
    let inner := if most.any (· ≤ depth) then [] else
      ((d.children place).mergeSort fun a b => a.1 ≤ b.1).flatMap fun (name, _) =>
        pathsBelow d most late fuel (depth + 1) (path.join name) (name :: place)
    if late then inner ++ [(depth, path, place)] else (depth, path, place) :: inner

/-- Test a criterion for a file. The paths that are gathered are added to those before. -/
def Criterion.test (start : List String → Effect Unit) (name : String) (path : Path)
    (place : Place) : Criterion → List String → Effect (Bool × List String)
  | .always, found => return (true, found)
  | .name pattern fold, found => do
    let own := (path.fileName?.getD path.text).toList
    let own := if fold then own.map Char.toLower else own
    return (patternMatches (marksOf .plain pattern) own, found)
  | .path pattern, found => return (patternMatches (marksOf .plain pattern) path.text.toList, found)
  | .kind isFile, found => do
    return (((← get).disk.at? place).any (·.isFile == isFile), found)
  | .empty, found => do
    let d := (← get).disk
    let b := match d.at? place with
      | some (.file contents _) => contents.size == 0
      | _ => (d.children place).isEmpty
    return (b, found)
  | .not a, found => do
    let (b, found) ← a.test start name path place found
    return (!b, found)
  | .both a b, found => do
    let (met, found) ← a.test start name path place found
    if met then b.test start name path place found else return (false, found)
  | .either a b, found => do
    let (met, found) ← a.test start name path place found
    if met then return (true, found) else b.test start name path place found
  | .print ending, found => do
    write 1 (path.text.toUTF8 ++ bytesOf ending)
    return (true, found)
  | .delete, found => do
    let d := (← get).disk
    match d.at? place with
    | some .directory =>
      if (d.children place).isEmpty then
        modify fun s => { s with disk := s.disk.take place }
        return (true, found)
      mishap name "cannot delete" path.text .directoryNotEmpty
      return (false, found)
    | _ =>
      detach (· == place)
      modify fun s => { s with disk := s.disk.take place }
      return (true, found)
  | .run words, found => do
    let status := (← get).status
    start (words.map fun word => path.text.intercalate (word.splitOn "\x7b\x7d"))
    let met := (← get).status = 0
    done status
    return (met, found)
  | .gather _, found => return (true, found ++ [path.text])

def Criterion.gathering : Criterion → Option (List String)
  | .gather words => some words
  | .not a => a.gathering
  | .both a b | .either a b => a.gathering.or b.gathering
  | _ => none

def search (start : List String → Effect Unit) : Tool := fun name words => do
  let roots := words.takeWhile fun word =>
    !(word.startsWith "-" || word = "!" || word = "(")
  let read := (readEither (2 * words.length + 2)).run { words := words.drop roots.length }
  match read with
  | .error reason =>
    say name reason
    done 1
  | .ok (criterion, read) =>
    if let word :: _ := read.words then
      say name (if word = ")" then "invalid expression; you have too many ')'"
        else "paths must precede expression: \x60" ++ word ++ "'")
      done 1
      return
    let criterion := if criterion.acts then criterion else .both criterion (.print ['\n'])
    let late := criterion.removes
    let mut found : List String := []
    done 0
    for root in if roots.isEmpty then ["."] else roots do
      let d := (← get).disk
      match d.find ⟨root⟩ with
      | .error error =>
        say name ("'" ++ root ++ "': " ++ reasonOf error)
        done 1
      | .ok (place, _) =>
        let reached := pathsBelow d read.most late (d.entries.size + 1) 0 ⟨root⟩ place
        for (depth, path, place) in reached do
          if read.least ≤ depth then
            let (_, all) ← criterion.test start name path place found
            found := all
    if let some words := criterion.gathering then
      if !found.isEmpty then
        let status := (← get).status
        start (words ++ found)
        if (← get).status = 0 then done status else done 1

end RackTraffic.Shell
