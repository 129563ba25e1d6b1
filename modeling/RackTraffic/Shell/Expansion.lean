import RackTraffic.Shell.Field
import RackTraffic.Shell.Session

/-!
# Expanding words

What a word stands for depends on the state of the script. Home directories are written out first;
then each parameter gives way to fragments of its value, which are split into fields later unless
quotes surround the parameter.

Only the machine for scripts (`Shell.host`) needs this module, and only `Main` and test runs need
the machine; no result is about it.
-/

namespace RackTraffic.Shell

/-- The home directory of a user, or of the one who runs the script. -/
def homeOf (c : Context) (user : String) : Option String :=
  if user = "" then c.text? "HOME" else if user = "root" then some "/root" else none

/-- The home directory that a word starts with, and how many pieces stand for it. In a value that is
assigned, it ends at a colon too. -/
def leadingHome? (c : Context) (assigned : Bool) : Word → Option (String × Nat)
  | .char '~' false :: rest =>
    let user := rest.takeWhile fun
      | .char c false => isNameChar c || c == '-'
      | _ => false
    let ends := match rest.drop user.length with
      | [] => true
      | .char c false :: _ => c == '/' || (assigned && c == ':')
      | _ => false
    if ends then (homeOf c (unquotedText user)).map (·, user.length + 1) else none
  | _ => none

/-- A word whose home directories are written out. One may stand at the start; in a value that is
assigned, also after each colon. -/
def expandHome (c : Context) (assigned : Bool) (word : Word) : Word :=
  go true 0 word
where
  /-- Write home directories out, after leaving out some pieces. `fresh` says that one may stand
  here. -/
  go : (fresh : Bool) → (left : Nat) → Word → Word
    | _, _, [] => []
    | _, left + 1, _ :: rest => go false left rest
    | fresh, 0, piece :: rest =>
      match if fresh then leadingHome? c assigned (piece :: rest) else none with
      | some (home, count) => home.toList.map (.char · true) ++ go false (count - 1) rest
      | none =>
        let colon := match piece with
          | .char ':' false => true
          | _ => false
        piece :: go (assigned && colon) 0 rest

/-- The text of fragments that are not split. Fields are joined by the first separator. -/
def joinedText (c : Context) (fragments : List Fragment) : List Mark :=
  let separator := if (c.binding? "IFS").isSome then c.separators.head?.toList else [' ']
  fragments.flatMap fun
    | .mark mark => [mark]
    | .present => []
    | .next => marksOf .quoted separator

def valueFragments (s : Session) (name : String) (quoted : Bool) (value : String) :
    List Fragment :=
  let origin : Origin := if quoted then .quoted else .value
  if name = "@" && quoted then
    [.next].intercalate (s.arguments.map fun a => .present :: fragmentsOf origin a.toList)
  else if (name = "@" || name = "*") && !quoted then
    [.next].intercalate (s.arguments.map fun a => fragmentsOf origin a.toList)
  else fragmentsOf origin value.toList

end RackTraffic.Shell
