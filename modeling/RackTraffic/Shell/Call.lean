import RackTraffic.Shell.Builtin

/-!
# Calling the shell

The shell is a program, too. It is called with options, and then with a text to run, with a file to
run, or with nothing if it is to run its input. What follows are the arguments of the script.

Only the machine for scripts (`Shell.host`) needs this module, and only `Main` and test runs need
the machine; no result is about it.
-/

namespace RackTraffic.Shell

/-- What the shell is to run. -/
inductive ScriptSource where
  | text (text : String)
  | file (path : String)
  | input
  deriving DecidableEq, Repr

/-- The options of the shell, what it is to run, and the name and arguments that the script gets. -/
structure ShellCall where
  options : List Char
  source : ScriptSource
  name : String
  arguments : List String

/-- Read the words of a call of the shell, after options that have been read. Otherwise what is
wrong is given back. -/
def ShellCall.read (own : String) : (fuel : Nat) → List Char → List String →
    Except String ShellCall
  | 0, _, _ => .error ""
  | fuel + 1, options, words =>
    let finish (words : List String) : Except String ShellCall :=
      if options.contains 'c' then
        match words with
        | [] => .error "-c requires an argument"
        | text :: rest => .ok ⟨options, .text text, rest.head?.getD own, rest.tail⟩
      else
        match words with
        | [] => .ok ⟨options, .input, own, []⟩
        | path :: rest =>
          if options.contains 's' then .ok ⟨options, .input, own, words⟩
          else .ok ⟨options, .file path, path, rest⟩
    match words with
    | [] => finish []
    | word :: rest =>
      match word.toList with
      | ['-'] | ['-', '-'] => finish rest
      | ['-', 'o'] =>
        match longOptions.lookup (rest.head?.getD "") with
        | some letter => read own fuel (options ++ [letter]) rest.tail
        | none => .error ("Illegal option -o " ++ rest.head?.getD "")
      | '-' :: letters =>
        match letters.find? fun c => !(optionLetters.contains c || c == 'c' || c == 'l') with
        | some c => .error ("Illegal option -" ++ c.toString)
        | none => read own fuel (options ++ letters) rest
      | '+' :: letters => read own fuel (options.filter (!letters.contains ·)) rest
      | _ => finish words

end RackTraffic.Shell
