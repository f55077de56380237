import BooleanSearch.Command.Job
import BooleanSearch.Files

/-! Arguments: what a command line asks for.

The program only declares its options, commands and arguments. That a line is read in this way is
the behaviour of the command-line library that the program is started through, and the versions of
that library may differ in it. -/

namespace BooleanSearch.Command

/-- A command line, read up to the arguments of its command. -/
structure Call where
  /-- The path of the settings, where one is given. -/
  settingsPath : Option String
  /-- The name of the command, unless none is given. -/
  command : Option String
  /-- The arguments of the command. -/
  arguments : List String
deriving Repr, DecidableEq

/-- Whether an argument is an option; a dash on its own is none. -/
def isOption (argument : String) : Bool :=
  match argument.toList with
  | '-' :: _ :: _ => true
  | _ => false

/-- The value that an argument gives to an option. -/
def valueFor? (option argument : String) : Option String :=
  let front := option.toList ++ ['=']
  let cs := argument.toList
  if front.isPrefixOf cs then some (String.ofList (cs.drop front.length)) else none

/-- Reads a command line up to its command, as the command-line library does; of several paths of
settings the last one counts. -/
def readCall (settingsPath : Option String) : List String → Option Call
  | [] => some ⟨settingsPath, none, []⟩
  -- Behind two dashes everything is taken as it stands.
  | "--" :: arguments => some ⟨settingsPath, arguments.head?, arguments.tail⟩
  | "--config" :: path :: rest => readCall (some path) rest
  | argument :: rest =>
    match valueFor? "--config" argument with
    | some path => readCall (some path) rest
    | none => if isOption argument then none else some ⟨settingsPath, some argument, rest⟩

/-- The line behind the path of the settings, where a command is to stand first. -/
def Call.line (call : Call) : List String := call.command.toList ++ call.arguments

/-- Reads the arguments of a command, as the command-line library does: whether the flag is given,
and what is no option. -/
def readArguments (flag : Option String) : List String → Option (Bool × List String)
  | [] => some (false, [])
  | "--" :: rest => some (false, rest)
  | argument :: rest => do
    let (given, others) ← readArguments flag rest
    if !isOption argument then some (given, argument :: others)
    else if flag == some argument then some (true, others)
    else none

/-- What is wrong with a command line. -/
inductive Misuse
  /-- It cannot be understood, or it names a file that is not there. -/
  | unclear
  /-- It names a file by a path that holds a character that no path can hold. -/
  | noPath
deriving Repr, DecidableEq

/-- The text of a file that a command line names. -/
def givenText (files : Files) (path : String) : Except Misuse String :=
  if path.toList.contains '\x00' then .error .noPath
  else
    match files.text? path with
    | some text => .ok text
    | none => .error .unclear

/-- The job of an action and its arguments. -/
def jobOf (files : Files) (action : Action) (arguments : List String) : Except Misuse Job :=
  let flag := if action == .document then some "--compact" else none
  match readArguments flag arguments with
  | none | some (_, []) => .error .unclear
  | some (compact, argument :: others) =>
    let job : Except Misuse Job :=
      match action with
      | .document => .ok (.document (if compact then .compact else .indented) argument)
      | .explain => .ok (.explain argument)
      | .search => .ok (.search argument)
      -- A file is looked for before the number of arguments is checked.
      | .index =>
        (givenText files argument).map (.index (Path.ofNames (Path.names argument)) ·)
    job.bind fun job => if others.isEmpty then .ok job else .error .unclear

end BooleanSearch.Command
