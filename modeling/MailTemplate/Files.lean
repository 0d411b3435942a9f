import MailTemplate.Template.Path

/-! Reading text files, and directories in memory that files can be read from. -/

namespace MailTemplate

namespace Files

inductive ReadFailure where
  | notFound
  | notDirectory
  | isDirectory
  | invalidText
  | nulInPath
  | other (reason : String)
  deriving DecidableEq, Inhabited

def ReadFailure.message : ReadFailure → String
  | notFound => "No such file or directory (os error 2)"
  | notDirectory => "Not a directory (os error 20)"
  | isDirectory => "Is a directory (os error 21)"
  | invalidText => "stream did not contain valid UTF-8"
  | nulInPath => "file name contained an unexpected NUL byte"
  | other reason => reason

/-- A way to read the file at a path. -/
abbrev Load (m : Type → Type) := String → m (Except ReadFailure String)

inductive Node where
  | file (bytes : ByteArray)
  | directory (entries : List (String × Node))

instance : Inhabited Node := ⟨.directory []⟩

namespace Node

def entries : Node → List (String × Node)
  | file _ => []
  | directory entries => entries

def empty : Node := .directory []

/-- The directory with `node` at the end of a path, where directories that are missing are
made. -/
def insert (node : Node) : List String → Node → Node
  | [], _ => node
  | name :: names, parent =>
    let old := (parent.entries.lookup name).getD empty
    .directory ((name, insert node names old) :: parent.entries.filter (·.1 != name))

/-- A directory with files and, for no bytes, empty directories. -/
def ofFiles (files : List (String × Option ByteArray)) : Node :=
  files.foldl (fun parent (path, bytes) =>
    insert (bytes.elim empty file) ((Template.Path.names path).filter (· != "")) parent) empty

/-- The node that a path leads to from `here`, which lies in `above`, the innermost directory
first. Only directories have parts, and a slash is behind a directory only. -/
def walk (above : List Node) (here : Node) : List String → Except ReadFailure Node
  | [] => .ok here
  | name :: names =>
    match here with
    | file _ => .error .notDirectory
    | directory entries =>
      if name == "" || name == "." then walk above here names
      else if name == ".." then walk above.tail (above.headD empty) names
      else match entries.lookup name with
        | some node => walk (here :: above) node names
        | none => .error .notFound

/-- The node at a path, seen from a directory in which all relative paths begin. There is nothing
outside of it. -/
def find (here : Node) (path : String) : Except ReadFailure Node :=
  if path.contains '\x00' then .error .nulInPath
  else if path.isEmpty then .error .notFound
  else walk [] (if path.startsWith "/" then empty else here) (Template.Path.names path)

def read (here : Node) (path : String) : Except ReadFailure String := do
  match ← here.find path with
  | directory _ => throw .isDirectory
  | file bytes =>
    match String.fromUTF8? bytes with
    | some text => return text
    | none => throw .invalidText

end Node

end Files

end MailTemplate
