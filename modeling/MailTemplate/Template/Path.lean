import MailTemplate.Text.Blank

/-! Paths of template files. A template stays below the root directory, if there is one: its
path is taken apart, and only plain names are put behind the root. -/

namespace MailTemplate.Template.Path

/-- A part of a path between slashes. -/
inductive Component where
  | plain (name : String)
  | parent
  /-- Says nothing: a point, or nothing at all. -/
  | here
  deriving DecidableEq, Inhabited

def Component.ofName (name : String) : Component :=
  if name == "" || name == "." then .here
  else if name == ".." then .parent
  else .plain name

def names (path : String) : List String :=
  (Text.split (· == '/') path.toList).map String.ofList

def components (path : String) : List Component :=
  (names path).map Component.ofName

def push (path name : String) : String :=
  if path.isEmpty || path.endsWith '/' then path ++ name else path ++ "/" ++ name

/-- The path with the plain names of the components behind it; nothing if one of them leads to a
parent directory. -/
def extend (path : String) : List Component → Option String
  | [] => some path
  | .plain name :: components => extend (push path name) components
  | .here :: components => extend path components
  | .parent :: _ => none

def resolve? (root : Option String) (path : String) : Option String :=
  match root with
  | none => some path
  | some root => extend root (components path)

end MailTemplate.Template.Path
