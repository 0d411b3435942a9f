import MailTemplate.Proofs.Template.Steps
import MailTemplate.Template.Render

/-! # Templates stay below their root

Reading a template opens one file or none. Its path goes down from the root (`read_below_root`), so
wherever the files come from, what is found there lies in the directory that the root leads to
(`exists_below_of_find`). -/

namespace MailTemplate

namespace Files.Node

open Template Template.Path

/-- Where a path starts. -/
def origin (here : Node) (path : String) : Node :=
  if path.startsWith "/" then empty else here

/-- The node that a path leads to; the empty path leads nowhere else. -/
def reached (here : Node) (path : String) : Except ReadFailure Node :=
  walk [] (here.origin path) (names path)

def child? (node : Node) (name : String) : Option Node :=
  node.entries.lookup name

theorem reached_of_find {here node : Node} {path : String} (h : here.find path = .ok node) :
    here.reached path = .ok node := by
  unfold find at h
  split at h
  · cases h
  · split at h
    · cases h
    · exact h

theorem origin_eq (here : Node) (path : String) :
    here.origin path = if start? path.toList = some .top then empty else here := by
  have hstart : path.startsWith "/" = true ↔ start? path.toList = some .top := by
    rw [String.startsWith_string_iff]
    match path.toList with
    | [] => decide
    | [c] => by_cases hc : c = '/' <;> by_cases hpoint : c = '.' <;> simp [start?, hc, hpoint, eq_comm]
    | c :: d :: rest =>
      rw [start?_cons_cons]
      by_cases hc : c = '/'
      · simp [hc]
      · rw [if_neg hc]
        split <;> simp [Ne.symm hc]
  unfold origin
  simp only [hstart]

/-- The last part of a path is looked for in what the parts before it lead to, if it does not lead
back up. -/
theorem walk_append {last : String} (hlast : last ≠ "..") (parts : List String)
    (above : List Node) (here : Node) :
    walk above here (parts ++ [last]) =
      (walk above here parts).bind fun directory => walk [] directory [last] := by
  induction parts generalizing above here with
  | nil =>
    cases here with
    | file bytes => rfl
    | directory entries =>
      have hup : (last == "..") = false := by simpa using hlast
      simp only [List.nil_append, walk, hup, Except.bind]
      split
      · rfl
      · cases entries.lookup last <;> rfl
  | cons part parts ih =>
    cases here with
    | file bytes => rfl
    | directory entries =>
      simp only [List.cons_append, walk]
      split
      · exact ih _ _
      · split
        · exact ih _ _
        · cases entries.lookup part with
          | none => rfl
          | some node => exact ih _ _

/-- Only a directory has a name in it. -/
theorem child?_of_walk {directory node : Node} {name : String} (h : IsName name)
    (hwalk : walk [] directory [name] = .ok node) :
    directory.child? name = some node ∧ walk [] directory [""] = .ok directory := by
  cases directory with
  | file bytes => cases hwalk
  | directory entries =>
    have hempty : name ≠ "" := h.ne_of_ofName_ne (by decide)
    have hpoint : name ≠ "." := h.ne_of_ofName_ne (by decide)
    have hparent : name ≠ ".." := h.ne_of_ofName_ne (by decide)
    have hblank : (name == "" || name == ".") = false := by simp [hempty, hpoint]
    have hup : (name == "..") = false := by simpa using hparent
    refine ⟨?_, rfl⟩
    simp only [walk, hblank, hup] at hwalk
    rw [child?, Node.entries]
    cases hchild : List.lookup name entries with
    | none => simp [hchild] at hwalk
    | some child => simpa [hchild] using hwalk

theorem exists_directory_of_walk {above : List Node} {here node : Node} {parts : List String}
    {name : String} (hname : IsName name) (h : walk above here (parts ++ [name]) = .ok node) :
    ∃ directory, walk above here parts = .ok directory ∧ directory.child? name = some node ∧
      walk [] directory [""] = .ok directory := by
  rw [walk_append (hname.ne_of_ofName_ne (by decide))] at h
  cases hdirectory : walk above here parts with
  | error failure =>
    rw [hdirectory] at h
    cases h
  | ok directory =>
    rw [hdirectory] at h
    exact ⟨directory, rfl, child?_of_walk hname h⟩

/-- What a path with a name behind it leads to is in the directory that the path leads to. -/
theorem exists_child_of_reached {here node : Node} {path name : String} (hname : IsName name)
    (h : here.reached (push path name) = .ok node) :
    ∃ directory, here.reached path = .ok directory ∧ directory.child? name = some node := by
  have hnames := names_eq_singleton hname.slash
  have hstart (before : String) :
      start? (before ++ "/" ++ name).toList = start? (before ++ "/").toList := by
    simp [start?_append_slash]
  obtain ⟨rfl, hpush⟩ | ⟨before, rfl, hpush⟩ | ⟨hempty, hpush⟩ := push_eq path name
  · have horigin : here.origin name = here := by
      rw [origin_eq, start?_name hname]
      rfl
    rw [hpush, reached, hnames, horigin] at h
    obtain ⟨hchild, hhere⟩ := child?_of_walk hname h
    exact ⟨here, hhere, hchild⟩
  · have horigin : here.origin (before ++ "/" ++ name) = here.origin (before ++ "/") := by
      rw [origin_eq, origin_eq, hstart]
    rw [hpush, reached, names_append_slash, hnames, horigin] at h
    obtain ⟨directory, hbefore, hchild, hdirectory⟩ := exists_directory_of_walk hname h
    refine ⟨directory, ?_, hchild⟩
    have hslash : names (before ++ "/") = names before ++ [""] := by
      have happend := names_append_slash before ""
      rwa [String.append_empty] at happend
    rw [reached, hslash, walk_append (by decide), hbefore]
    exact hdirectory
  · have horigin : here.origin (path ++ "/" ++ name) = here.origin path := by
      have hslash : start? (path ++ "/").toList = start? path.toList := by
        simpa using start?_append_slash_of_ne_nil (show path.toList ≠ [] by simpa using hempty)
      rw [origin_eq, origin_eq, hstart, hslash]
    rw [hpush, reached, names_append_slash, hnames, horigin] at h
    obtain ⟨directory, hbefore, hchild, -⟩ := exists_directory_of_walk hname h
    exact ⟨directory, hbefore, hchild⟩

/-- What some names lead to, one below the other. -/
def below? (directory : Node) (names : List String) : Option Node :=
  names.foldlM child? directory

theorem exists_below_of_extend {here node : Node} {components : List Component}
    (hnames : ∀ name, .plain name ∈ components → IsName name) {path full : String}
    (hfull : extend path components = some full) (h : here.reached full = .ok node) :
    ∃ directory, here.reached path = .ok directory ∧
      directory.below? (components.filterMap Component.name?) = some node := by
  induction components generalizing path with
  | nil =>
    obtain rfl := Option.some.inj hfull
    exact ⟨node, h, rfl⟩
  | cons component components ih =>
    have hrest : ∀ name, .plain name ∈ components → IsName name :=
      fun name hmem => hnames name (List.mem_cons_of_mem _ hmem)
    cases component with
    | plain name =>
      obtain ⟨inner, hinner, hbelow⟩ := ih hrest hfull
      obtain ⟨directory, hdirectory, hchild⟩ :=
        exists_child_of_reached (hnames name List.mem_cons_self) hinner
      refine ⟨directory, hdirectory, ?_⟩
      rw [below?, List.filterMap_cons_some (show Component.name? (.plain name) = some name from rfl),
        List.foldlM_cons, hchild]
      exact hbelow
    | here => exact ih hrest hfull
    | parent => cases hfull

/-- The file at the path of a template in a root directory is found below this directory. -/
theorem exists_below_of_find {here node : Node} {root path file : String}
    (hfile : resolve? (some root) path = some file) (h : here.find file = .ok node) :
    ∃ directory, here.reached root = .ok directory ∧
      directory.below? (plainNames path) = some node := by
  rw [plainNames_eq]
  exact exists_below_of_extend (fun _ hmem => isName_of_mem_components hmem) hfile
    (reached_of_find h)

end Files.Node

namespace Template

open Template.Path

/-! ## Reading -/

def Error.isArgument : Error → Bool
  | .pathRequired | .leavesRoot _ => true
  | .unreadable .. | .sandbox _ | .configuration _ => false

/-- The only reason not to expand a text is its sandbox. -/
theorem exists_failure_of_expand {options : Options} {text : String} {records : List Log.Record}
    {error : Error} (h : ((expand options text).run records).1 = .error error) :
    ∃ failure, error = .sandbox failure := by
  unfold expand at h
  cases hevaluate : options.evaluateExpressions with
  | false =>
    rw [hevaluate] at h
    cases h
  | true =>
    rw [hevaluate] at h
    simp only [Bool.not_true, Bool.false_eq_true, if_false, StateT.run_bind] at h
    cases hstart : (Script.Sandbox.withGlobals options.sandbox options.globals).run records with
    | mk started records' =>
      rw [hstart] at h
      cases started with
      | error failure => exact ⟨failure, (Except.error.inj h).symm⟩
      | ok sandbox => cases h

theorem isArgument_of_parse {options : Options} {text : String} {records : List Log.Record}
    {error : Error} (h : ((parse options text).run records).1 = .error error) :
    error.isArgument = false := by
  unfold parse at h
  simp only [StateT.run_bind] at h
  cases hexpand : (expand options text).run records with
  | mk expanded records' =>
    rw [hexpand] at h
    cases expanded with
    | error failure =>
      obtain rfl : failure = error := Except.error.inj h
      obtain ⟨reason, rfl⟩ := exists_failure_of_expand (congrArg Prod.fst hexpand)
      rfl
    | ok expanded => cases h

/-- Readings that keep the paths of the files that they try to open. -/
abbrev Opening := StateT (List String) Logged

def opening (files : String → Except Files.ReadFailure String) : Files.Load Opening := fun path => do
  modify (· ++ [path])
  return files path

section

variable {files : String → Except Files.ReadFailure String} {options : Options} {path : String}

theorem run_read_of_none (hpath : path ≠ "") (h : resolve? options.root path = none)
    (records : List Log.Record) :
    ((read (opening files) options path).run []).run records =
      ((.error (.leavesRoot path), []), records) := by
  have hempty : path.isEmpty = false := by simpa using hpath
  unfold read
  rw [hempty, h]
  rfl

/-- A path that is resolved opens its file, and is not refused whatever is found there. -/
theorem run_read_of_some (hpath : path ≠ "") {file : String}
    (h : resolve? options.root path = some file) (records : List Log.Record) :
    ∃ result records', ((read (opening files) options path).run []).run records =
        ((result, [file]), records') ∧
      ∀ error, result = .error error → error.isArgument = false := by
  have hempty : path.isEmpty = false := by simpa using hpath
  unfold read
  rw [hempty, h]
  cases hfile : files file with
  | error failure =>
    refine ⟨.error (.unreadable file failure), records, ?_, fun error herror => ?_⟩
    · simp [opening, hfile]
      rfl
    · obtain rfl := Except.error.inj herror
      rfl
  | ok text =>
    refine ⟨((parse options text).run records).1, ((parse options text).run records).2, ?_, ?_⟩
    · simp [opening, hfile]
      rfl
    · exact fun error herror => isArgument_of_parse herror

end

/-- Below a root a path is refused exactly if it has a step up, and then no file is opened. Any other
path opens one file, whose path is that of the root with the plain names of the path behind it; so
what is found there is below the directory of the root, wherever the files are. -/
theorem read_below_root (files : String → Except Files.ReadFailure String) {options : Options}
    {root path : String} (hroot : options.root = some root) (hpath : path ≠ "")
    (records : List Log.Record) :
    let outcome := (((read (opening files) options path).run []).run records).1
    ((∃ error, outcome.1 = .error error ∧ error.isArgument = true) ↔ .up ∈ steps path) ∧
      (.up ∈ steps path → outcome.2 = []) ∧
      (.up ∉ steps path → ∃ file, outcome.2 = [file] ∧
        steps file = steps root ++ (plainNames path).map .down ∧
        ∀ here node, Files.Node.find here file = .ok node →
          ∃ directory, here.reached root = .ok directory ∧
            directory.below? (plainNames path) = some node) := by
  cases hresolve : resolve? (some root) path with
  | none =>
    have hup : .up ∈ steps path := resolve?_eq_none_iff.mp hresolve
    rw [← hroot] at hresolve
    rw [run_read_of_none hpath hresolve]
    exact ⟨iff_of_true ⟨_, rfl, rfl⟩ hup, fun _ => rfl, absurd hup⟩
  | some file =>
    have hup : .up ∉ steps path := fun hup => by
      rw [resolve?_eq_none_iff.mpr hup] at hresolve
      cases hresolve
    obtain ⟨result, records', hrun, hresult⟩ :=
      @run_read_of_some files options path hpath file (hroot ▸ hresolve) records
    rw [hrun]
    refine ⟨iff_of_false ?_ hup, fun h => absurd h hup, fun _ => ⟨file, rfl, ?_⟩⟩
    · rintro ⟨error, herror, hargument⟩
      rw [hresult error herror] at hargument
      cases hargument
    · exact ⟨steps_of_resolve? hresolve, fun _ _ => Files.Node.exists_below_of_find hresolve⟩

def letterOptions : Options := { root := some "letters/" }

def noFile (_ : String) : Except Files.ReadFailure String := .error .notFound

theorem read_below_root_dottedPaths :
    letterOptions.root = some "letters/" ∧ "/a/./b.html" ≠ "" ∧ "a/../../secret" ≠ "" ∧
      (∃ file, (((read (opening noFile) letterOptions "/a/./b.html").run []).run []).1.2 = [file] ∧
        steps file = [.down "letters", .down "a", .down "b.html"]) ∧
      (((read (opening noFile) letterOptions "a/../../secret").run []).run []).1.2 = [] := by
  have hroot : letterOptions.root = some "letters/" := rfl
  have hdotted := @read_below_root noFile letterOptions "letters/" "/a/./b.html" hroot (by decide) []
  have hsecret :=
    @read_below_root noFile letterOptions "letters/" "a/../../secret" hroot (by decide) []
  obtain ⟨file, hopened, hsteps, -⟩ := hdotted.2.2 (by decide)
  exact ⟨hroot, by decide, by decide, ⟨file, hopened, hsteps.trans (by decide)⟩,
    hsecret.2.1 (by decide)⟩

end Template

end MailTemplate
