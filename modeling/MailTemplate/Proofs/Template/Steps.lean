import MailTemplate.Proofs.Text.Split
import MailTemplate.Template.Path

/-! # The steps of a path

A path is a list of steps from directory to directory. Resolving the path of a template in a root
puts a step down behind the steps of the root for each plain name of the path, and no other step
(`steps_of_resolve?`); a path with a step up is not resolved (`resolve?_eq_none_iff`). -/

namespace MailTemplate.Template.Path

/-- A step of a path. -/
inductive Step where
  | top
  | here
  | up
  | down (name : String)
  deriving DecidableEq

def Component.step? : Component → Option Step
  | .plain name => some (.down name)
  | .parent => some .up
  | .here => none

def Step.name? : Step → Option String
  | .down name => some name
  | .top | .here | .up => none

/-- Where a path starts. A slash or a point says so at its start only. -/
def start? : List Char → Option Step
  | '/' :: _ => some .top
  | ['.'] => some .here
  | '.' :: '/' :: _ => some .here
  | _ => none

def steps (path : String) : List Step :=
  (start? path.toList).toList ++ (components path).filterMap Component.step?

/-- The names that a path goes down to. -/
def plainNames (path : String) : List String :=
  (steps path).filterMap Step.name?

example : steps "/srv//mail/./a.html/" = [.top, .down "srv", .down "mail", .down "a.html"] := by
  decide

example : steps "./a/../." = [.here, .down "a", .up] := by decide

theorem name?_of_start? {path : List Char} {step : Step} (h : start? path = some step) :
    step.name? = none ∧ step ≠ .up := by
  unfold start? at h
  split at h <;> cases h <;> exact ⟨rfl, by decide⟩

/-- The name that a component has, as a step. -/
def Component.name? (component : Component) : Option String :=
  component.step?.bind Step.name?

theorem plainNames_eq (path : String) :
    plainNames path = (components path).filterMap Component.name? := by
  have hstart : (start? path.toList).toList.filterMap Step.name? = [] := by
    cases h : start? path.toList with
    | none => rfl
    | some step => exact List.filterMap_cons_none (name?_of_start? h).1
  rw [plainNames, steps, List.filterMap_append, hstart, List.filterMap_filterMap, List.nil_append]
  rfl

theorem up_mem_steps_iff {path : String} : .up ∈ steps path ↔ .parent ∈ components path := by
  have hstart : .up ∉ (start? path.toList).toList := fun h =>
    (name?_of_start? (Option.mem_toList.mp h)).2 rfl
  have hstep (component : Component) : component.step? = some .up ↔ component = .parent := by
    cases component <;> simp [Component.step?]
  rw [steps, List.mem_append, or_iff_right hstart, List.mem_filterMap]
  simp only [hstep, exists_eq_right]

/-! ## Names between slashes -/

/-- A name that a directory can have in it. -/
structure IsName (name : String) : Prop where
  slash : '/' ∉ name.toList
  plain : Component.ofName name = .plain name

theorem IsName.ne_of_ofName_ne {name other : String} (h : IsName name)
    (hother : Component.ofName other ≠ .plain other) : name ≠ other := by
  rintro rfl
  exact hother h.plain

theorem Component.eq_of_ofName {name plain : String} (h : Component.ofName name = .plain plain) :
    plain = name := by
  unfold Component.ofName at h
  split at h
  · cases h
  · split at h <;> cases h
    rfl

theorem isName_of_mem_components {path name : String} (h : .plain name ∈ components path) :
    IsName name := by
  obtain ⟨part, hpart, hplain⟩ := List.mem_map.mp h
  obtain rfl := Component.eq_of_ofName hplain
  obtain ⟨piece, hpiece, rfl⟩ := List.mem_map.mp hpart
  refine ⟨fun hslash => ?_, hplain⟩
  have hseparates := (Text.of_mem_split hpiece (by simpa using hslash)).2
  simp at hseparates

theorem names_eq_singleton {name : String} (h : '/' ∉ name.toList) : names name = [name] := by
  have hsplit : Text.split (· == '/') name.toList = [name.toList] :=
    Text.split_of_none fun c hc => by simpa using ne_of_mem_of_not_mem hc h
  simp [names, hsplit]

theorem names_append_slash (path rest : String) :
    names (path ++ "/" ++ rest) = names path ++ names rest := by
  have hlist : (path ++ "/" ++ rest).toList = path.toList ++ '/' :: rest.toList := by simp
  rw [names, hlist, Text.split_append_separator (by decide), List.map_append]
  rfl

theorem components_eq_singleton {name : String} (h : IsName name) :
    components name = [.plain name] := by
  rw [components, names_eq_singleton h.slash, List.map_singleton, h.plain]

theorem components_append_slash (path rest : String) :
    components (path ++ "/" ++ rest) = components path ++ components rest := by
  rw [components, names_append_slash, List.map_append]
  rfl

theorem components_slash (path : String) :
    components (path ++ "/") = components path ++ [.here] := by
  have happend := components_append_slash path ""
  rwa [String.append_empty] at happend

/-! ## A name behind a path -/

theorem start?_cons_cons (c d : Char) (path : List Char) :
    start? (c :: d :: path) =
      if c = '/' then some .top else if c = '.' ∧ d = '/' then some .here else none := by
  by_cases hc : c = '/'
  · simp [start?, hc]
  · by_cases hpoint : c = '.'
    · by_cases hd : d = '/' <;> simp [start?, hpoint, hd]
    · simp [start?, hc, hpoint]

/-- What stands behind a slash does not matter for the start of a path. -/
theorem start?_append_slash (path rest : List Char) :
    start? (path ++ '/' :: rest) = start? (path ++ ['/']) := by
  match path with
  | [] => rfl
  | [c] => rw [List.singleton_append, List.singleton_append, start?_cons_cons, start?_cons_cons]
  | c :: d :: path =>
    rw [List.cons_append, List.cons_append, start?_cons_cons, List.cons_append, List.cons_append,
      start?_cons_cons]

theorem start?_append_slash_of_ne_nil {path : List Char} (h : path ≠ []) :
    start? (path ++ ['/']) = start? path := by
  match path with
  | [] => exact absurd rfl h
  | [c] => by_cases hc : c = '/' <;> by_cases hpoint : c = '.' <;> simp [start?, hc, hpoint]
  | c :: d :: path =>
    rw [List.cons_append, List.cons_append, start?_cons_cons, start?_cons_cons]

theorem start?_name {name : String} (h : IsName name) : start? name.toList = none := by
  have hslash := h.slash
  have hpoint : name.toList ≠ ['.'] := by
    intro hlist
    obtain rfl : name = "." := String.toList_inj.mp hlist
    cases h.plain
  unfold start?
  split
  · next hlist => simp [hlist] at hslash
  · next hlist => exact absurd hlist hpoint
  · next hlist => simp [hlist] at hslash
  · rfl

theorem steps_append_slash (path rest : String) :
    steps (path ++ "/" ++ rest) =
      steps (path ++ "/") ++ (components rest).filterMap Component.step? := by
  have hchars : (path ++ "/" ++ rest).toList = path.toList ++ '/' :: rest.toList := by simp
  have hslash : (path ++ "/").toList = path.toList ++ ['/'] := by simp
  rw [steps, steps, components_append_slash, components_slash, hchars, hslash, start?_append_slash,
    List.filterMap_append, List.filterMap_append, List.append_assoc, List.append_assoc]
  rfl

theorem steps_slash {path : String} (h : path ≠ "") : steps (path ++ "/") = steps path := by
  have hchars : (path ++ "/").toList = path.toList ++ ['/'] := by simp
  rw [steps, components_slash, hchars, start?_append_slash_of_ne_nil (by simpa using h),
    List.filterMap_append]
  exact congrArg _ (List.append_nil _)

theorem push_eq (path name : String) :
    (path = "" ∧ push path name = name) ∨
      (∃ before, path = before ++ "/" ∧ push path name = before ++ "/" ++ name) ∨
      path ≠ "" ∧ push path name = path ++ "/" ++ name := by
  unfold push
  by_cases hempty : path = ""
  · subst hempty
    exact .inl ⟨rfl, by simp⟩
  · by_cases hslash : path.endsWith '/' = true
    · obtain ⟨before, hbefore⟩ := String.endsWith_char_iff_exists_append.mp hslash
      rw [if_pos (by rw [hslash, Bool.or_true])]
      exact .inr (.inl ⟨before, hbefore, by rw [hbefore]; rfl⟩)
    · rw [if_neg (by simp [hempty, hslash])]
      exact .inr (.inr ⟨hempty, rfl⟩)

/-- A name that is pushed is a step down at the end. -/
theorem steps_push (path : String) {name : String} (h : IsName name) :
    steps (push path name) = steps path ++ [.down name] := by
  have hname : (components name).filterMap Component.step? = [.down name] := by
    rw [components_eq_singleton h]
    rfl
  obtain ⟨rfl, hpush⟩ | ⟨before, rfl, hpush⟩ | ⟨hempty, hpush⟩ := push_eq path name
  · rw [hpush, steps, start?_name h, hname]
    rfl
  · rw [hpush, steps_append_slash, hname]
  · rw [hpush, steps_append_slash, hname, steps_slash hempty]

/-! ## Resolving -/

theorem extend_eq_none_iff {components : List Component} (path : String) :
    extend path components = none ↔ .parent ∈ components := by
  induction components generalizing path with
  | nil => simp [extend]
  | cons component components ih => cases component <;> simp [extend, ih]

theorem steps_of_extend {components : List Component}
    (hnames : ∀ name, .plain name ∈ components → IsName name) {path full : String}
    (h : extend path components = some full) :
    steps full = steps path ++ (components.filterMap Component.name?).map .down := by
  induction components generalizing path with
  | nil => simp_all [extend]
  | cons component components ih =>
    have hrest : ∀ name, .plain name ∈ components → IsName name :=
      fun name hmem => hnames name (List.mem_cons_of_mem _ hmem)
    cases component with
    | plain name =>
      rw [ih hrest h, steps_push path (hnames name List.mem_cons_self), List.append_assoc]
      rfl
    | here => exact ih hrest h
    | parent => cases h

theorem resolve?_eq_none_iff {root path : String} :
    resolve? (some root) path = none ↔ .up ∈ steps path := by
  rw [up_mem_steps_iff]
  exact extend_eq_none_iff root

/-- A path that leads nowhere up is resolved to the root with its plain names behind it. -/
theorem steps_of_resolve? {root path full : String} (h : resolve? (some root) path = some full) :
    steps full = steps root ++ (plainNames path).map .down := by
  rw [plainNames_eq]
  exact steps_of_extend (fun _ hmem => isName_of_mem_components hmem) h

end MailTemplate.Template.Path
