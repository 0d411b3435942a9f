import MailTemplate.Command.Arguments

/-! # Arguments in groups

Read from left to right, arguments are groups: flags with the value behind them, whatever it looks
like, switches, and other arguments, such as the path of a template. The scan goes from one group to
the next (`scan_valued`, `scan_switch`, `scan_plain`); over arguments that are written group by group
it is a fold (`scan_argumentsOf`). -/

namespace MailTemplate.Command

open Files Markup Template

/-- The flags that take the argument behind them as their value. -/
inductive ValueFlag where
  | config
  | root
  | palette
  | errorStyle
  deriving DecidableEq

/-- The flags without a value. -/
inductive Switch where
  | color
  | tokens
  | noInline
  | noEval
  deriving DecidableEq

def ValueFlag.all : List ValueFlag :=
  [config, root, palette, errorStyle]

def ValueFlag.text : ValueFlag → String
  | config => "--config"
  | root => "--root"
  | palette => "--palette"
  | errorStyle => "--error-style"

theorem ValueFlag.text_injective {flag other : ValueFlag} (h : flag.text = other.text) :
    flag = other := by
  cases flag <;> cases other <;> first | rfl | exact absurd h (by decide)

def ValueFlag.ofText? (argument : String) : Option ValueFlag :=
  all.find? (·.text == argument)

def Switch.all : List Switch :=
  [color, tokens, noInline, noEval]

def Switch.text : Switch → String
  | color => "--color"
  | tokens => "--tokens"
  | noInline => "--no-inline"
  | noEval => "--no-eval"

def Switch.ofText? (argument : String) : Option Switch :=
  all.find? (·.text == argument)

inductive Group where
  | valued (flag : ValueFlag) (value : String)
  | switch (switch : Switch)
  | plain (argument : String)
  deriving DecidableEq

namespace Group

def arguments : Group → List String
  | valued flag value => [flag.text, value]
  | switch s => [s.text]
  | plain argument => [argument]

def ofArgument (argument : String) : Group :=
  (Switch.ofText? argument).elim (plain argument) switch

def template? : Group → Option String
  | plain argument => some argument
  | valued .. | switch _ => none

def output? : Group → Option Output
  | switch .color => some .color
  | switch .tokens => some .tokens
  | switch _ | valued .. | plain _ => none

end Group

def argumentsOf (groups : List Group) : List String :=
  groups.flatMap Group.arguments

def templatesOf (groups : List Group) : List String :=
  groups.filterMap Group.template?

/-- The groups of some arguments, from left to right. A flag with nothing behind it has no value. -/
def groupsOf : List String → List Group
  | [] => []
  | [argument] => [.ofArgument argument]
  | argument :: next :: arguments =>
    match ValueFlag.ofText? argument with
    | some flag => .valued flag next :: groupsOf arguments
    | none => .ofArgument argument :: groupsOf (next :: arguments)

/-- An argument that no flag is. -/
structure IsPlain (argument : String) : Prop where
  notHelp : argument ≠ "-h" ∧ argument ≠ "--help"
  notVersion : argument ≠ "-V" ∧ argument ≠ "--version"
  notFlag : ∀ flag : ValueFlag, argument ≠ flag.text
  notSwitch : ∀ s : Switch, argument ≠ s.text

/-- A path of a template that looks like no flag. -/
structure IsTemplate (path : String) : Prop where
  notFlag : path.startsWith "--" = false
  notHelp : path ≠ "-h"
  notVersion : path ≠ "-V"

theorem IsTemplate.isPlain {path : String} (h : IsTemplate path) : IsPlain path := by
  obtain ⟨hflag, hhelp, hversion⟩ := h
  have hne {other : String} (hother : "--".toList <+: other.toList) : path ≠ other := by
    rintro rfl
    rw [String.startsWith_string_iff.mpr hother] at hflag
    cases hflag
  exact ⟨⟨hhelp, hne (by decide)⟩, ⟨hversion, hne (by decide)⟩,
    fun flag => hne (by cases flag <;> decide), fun s => hne (by cases s <;> decide)⟩

section

variable {m : Type → Type} [Monad m] (load : Load m)

namespace Group

/-- What a group does to the options. The configuration has been read before. -/
def override (options : Options) : Group → ExceptT ArgumentError m Options
  | valued .root directory => return { options with root := some directory }
  | valued .palette path => do
    let palette ← loadPalette load path
    return { options with palette := palette }
  | valued .errorStyle declarations => return { options with errorStyle := declarations }
  | switch .noInline => return { options with inlineStyles := false }
  | switch .noEval => return { options with evaluateExpressions := false }
  | valued .config _ | switch .color | switch .tokens | plain _ => return options

/-- What a group does to the settings. There is one template. -/
def apply (settings : Settings) (group : Group) : ExceptT ArgumentError m Settings :=
  match group.template?, settings.template with
  | some argument, some _ => throw (.unexpected argument)
  | _, _ => do
    let options ← group.override load settings.options
    return ⟨options, group.output?.getD settings.output, group.template?.or settings.template⟩

variable {load} {settings : Settings}

theorem apply_of_free {group : Group} (h : group.template? = none ∨ settings.template = none) :
    group.apply load settings = (do
      let options ← group.override load settings.options
      return ⟨options, group.output?.getD settings.output,
        group.template?.or settings.template⟩) := by
  unfold apply
  split
  · rename_i hgroup hsettings
    rw [hgroup, hsettings] at h
    obtain h | h := h <;> cases h
  · rfl

end Group

variable (settings : Settings)

theorem scan_valued [LawfulMonad m] (flag : ValueFlag) (value : String) (rest : List String) :
    scan load settings (flag.text :: value :: rest) =
      (Group.valued flag value).apply load settings >>= fun settings =>
        scan load settings rest := by
  rw [Group.apply_of_free (.inl rfl), bind_assoc]
  cases flag with
  | config | root | errorStyle =>
    rw [Group.override, pure_bind, pure_bind]
    rfl
  | palette =>
    rw [Group.override, bind_assoc]
    refine bind_congr fun palette => ?_
    rw [pure_bind, pure_bind]
    rfl

theorem scan_switch [LawfulMonad m] (s : Switch) (rest : List String) :
    scan load settings (s.text :: rest) =
      (Group.switch s).apply load settings >>= fun settings => scan load settings rest := by
  rw [Group.apply_of_free (.inl rfl), bind_assoc]
  cases s <;> rw [Group.override, pure_bind, pure_bind] <;> rfl

theorem scan_plain [LawfulMonad m] {argument : String} (h : IsPlain argument)
    (rest : List String) :
    scan load settings (argument :: rest) =
      if argument.startsWith "--" then throw (.unknownOption argument)
      else (Group.plain argument).apply load settings >>= fun settings =>
        scan load settings rest := by
  obtain ⟨hhelp, hversion, hflag, hswitch⟩ := h
  refine (scan.eq_18 load settings argument rest hhelp.1 hhelp.2 hversion.1 hversion.2
    (fun heq _ => hflag .config heq) (fun _ _ heq _ => hflag .config heq)
    (fun heq _ => hflag .root heq) (fun _ _ heq _ => hflag .root heq)
    (fun heq _ => hflag .palette heq) (fun _ _ heq _ => hflag .palette heq)
    (fun heq _ => hflag .errorStyle heq) (fun _ _ heq _ => hflag .errorStyle heq)
    (hswitch .color) (hswitch .tokens) (hswitch .noInline) (hswitch .noEval)).trans ?_
  split
  · rfl
  · cases htemplate : settings.template with
    | some template =>
      rw [Group.apply, htemplate]
      exact ExceptT.ext (by simp [Group.template?])
    | none =>
      rw [Group.apply_of_free (.inr htemplate), bind_assoc, Group.override, pure_bind, pure_bind]
      rfl

/-- Without flags that no group stands for, the scan goes from group to group. -/
theorem scan_argumentsOf [LawfulMonad m] {groups : List Group}
    (h : ∀ template ∈ templatesOf groups, IsTemplate template) :
    scan load settings (argumentsOf groups) =
      groups.foldlM (Group.apply load) settings >>= finish := by
  induction groups generalizing settings with
  | nil => exact (pure_bind settings finish).symm
  | cons group groups ih =>
    rw [List.foldlM_cons, bind_assoc, argumentsOf, List.flatMap_cons]
    cases group with
    | valued flag value =>
      refine (scan_valued load settings flag value _).trans (bind_congr fun settings => ?_)
      exact ih settings h
    | switch s =>
      refine (scan_switch load settings s _).trans (bind_congr fun settings => ?_)
      exact ih settings h
    | plain path =>
      have hpath : IsTemplate path := h path List.mem_cons_self
      refine (scan_plain load settings hpath.isPlain _).trans ?_
      rw [hpath.notFlag, if_neg Bool.false_ne_true]
      refine bind_congr fun settings => ?_
      exact ih settings fun template hmem => h template (List.mem_cons_of_mem _ hmem)

end

/-! ## Reading groups -/

theorem ValueFlag.mem_all (flag : ValueFlag) : flag ∈ all := by
  cases flag <;> decide

theorem Switch.mem_all (s : Switch) : s ∈ all := by
  cases s <;> decide

theorem ValueFlag.eq_text_of_ofText? {argument : String} {flag : ValueFlag}
    (h : ofText? argument = some flag) : argument = flag.text := by
  have hfound := List.find?_some h
  exact (beq_iff_eq.mp hfound).symm

theorem Switch.eq_text_of_ofText? {argument : String} {s : Switch}
    (h : ofText? argument = some s) : argument = s.text := by
  have hfound := List.find?_some h
  exact (beq_iff_eq.mp hfound).symm

theorem ValueFlag.ne_text_of_ofText? {argument : String} (h : ofText? argument = none)
    (flag : ValueFlag) : argument ≠ flag.text := fun heq =>
  List.find?_eq_none.mp h flag flag.mem_all (beq_iff_eq.mpr heq.symm)

/-- An argument that is no flag with a value is a switch, a question or a plain argument. -/
theorem ofArgument_cases {argument : String} (h : ValueFlag.ofText? argument = none) :
    (∃ s : Switch, argument = s.text ∧ Group.ofArgument argument = .switch s) ∨
      (argument = "-h" ∨ argument = "--help" ∨ argument = "-V" ∨ argument = "--version") ∨
      IsPlain argument ∧ Group.ofArgument argument = .plain argument := by
  cases hswitch : Switch.ofText? argument with
  | some s =>
    exact .inl ⟨s, Switch.eq_text_of_ofText? hswitch, by rw [Group.ofArgument, hswitch]; rfl⟩
  | none =>
    have hne (s : Switch) : argument ≠ s.text := fun heq =>
      List.find?_eq_none.mp hswitch s s.mem_all (beq_iff_eq.mpr heq.symm)
    by_cases hquestion :
        argument = "-h" ∨ argument = "--help" ∨ argument = "-V" ∨ argument = "--version"
    · exact .inr (.inl hquestion)
    · simp only [not_or] at hquestion
      obtain ⟨hh, hhelp, hv, hversion⟩ := hquestion
      refine .inr (.inr ⟨⟨⟨hh, hhelp⟩, ⟨hv, hversion⟩, ValueFlag.ne_text_of_ofText? h, hne⟩, ?_⟩)
      rw [Group.ofArgument, hswitch]
      rfl

end MailTemplate.Command
