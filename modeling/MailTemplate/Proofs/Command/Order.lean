import MailTemplate.Proofs.Command.ConfigFlag

/-! # The order of flags

A template and flags, none of them twice, mean the same in any order (`parseArguments_perm`). Each
flag replaces its own field (`foldlM_apply`), and the value of `--config` is found in any place
(`configPath_argumentsOf`). -/

namespace MailTemplate.Command

open Files Markup Template

def Group.valueOf? (flag : ValueFlag) : Group → Option String
  | valued other value => if other = flag then some value else none
  | switch _ | plain _ => none

def valuesOf (flag : ValueFlag) (groups : List Group) : List String :=
  groups.filterMap (Group.valueOf? flag)

def outputsOf (groups : List Group) : List Output :=
  groups.filterMap Group.output?

theorem valuesOf_self (flag : ValueFlag) (value : String) (groups : List Group) :
    valuesOf flag (.valued flag value :: groups) = value :: valuesOf flag groups :=
  List.filterMap_cons_some (if_pos rfl)

theorem valuesOf_of_ne {flag other : ValueFlag} (h : other ≠ flag) (value : String)
    (groups : List Group) : valuesOf flag (.valued other value :: groups) = valuesOf flag groups :=
  List.filterMap_cons_none (if_neg h)

theorem valuesOf_append (flag : ValueFlag) (groups others : List Group) :
    valuesOf flag (groups ++ others) = valuesOf flag groups ++ valuesOf flag others :=
  List.filterMap_append

theorem mem_valuesOf_cons {flag : ValueFlag} {value : String} {group : Group}
    {groups : List Group} (h : value ∈ valuesOf flag groups) :
    value ∈ valuesOf flag (group :: groups) :=
  ((List.sublist_cons_self group groups).filterMap _).subset h

/-- A template and flags that do not meddle with each other. -/
structure Independent (groups : List Group) (path : String) : Prop where
  template : templatesOf groups = [path]
  isTemplate : IsTemplate path
  value : ∀ flag, (valuesOf flag groups).length ≤ 1
  output : (outputsOf groups).length ≤ 1
  notConfig : ∀ flag, "--config" ∉ valuesOf flag groups

section

variable {m : Type → Type} [Monad m] (load : Load m)

/-- The settings with the fields of the given flags replaced. The palette has been read before. -/
def overridden (settings : Settings) (palette : Palette) (groups : List Group) : Settings where
  options :=
    { settings.options with
      root := (valuesOf .root groups).getLast?.or settings.options.root
      inlineStyles := !groups.contains (.switch .noInline) && settings.options.inlineStyles
      evaluateExpressions :=
        !groups.contains (.switch .noEval) && settings.options.evaluateExpressions
      errorStyle := (valuesOf .errorStyle groups).getLast?.getD settings.options.errorStyle
      palette := palette }
  output := (outputsOf groups).getLast?.getD settings.output
  template := (templatesOf groups).getLast?.or settings.template

theorem overridden_append (settings : Settings) (palette last : Palette)
    (groups others : List Group) :
    overridden settings last (groups ++ others) =
      overridden (overridden settings palette groups) last others := by
  simp only [overridden, valuesOf, outputsOf, templatesOf, List.filterMap_append,
    List.getLast?_append, List.contains_append, Option.or_assoc, Option.getD_or, Bool.not_or,
    Bool.and_assoc, Bool.and_left_comm]

def lastPalette (palette : Palette) (paths : List String) : ExceptT ArgumentError m Palette :=
  paths.foldlM (fun _ path => loadPalette load path) palette

theorem lastPalette_nil_bind [LawfulMonad m] {α : Type} (palette : Palette)
    (f : Palette → ExceptT ArgumentError m α) : lastPalette load palette [] >>= f = f palette :=
  pure_bind palette f

theorem lastPalette_append [LawfulMonad m] (palette : Palette) (paths others : List String) :
    lastPalette load palette (paths ++ others) =
      lastPalette load palette paths >>= fun palette => lastPalette load palette others :=
  List.foldlM_append

/-- A group replaces the field of its flag, or that of the template if there is none yet. -/
theorem Group.apply_eq [LawfulMonad m] {group : Group} {settings : Settings}
    (h : group.template? = none ∨ settings.template = none) :
    group.apply load settings = do
      let palette ← lastPalette load settings.options.palette (valuesOf .palette [group])
      return overridden settings palette [group] := by
  rw [apply_of_free h]
  cases group with
  | valued flag value =>
    cases flag with
    | config | root | errorStyle =>
      rw [override, pure_bind]
      exact Eq.symm (lastPalette_nil_bind load _ _)
    | palette =>
      rw [override, bind_assoc, valuesOf_self, lastPalette, List.foldlM_cons, bind_assoc]
      refine bind_congr fun palette => ?_
      rw [pure_bind]
      exact Eq.symm (pure_bind palette _)
  | switch s =>
    cases s <;> rw [override, pure_bind] <;> exact Eq.symm (lastPalette_nil_bind load _ _)
  | plain path =>
    rw [override, pure_bind]
    exact Eq.symm (lastPalette_nil_bind load _ _)

/-- Without a second template the groups only load palettes, and the last palette counts. -/
theorem foldlM_apply [LawfulMonad m] {groups : List Group} {settings : Settings}
    (h : (settings.template.toList ++ templatesOf groups).length ≤ 1) :
    groups.foldlM (Group.apply load) settings = do
      let palette ← lastPalette load settings.options.palette (valuesOf .palette groups)
      return overridden settings palette groups := by
  induction groups generalizing settings with
  | nil => exact Eq.symm (lastPalette_nil_bind load _ _)
  | cons group groups ih =>
    have hfree : group.template? = none ∨ settings.template = none := by
      cases hgroup : group.template? with
      | none => exact .inl rfl
      | some argument =>
        cases hsettings : settings.template with
        | none => exact .inr rfl
        | some template => simp [hsettings, templatesOf, hgroup] at h
    have hrest (palette : Palette) :
        ((overridden settings palette [group]).template.toList ++
          templatesOf groups).length ≤ 1 := by
      cases hgroup : group.template? with
      | none => simpa [overridden, templatesOf, hgroup] using h
      | some argument =>
        have hsettings : settings.template = none := hfree.resolve_left (by simp [hgroup])
        simpa [overridden, templatesOf, hgroup, hsettings] using h
    have hvalues : valuesOf .palette (group :: groups) =
        valuesOf .palette [group] ++ valuesOf .palette groups :=
      valuesOf_append .palette [group] groups
    rw [List.foldlM_cons, Group.apply_eq load hfree, hvalues, lastPalette_append, bind_assoc,
      bind_assoc]
    refine bind_congr fun palette => ?_
    rw [pure_bind, ih (hrest palette)]
    refine bind_congr fun last => ?_
    rw [← overridden_append settings palette last [group] groups]
    rfl

end

theorem configPath_argumentsOf {groups : List Group}
    (htemplates : ∀ template ∈ templatesOf groups, IsTemplate template)
    (hvalues : ∀ flag, "--config" ∉ valuesOf flag groups) :
    configPath (argumentsOf groups) = .ok (valuesOf .config groups).head? := by
  induction groups with
  | nil => rfl
  | cons group groups ih =>
    cases group with
    | valued flag value =>
      by_cases hflag : flag = .config
      · subst hflag
        rfl
      · have htext : flag.text ≠ "--config" := fun heq => hflag (ValueFlag.text_injective heq)
        have hvalue : value ≠ "--config" := by
          rintro rfl
          exact hvalues flag (by rw [valuesOf_self]; exact List.mem_cons_self)
        have hrest := ih htemplates fun other hmem => hvalues other (mem_valuesOf_cons hmem)
        rw [valuesOf_of_ne hflag]
        exact (configPath_cons_of_ne htext _).trans ((configPath_cons_of_ne hvalue _).trans hrest)
    | switch s =>
      exact (configPath_cons_of_ne (by cases s <;> decide) _).trans (ih htemplates hvalues)
    | plain path =>
      have hpath : IsTemplate path := htemplates path List.mem_cons_self
      have hrest := ih (fun template hmem => htemplates template (List.mem_cons_of_mem _ hmem))
        hvalues
      exact (configPath_cons_of_ne (hpath.isPlain.notFlag .config) _).trans hrest

section

variable {m : Type → Type} [Monad m] (load : Load m)

/-- What a template and flags ask for, whatever their order. -/
def requested (groups : List Group) (path : String) : ExceptT ArgumentError m Request := do
  let base ← startingOptions load (valuesOf .config groups).head?
  let palette ← lastPalette load base.palette (valuesOf .palette groups)
  let settings := overridden { options := base } palette groups
  return ⟨path, settings.options, settings.output⟩

variable {load} {groups others : List Group} {path : String}

theorem Independent.forall_template (h : Independent groups path) :
    ∀ template ∈ templatesOf groups, IsTemplate template := by
  intro template hmem
  rw [h.template, List.mem_singleton] at hmem
  exact hmem ▸ h.isTemplate

theorem parseArguments_argumentsOf [LawfulMonad m] (h : Independent groups path) :
    parseArguments load (argumentsOf groups) = Action.render <$> requested load groups path := by
  rw [parseArguments_eq load (configPath_argumentsOf h.forall_template h.notConfig), requested,
    map_bind]
  refine bind_congr fun base => ?_
  rw [scan_argumentsOf load _ h.forall_template, foldlM_apply load (by simp [h.template]), bind_assoc,
    map_bind]
  refine bind_congr fun palette => ?_
  have htemplate : (overridden { options := base } palette groups).template = some path := by
    simp [overridden, h.template]
  rw [pure_bind, map_pure, finish, htemplate]

theorem eq_of_perm {α : Type} {l other : List α} (h : l.length ≤ 1) (hperm : l.Perm other) :
    other = l := by
  match l, h with
  | [], _ => exact hperm.nil_eq.symm
  | [a], _ => exact hperm.singleton_eq.symm

theorem requested_perm (h : Independent groups path) (hperm : groups.Perm others) :
    requested load others path = requested load groups path := by
  have hvalues (flag : ValueFlag) : valuesOf flag others = valuesOf flag groups :=
    eq_of_perm (h.value flag) (hperm.filterMap _)
  have houtputs : outputsOf others = outputsOf groups := eq_of_perm h.output (hperm.filterMap _)
  have htemplates : templatesOf others = templatesOf groups :=
    eq_of_perm (by simp [h.template]) (hperm.filterMap _)
  simp only [requested, overridden, hvalues, houtputs, htemplates, hperm.contains_eq]

theorem Independent.perm (h : Independent groups path) (hperm : groups.Perm others) :
    Independent others path where
  template := by
    rw [← h.template]
    exact eq_of_perm (by simp [h.template]) (hperm.filterMap _)
  isTemplate := h.isTemplate
  value flag := (hperm.filterMap _).length_eq ▸ h.value flag
  output := (hperm.filterMap _).length_eq ▸ h.output
  notConfig flag hmem := h.notConfig flag ((hperm.filterMap _).mem_iff.mpr hmem)

/-- In any order, a template and flags mean the options of the configuration with the fields of the
flags replaced. -/
theorem parseArguments_perm [LawfulMonad m] (h : Independent groups path)
    (hperm : groups.Perm others) :
    parseArguments load (argumentsOf groups) = Action.render <$> requested load groups path ∧
      parseArguments load (argumentsOf others) = Action.render <$> requested load groups path := by
  refine ⟨parseArguments_argumentsOf h, ?_⟩
  rw [parseArguments_argumentsOf (h.perm hperm), requested_perm h hperm]

end

/-- A palette beside the configuration. -/
def brandFiles : Load Id := fun path =>
  if path == "brand.json" then .ok "\x7b\"content\": \x7b\x7d\x7d" else mailFile path

def brandPalette : Palette :=
  { content := {} }

theorem run_startingOptions_brandFiles :
    (startingOptions brandFiles (some "mail.json")).run = .ok { inlineStyles := false } := by
  cbv

theorem run_lastPalette_brandFiles (palette : Palette) :
    (lastPalette brandFiles palette ["brand.json"]).run = .ok brandPalette := by
  cbv

/-- Flags with a value that looks like a flag, and the template before them. -/
def templateFirst : List Group :=
  [.plain "t.html", .valued .errorStyle "--root", .switch .noEval, .valued .palette "brand.json",
    .valued .config "mail.json"]

def configFirst : List Group :=
  [.valued .config "mail.json", .switch .noEval, .plain "t.html", .valued .errorStyle "--root",
    .valued .palette "brand.json"]

theorem parseArguments_perm_templateFirst :
    let request : Request :=
      ⟨"t.html",
        { inlineStyles := false, evaluateExpressions := false, errorStyle := "--root",
          palette := brandPalette },
        .text⟩
    Independent templateFirst "t.html" ∧ templateFirst.Perm configFirst ∧
      (parseArguments brandFiles (argumentsOf templateFirst)).run = .ok (.render request) ∧
      (parseArguments brandFiles (argumentsOf configFirst)).run = .ok (.render request) := by
  intro request
  have htemplate : IsTemplate "t.html" := ⟨by decide +kernel, by decide, by decide⟩
  have hindependent : Independent templateFirst "t.html" :=
    ⟨rfl, htemplate, fun flag => by cases flag <;> decide, by decide,
      fun flag => by cases flag <;> decide⟩
  have hperm : templateFirst.Perm configFirst := by decide
  have hrequest : (Action.render <$> requested brandFiles templateFirst "t.html").run =
      .ok (.render request) := by
    rw [requested, map_bind]
    refine (run_bind_of_run run_startingOptions_brandFiles _).trans ?_
    rw [map_bind]
    exact run_bind_of_run (run_lastPalette_brandFiles _) _
  obtain ⟨hfirst, hother⟩ :=
    @parseArguments_perm Id _ brandFiles templateFirst configFirst "t.html" _ hindependent hperm
  exact ⟨hindependent, hperm, (congrArg ExceptT.run hfirst).trans hrequest,
    (congrArg ExceptT.run hother).trans hrequest⟩

end MailTemplate.Command
