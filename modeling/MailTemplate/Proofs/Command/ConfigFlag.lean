import MailTemplate.Proofs.Command.Groups

/-! # Where the configuration comes from

The file of the configuration stands behind the first `--config` of all arguments, wherever this
is. In a list of groups it can be the value of another flag, and then it is none of the
configuration flags that the scan passes over. Unless it is, the options start from the file of the
first configuration flag (`options_of_render`). -/

namespace MailTemplate.Command

open Files Markup Template

section

variable {m : Type → Type} [Monad m] (load : Load m)

/-- The options before any flag changes them. -/
def startingOptions : Option String → ExceptT ArgumentError m Options
  | none => return {}
  | some path => loadOptions load path

theorem parseArguments_eq [LawfulMonad m] {arguments : List String} {path : Option String}
    (h : configPath arguments = .ok path) :
    parseArguments load arguments =
      startingOptions load path >>= fun base => scan load { options := base } arguments := by
  unfold parseArguments
  rw [h]
  cases path <;> rfl

end

def Group.isConfig : Group → Bool
  | .valued flag _ => flag == .config
  | .switch _ | .plain _ => false

def Group.value? : Group → Option String
  | .valued _ value => some value
  | .switch _ | .plain _ => none

/-- The value of the first configuration flag. -/
def configOf (groups : List Group) : Option String :=
  (groups.find? Group.isConfig).bind Group.value?

/-- A flag before the first configuration flag has `--config` as its value. -/
def ConfigHidden (groups : List Group) : Prop :=
  ∃ group ∈ groups.takeWhile (!·.isConfig), group.value? = some "--config"

instance (groups : List Group) : Decidable (ConfigHidden groups) :=
  inferInstanceAs (Decidable (∃ group ∈ groups.takeWhile _, _))

/-! ## The first `--config` -/

theorem configPath_cons_of_ne {argument : String} (h : argument ≠ "--config")
    (arguments : List String) : configPath (argument :: arguments) = configPath arguments := by
  rw [configPath.eq_def]
  split
  · rename_i heq
    cases heq
  · rename_i heq
    exact absurd (List.cons.inj heq).1 h
  · rename_i heq
    exact absurd (List.cons.inj heq).1 h
  · rename_i heq
    rw [(List.cons.inj heq).2]

/-- The configuration is what stands behind the first `--config`, whatever this is. -/
theorem cases_of_configPath {arguments : List String} {path : Option String}
    (h : configPath arguments = .ok path) :
    (path = none ∧ "--config" ∉ arguments) ∨
      ∃ before value behind, arguments = before ++ "--config" :: value :: behind ∧
        "--config" ∉ before ∧ path = some value := by
  induction arguments with
  | nil => exact .inl ⟨(Except.ok.inj h).symm, List.not_mem_nil⟩
  | cons argument arguments ih =>
    by_cases hconfig : argument = "--config"
    · subst hconfig
      cases arguments with
      | nil => cases h
      | cons value behind =>
        exact .inr ⟨[], value, behind, rfl, List.not_mem_nil, (Except.ok.inj h).symm⟩
    · rw [configPath_cons_of_ne hconfig] at h
      obtain ⟨hnone, hnot⟩ | ⟨before, value, behind, rfl, hnot, hsome⟩ := ih h
      · exact .inl ⟨hnone, List.not_mem_cons_of_ne_of_not_mem (Ne.symm hconfig) hnot⟩
      · exact .inr ⟨argument :: before, value, behind, rfl,
          List.not_mem_cons_of_ne_of_not_mem (Ne.symm hconfig) hnot, hsome⟩

theorem isConfig_ofArgument (argument : String) : (Group.ofArgument argument).isConfig = false := by
  unfold Group.ofArgument
  cases Switch.ofText? argument <;> rfl

theorem configOf_cons {group : Group} (h : group.isConfig = false) (groups : List Group) :
    configOf (group :: groups) = configOf groups := by
  rw [configOf, List.find?_cons_of_neg (by simp [h])]
  rfl

theorem configHidden_cons {group : Group} (h : group.isConfig = false) {groups : List Group} :
    ConfigHidden (group :: groups) ↔ group.value? = some "--config" ∨ ConfigHidden groups := by
  simp [ConfigHidden, h]

theorem configPath_eq {arguments : List String} {path : Option String}
    (h : configPath arguments = .ok path) (hhidden : ¬ ConfigHidden (groupsOf arguments)) :
    path = configOf (groupsOf arguments) := by
  fun_induction groupsOf arguments with
  | case1 => exact (Except.ok.inj h).symm
  | case2 argument =>
    rw [configOf_cons (isConfig_ofArgument argument)]
    by_cases hconfig : argument = "--config"
    · subst hconfig
      cases h
    · rw [configPath_cons_of_ne hconfig] at h
      exact (Except.ok.inj h).symm
  | case3 argument next arguments flag hflag ih =>
    obtain rfl := ValueFlag.eq_text_of_ofText? hflag
    by_cases hconfig : flag = .config
    · subst hconfig
      exact (Except.ok.inj h).symm
    · have hnot : (Group.valued flag next).isConfig = false := beq_false_of_ne hconfig
      have htext : flag.text ≠ "--config" := fun heq => hconfig (ValueFlag.text_injective heq)
      rw [configHidden_cons hnot, not_or] at hhidden
      have hnext : next ≠ "--config" := fun heq => hhidden.1 (congrArg some heq)
      rw [configPath_cons_of_ne htext, configPath_cons_of_ne hnext] at h
      rw [configOf_cons hnot]
      exact ih h hhidden.2
  | case4 argument next arguments hflag ih =>
    rw [configPath_cons_of_ne (ValueFlag.ne_text_of_ofText? hflag .config)] at h
    rw [configHidden_cons (isConfig_ofArgument argument), not_or] at hhidden
    rw [configOf_cons (isConfig_ofArgument argument)]
    exact ih h hhidden.2

/-! ## The scan -/

theorem exists_of_run_bind {ε α β : Type} {x : ExceptT ε Id α} {f : α → ExceptT ε Id β} {b : β}
    (h : (x >>= f).run = .ok b) : ∃ a, x.run = .ok a ∧ (f a).run = .ok b := by
  rw [ExceptT.run_bind] at h
  cases hx : x.run with
  | error error =>
    rw [hx] at h
    cases h
  | ok a =>
    rw [hx] at h
    exact ⟨a, rfl, h⟩

theorem run_bind_of_run {ε α β : Type} {x : ExceptT ε Id α} {a : α} (h : x.run = .ok a)
    (f : α → ExceptT ε Id β) : (x >>= f).run = (f a).run := by
  rw [ExceptT.run_bind, h]
  rfl

section

variable {files : Load Id} {settings : Settings} {request : Request}

theorem override_of_apply {group : Group} {next : Settings}
    (h : (group.apply files settings).run = .ok next) :
    (group.override files settings.options).run = .ok next.options := by
  unfold Group.apply at h
  split at h
  · cases h
  · obtain ⟨options, hoptions, hnext⟩ := exists_of_run_bind h
    cases hnext
    exact hoptions

theorem options_of_finish (h : (finish (m := Id) settings).run = .ok (.render request)) :
    settings.options = request.options := by
  unfold finish at h
  split at h <;> cases h
  rfl

/-- What the scan does at an argument that is no flag with a value. -/
theorem exists_of_scan_ofArgument {argument : String} {rest : List String}
    (hflag : ValueFlag.ofText? argument = none)
    (h : (scan files settings (argument :: rest)).run = .ok (.render request)) :
    ∃ next, ((Group.ofArgument argument).apply files settings).run = .ok next ∧
      (scan files next rest).run = .ok (.render request) := by
  obtain ⟨s, rfl, hgroup⟩ | hquestion | ⟨hplain, hgroup⟩ := ofArgument_cases hflag
  · rw [scan_switch] at h
    rw [hgroup]
    exact exists_of_run_bind h
  · obtain rfl | rfl | rfl | rfl := hquestion <;> cases h
  · rw [scan_plain files settings hplain] at h
    rw [hgroup]
    split at h
    · cases h
    · exact exists_of_run_bind h

theorem override_of_scan {arguments : List String}
    (h : (scan files settings arguments).run = .ok (.render request)) :
    ((groupsOf arguments).foldlM (Group.override files) settings.options).run =
      .ok request.options := by
  fun_induction groupsOf arguments generalizing settings with
  | case1 => exact congrArg Except.ok (options_of_finish h)
  | case2 argument =>
    cases hflag : ValueFlag.ofText? argument with
    | some flag =>
      obtain rfl := ValueFlag.eq_text_of_ofText? hflag
      cases flag with
      | config => exact congrArg Except.ok (options_of_finish h)
      | root | palette | errorStyle => cases h
    | none =>
      obtain ⟨passed, hpassed, hrest⟩ := exists_of_scan_ofArgument hflag h
      rw [List.foldlM_cons, run_bind_of_run (override_of_apply hpassed)]
      exact congrArg Except.ok (options_of_finish hrest)
  | case3 argument next arguments flag hflag ih =>
    obtain rfl := ValueFlag.eq_text_of_ofText? hflag
    rw [scan_valued] at h
    obtain ⟨passed, hpassed, hrest⟩ := exists_of_run_bind h
    rw [List.foldlM_cons, run_bind_of_run (override_of_apply hpassed)]
    exact ih hrest
  | case4 argument next arguments hflag ih =>
    obtain ⟨passed, hpassed, hrest⟩ := exists_of_scan_ofArgument hflag h
    rw [List.foldlM_cons, run_bind_of_run (override_of_apply hpassed)]
    exact ih hrest

end

theorem run_parseArguments {files : Load Id} {groups : List Group} {path : Option String}
    {base : Options} (hpath : configPath (argumentsOf groups) = .ok path)
    (hbase : (startingOptions files path).run = .ok base)
    (htemplates : ∀ template ∈ templatesOf groups, IsTemplate template) :
    (parseArguments files (argumentsOf groups)).run =
      (groups.foldlM (Group.apply files) { options := base } >>= finish).run := by
  rw [parseArguments_eq files hpath, run_bind_of_run hbase, scan_argumentsOf files _ htemplates]

/-- A template is rendered with the options of the file behind the first `--config`, which one group
after the other changes. This is the file of the first configuration flag unless a flag before it has
`--config` as its value. -/
theorem options_of_render {files : Load Id} {arguments : List String} {request : Request}
    (h : (parseArguments files arguments).run = .ok (.render request)) :
    ∃ path base, (startingOptions files path).run = .ok base ∧
      ((groupsOf arguments).foldlM (Group.override files) base).run = .ok request.options ∧
      (¬ ConfigHidden (groupsOf arguments) → path = configOf (groupsOf arguments)) ∧
      ((path = none ∧ "--config" ∉ arguments) ∨
        ∃ before value behind, arguments = before ++ "--config" :: value :: behind ∧
          "--config" ∉ before ∧ path = some value) := by
  cases hpath : configPath arguments with
  | error error =>
    rw [parseArguments, hpath] at h
    cases h
  | ok path =>
    rw [parseArguments_eq files hpath] at h
    obtain ⟨base, hbase, hscan⟩ := exists_of_run_bind h
    exact ⟨path, base, hbase, override_of_scan hscan, configPath_eq hpath,
      cases_of_configPath hpath⟩

/-- A single file, with a configuration. -/
def mailFile : Load Id := fun path =>
  if path == "mail.json" then .ok "\x7b\"inline_styles\": false\x7d" else .error .notFound

theorem run_startingOptions_mailFile :
    (startingOptions mailFile (some "mail.json")).run = .ok { inlineStyles := false } := by
  cbv

def overridingGroups : List Group :=
  [.valued .errorStyle "color:red", .valued .config "mail.json", .plain "t.html"]

def overridingRequest : Request :=
  ⟨"t.html", { inlineStyles := false, errorStyle := "color:red" }, .text⟩

theorem options_of_render_overriding :
    (parseArguments mailFile (argumentsOf overridingGroups)).run =
        .ok (.render overridingRequest) ∧
      ∃ base, (startingOptions mailFile (some "mail.json")).run = .ok base ∧
        ((groupsOf (argumentsOf overridingGroups)).foldlM (Group.override mailFile) base).run =
          .ok overridingRequest.options := by
  have htemplates : ∀ template ∈ templatesOf overridingGroups, IsTemplate template :=
    List.forall_mem_singleton.mpr ⟨by decide +kernel, by decide, by decide⟩
  have hrun : (parseArguments mailFile (argumentsOf overridingGroups)).run =
      .ok (.render overridingRequest) :=
    run_parseArguments rfl run_startingOptions_mailFile htemplates
  obtain ⟨path, base, hbase, hoptions, hpath, -⟩ := options_of_render hrun
  obtain rfl : path = some "mail.json" := hpath (by decide)
  exact ⟨hrun, base, hbase, hoptions⟩

/-- Groups with a root directory that looks like a flag. -/
def hidingGroups : List Group :=
  [.valued .root "--config", .plain "mail.json"]

def hidingRequest : Request :=
  ⟨"mail.json", { root := some "--config", inlineStyles := false }, .text⟩

/-- Not every run starts from the file of the first configuration flag: no configuration flag is
passed over here, and the options are not the default ones. -/
theorem not_startingOptions_configOf :
    ¬ ∀ (files : Load Id) (arguments : List String) (request : Request),
      (parseArguments files arguments).run = .ok (.render request) →
        ∃ base, (startingOptions files (configOf (groupsOf arguments))).run = .ok base ∧
          ((groupsOf arguments).foldlM (Group.override files) base).run =
            .ok request.options := by
  intro h
  have htemplates : ∀ template ∈ templatesOf hidingGroups, IsTemplate template :=
    List.forall_mem_singleton.mpr ⟨by decide +kernel, by decide, by decide⟩
  have hrun : (parseArguments mailFile (argumentsOf hidingGroups)).run =
      .ok (.render hidingRequest) :=
    run_parseArguments rfl run_startingOptions_mailFile htemplates
  have hgroups : groupsOf (argumentsOf hidingGroups) = hidingGroups := by decide
  obtain ⟨base, hbase, hoptions⟩ := h mailFile (argumentsOf hidingGroups) hidingRequest hrun
  rw [hgroups] at hbase hoptions
  obtain rfl : {} = base := Except.ok.inj hbase
  have hinline : true = false := congrArg Options.inlineStyles (Except.ok.inj hoptions)
  cases hinline

end MailTemplate.Command
