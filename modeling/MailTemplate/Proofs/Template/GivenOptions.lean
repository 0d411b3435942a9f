import MailTemplate.Proofs.Markup.GivenColors
import MailTemplate.Template.Options

/-! # Options in part

An object may give any of the options, and of the palette and the limits any part. Read as options
it gives these, and all that is missing is as it is without a configuration
(`GivenOptions.In.decode`), in whatever order its members stand (`GivenOptions.In.rearranged`). -/

namespace MailTemplate.Template

open Json Tree Markup

/-- What is said about the limits: each may be missing, and one that is there may be none. -/
structure GivenLimits where
  timeLimitMs : Option (Option UInt64) := none
  memoryLimit : Option (Option UInt64) := none
  maxStackSize : Option (Option UInt64) := none

/-- What is said about the options. The variables may be any object that a text can say
(`Tree.ordered_of_value?`). -/
structure GivenOptions where
  root : Option (Option String) := none
  inlineStyles : Option Bool := none
  evaluateExpressions : Option Bool := none
  errorStyle : Option String := none
  palette : Option GivenPalette := none
  globals : Option OrderedMembers := none
  sandbox : Option GivenLimits := none

/-- The members say this about the limits, and nothing of it twice. -/
structure GivenLimits.In (given : GivenLimits) (members : List (String × Tree)) : Prop where
  once : Once ["time_limit_ms", "memory_limit", "max_stack_size"] members
  timeLimitMs : Gives members "time_limit_ms" (fun tree n => tree.value? = some (limitToJson n))
    given.timeLimitMs
  memoryLimit : Gives members "memory_limit" (fun tree n => tree.value? = some (limitToJson n))
    given.memoryLimit
  maxStackSize : Gives members "max_stack_size" (fun tree n => tree.value? = some (limitToJson n))
    given.maxStackSize

/-- The members say this about the options, and nothing of it twice. -/
structure GivenOptions.In (given : GivenOptions) (members : List (String × Tree)) : Prop where
  once : Once ["root", "inline_styles", "evaluate_expressions", "error_style", "palette", "globals",
    "sandbox"] members
  root : Gives members "root" (fun tree root => tree.value? = some (Options.rootToJson root))
    given.root
  inlineStyles : Gives members "inline_styles" (fun tree b => tree.value? = some (.bool b))
    given.inlineStyles
  evaluateExpressions : Gives members "evaluate_expressions"
    (fun tree b => tree.value? = some (.bool b)) given.evaluateExpressions
  errorStyle : Gives members "error_style" (fun tree style => tree.value? = some (.string style))
    given.errorStyle
  palette : Gives members "palette" (fun tree palette => IsObject palette.In tree) given.palette
  globals : Gives members "globals"
    (fun tree (globals : OrderedMembers) => tree.value? = some (.object globals)) given.globals
  sandbox : Gives members "sandbox" (fun tree limits => IsObject limits.In tree) given.sandbox

def GivenLimits.toLimits (given : GivenLimits) : Script.Limits where
  timeLimitMs := given.timeLimitMs.getD none
  memoryLimit := given.memoryLimit.getD none
  maxStackSize := given.maxStackSize.getD none

/-- The usual options with those that are given in their place. -/
def GivenOptions.toOptions (given : GivenOptions) : Options where
  root := given.root.getD usual.root
  inlineStyles := given.inlineStyles.getD usual.inlineStyles
  evaluateExpressions := given.evaluateExpressions.getD usual.evaluateExpressions
  errorStyle := given.errorStyle.getD usual.errorStyle
  palette := (given.palette.map GivenPalette.toPalette).getD usual.palette
  globals := given.globals.getD usual.globals
  sandbox := (given.sandbox.map GivenLimits.toLimits).getD usual.sandbox
where
  usual : Options := {}

/-! ## Limits -/

theorem limitToJson_simple (limit : Option UInt64) : (limitToJson limit).Simple := by
  cases limit
  · exact .null
  · exact .natural

theorem decodeLimit_eq {tree : Tree} {limit : Option UInt64}
    (h : tree.value? = some (limitToJson limit)) (wanted : String) (depth : Nat) :
    decodeLimit wanted depth tree = .ok limit := by
  cases limit with
  | none =>
    rw [decodeLimit, decodeOption_null depth _ h]
    rfl
  | some n =>
    have htree := eq_number_of_value? h
    have hnat := decodeNat_eq depth h n.toNat_lt_size wanted
    rw [decodeLimit, decodeOption_eq depth (by rw [htree]; simp) hnat]
    simp [Except.map]

theorem limitParts :
    IsPart limitFields "time_limit_ms" (decodeLimit "u64") Script.Limits.timeLimitMs ∧
    IsPart limitFields "memory_limit" (decodeLimit "usize") Script.Limits.memoryLimit ∧
    IsPart limitFields "max_stack_size" (decodeLimit "usize") Script.Limits.maxStackSize := by
  refine ⟨?_, ?_, ?_⟩
  all_goals
    refine ⟨by simp [limitFields, RecordField.of], ?_⟩
    simp only [limitFields, List.forall_mem_cons]
    refine ⟨?_, ?_, ?_, List.forall_mem_nil _⟩
  all_goals first | exact .sets fun _ _ => rfl | exact .keeps (by decide) fun _ _ => rfl

theorem GivenLimits.In.decode {given : GivenLimits} {members : List (String × Tree)}
    (h : given.In members) {depth : Nat} (hfits : Fits depth (.object (.ofList members))) :
    decodeLimits depth (.object (.ofList members)) = .ok given.toLimits := by
  have htime := h.timeLimitMs.imp fun tree n _ hn => decodeLimit_eq hn "u64" (depth - 1)
  have hmemory := h.memoryLimit.imp fun tree n _ hn => decodeLimit_eq hn "usize" (depth - 1)
  have hstack := h.maxStackSize.imp fun tree n _ hn => decodeLimit_eq hn "usize" (depth - 1)
  have hread : ∀ field ∈ limitFields, Readable (depth - 1) members field := by
    simp only [limitFields, List.forall_mem_cons]
    exact ⟨htime.readable h.once (by simp) _, hmemory.readable h.once (by simp) _,
      hstack.readable h.once (by simp) _, List.forall_mem_nil _⟩
  obtain ⟨⟨time, memory, stack⟩, hlimits, hgiven⟩ :=
    exists_decodeRecord hfits hread h.once "struct SandboxLimits" {}
  obtain rfl : time = given.timeLimitMs.getD none := hgiven limitParts.1 htime
  obtain rfl : memory = given.memoryLimit.getD none := hgiven limitParts.2.1 hmemory
  obtain rfl : stack = given.maxStackSize.getD none := hgiven limitParts.2.2 hstack
  exact hlimits

/-! ## Options -/

theorem rootToJson_simple (root : Option String) : (Options.rootToJson root).Simple := by
  cases root
  · exact .null
  · exact .string

theorem decodeRoot_eq {tree : Tree} {root : Option String}
    (h : tree.value? = some (Options.rootToJson root)) (wanted : String) (depth : Nat) :
    decodeOption (decodeString wanted) depth tree = .ok root := by
  cases root with
  | none => exact decodeOption_null depth _ h
  | some root =>
    obtain ⟨fault, rfl⟩ := eq_string_of_value? h
    exact decodeOption_eq depth (by simp) (decodeString_eq depth h wanted)

theorem optionParts :
    IsPart Options.fields "root" (decodeOption (decodeString "path string")) Options.root ∧
    IsPart Options.fields "inline_styles" decodeBool Options.inlineStyles ∧
    IsPart Options.fields "evaluate_expressions" decodeBool Options.evaluateExpressions ∧
    IsPart Options.fields "error_style" (decodeString "a string") Options.errorStyle ∧
    IsPart Options.fields "palette" Palette.decode Options.palette ∧
    IsPart Options.fields "globals" decodeObject Options.globals ∧
    IsPart Options.fields "sandbox" decodeLimits Options.sandbox := by
  refine ⟨?_, ?_, ?_, ?_, ?_, ?_, ?_⟩
  all_goals
    refine ⟨by simp [Options.fields, RecordField.of], ?_⟩
    simp only [Options.fields, List.forall_mem_cons]
    refine ⟨?_, ?_, ?_, ?_, ?_, ?_, ?_, List.forall_mem_nil _⟩
  all_goals first | exact .sets fun _ _ => rfl | exact .keeps (by decide) fun _ _ => rfl

theorem GivenOptions.In.decode {given : GivenOptions} {members : List (String × Tree)}
    (h : given.In members) {depth : Nat} (hfits : Fits depth (.object (.ofList members))) :
    Options.decode depth (.object (.ofList members)) = .ok given.toOptions := by
  have hinside {name : String} {tree : Tree} (hmem : (name, tree) ∈ members) :
      Fits (depth - 1) tree := hfits.inside _ hmem
  have hroot := h.root.imp fun tree root _ hroot =>
    decodeRoot_eq hroot "path string" (depth - 1)
  have hinline := h.inlineStyles.imp fun tree b _ hb => decodeBool_eq (depth - 1) hb
  have hevaluate := h.evaluateExpressions.imp fun tree b _ hb => decodeBool_eq (depth - 1) hb
  have herror := h.errorStyle.imp fun tree style _ hstyle =>
    decodeString_eq (depth - 1) hstyle "a string"
  have hpalette : Gives members "palette"
      (fun tree palette => Palette.decode (depth - 1) tree = .ok palette)
      (given.palette.map GivenPalette.toPalette) := by
    refine h.palette.map _ fun tree palette hmem => ?_
    rintro ⟨inner, rfl, hin⟩
    exact hin.decode (hinside hmem)
  have hglobals := h.globals.imp fun tree globals hmem hglobals =>
    decodeObject_eq hglobals (hinside hmem).depth
  have hsandbox : Gives members "sandbox"
      (fun tree limits => decodeLimits (depth - 1) tree = .ok limits)
      (given.sandbox.map GivenLimits.toLimits) := by
    refine h.sandbox.map _ fun tree limits hmem => ?_
    rintro ⟨inner, rfl, hin⟩
    exact hin.decode (hinside hmem)
  have hread : ∀ field ∈ Options.fields, Readable (depth - 1) members field := by
    simp only [Options.fields, List.forall_mem_cons]
    exact ⟨hroot.readable h.once (by simp) _, hinline.readable h.once (by simp) _,
      hevaluate.readable h.once (by simp) _, herror.readable h.once (by simp) _,
      hpalette.readable h.once (by simp) _, hglobals.readable h.once (by simp) _,
      hsandbox.readable h.once (by simp) _, List.forall_mem_nil _⟩
  obtain ⟨options, hoptions, hgiven⟩ :=
    exists_decodeRecord hfits hread h.once "struct Options" {}
  obtain ⟨partRoot, partInline, partEvaluate, partError, partPalette, partGlobals, partSandbox⟩ :=
    optionParts
  rw [Options.decode, hoptions]
  rw [show options = ⟨options.root, options.inlineStyles, options.evaluateExpressions,
      options.errorStyle, options.palette, options.globals, options.sandbox⟩ from rfl,
    hgiven partRoot hroot, hgiven partInline hinline, hgiven partEvaluate hevaluate,
    hgiven partError herror, hgiven partPalette hpalette, hgiven partGlobals hglobals,
    hgiven partSandbox hsandbox]
  rfl

/-! ## The order of the members -/

theorem GivenLimits.In.rearranged {given : GivenLimits} {fixed : String}
    {members others : List (String × Tree)} (h : given.In members)
    (hr : Rearranged fixed members others) : given.In others where
  once := h.once.rearranged hr
  timeLimitMs := h.timeLimitMs.rearranged hr fun _ => unordered_value limitToJson_simple
  memoryLimit := h.memoryLimit.rearranged hr fun _ => unordered_value limitToJson_simple
  maxStackSize := h.maxStackSize.rearranged hr fun _ => unordered_value limitToJson_simple

theorem GivenOptions.In.rearranged {given : GivenOptions} {members others : List (String × Tree)}
    (h : given.In members) (hr : Rearranged "globals" members others) : given.In others where
  once := h.once.rearranged hr
  root := h.root.rearranged hr fun _ => unordered_value rootToJson_simple
  inlineStyles := h.inlineStyles.rearranged hr fun _ => unordered_value fun _ => .bool
  evaluateExpressions := h.evaluateExpressions.rearranged hr fun _ => unordered_value fun _ => .bool
  errorStyle := h.errorStyle.rearranged hr fun _ => unordered_value fun _ => .string
  palette := h.palette.rearranged hr fun _ =>
    unordered_isObject fun _ _ _ => GivenPalette.In.rearranged
  globals := h.globals.rearranged hr fun hne => absurd rfl hne
  sandbox := h.sandbox.rearranged hr fun _ =>
    unordered_isObject fun _ _ _ => GivenLimits.In.rearranged

/-! ## Options as a whole -/

def wholeLimits (limits : Script.Limits) : GivenLimits where
  timeLimitMs := some limits.timeLimitMs
  memoryLimit := some limits.memoryLimit
  maxStackSize := some limits.maxStackSize

theorem limitsToJson_floatFree (limits : Script.Limits) : (limitsToJson limits).FloatFree :=
  .object (by simp [(limitToJson_simple _).floatFree])

theorem isObject_limitsToJson (limits : Script.Limits) :
    IsObject (wholeLimits limits).In (limitsToJson limits).tree := by
  have hlimit (limit : Option UInt64) := (limitToJson_simple limit).ordered.value?_tree
  refine ⟨_, Value.tree_object _, {
    once := Members.once (by simp) _
    timeLimitMs := Members.gives (by simp) (hlimit limits.timeLimitMs)
    memoryLimit := Members.gives (by simp) (hlimit limits.memoryLimit)
    maxStackSize := Members.gives (by simp) (hlimit limits.maxStackSize) }⟩

namespace Options

def whole (options : Options) : GivenOptions where
  root := some options.root
  inlineStyles := some options.inlineStyles
  evaluateExpressions := some options.evaluateExpressions
  errorStyle := some options.errorStyle
  palette := some options.palette.whole
  globals := some options.globals
  sandbox := some (wholeLimits options.sandbox)

theorem toOptions_whole (options : Options) : options.whole.toOptions = options := rfl

theorem toJson_floatFree {options : Options} (h : (Value.object options.globals).FloatFree) :
    options.toJson.FloatFree := by
  refine .object ?_
  simp only [List.forall_mem_cons]
  exact ⟨(rootToJson_simple _).floatFree, .bool, .bool, .string,
    options.palette.toJson_floatFree, h, limitsToJson_floatFree options.sandbox, List.forall_mem_nil _⟩

theorem isObject_toJson (options : Options) : IsObject options.whole.In options.toJson.tree := by
  refine ⟨_, Value.tree_object _, {
    once := Members.once (by simp) _
    root := Members.gives (by simp) (rootToJson_simple options.root).ordered.value?_tree
    inlineStyles := Members.gives (by simp) Value.Ordered.bool.value?_tree
    evaluateExpressions := Members.gives (by simp) Value.Ordered.bool.value?_tree
    errorStyle := Members.gives (by simp) Value.Ordered.string.value?_tree
    palette := Members.gives (by simp) options.palette.isObject_toJson
    globals := Members.gives (by simp) options.globals.ordered.value?_tree
    sandbox := Members.gives (by simp) (isObject_limitsToJson options.sandbox) }⟩

end Options

end MailTemplate.Template
