import MailTemplate.Proofs.Template.GivenOptions

/-! # Options as text

Any text of an object that gives some of the options is read as the usual options with these in
their place, whatever else is in it and in whatever order (`ofText_of_in`). The JSON of options
gives all of them, so they are read back from it (`ofText_toJson`). -/

namespace MailTemplate.Template.Options

open Json Tree Markup

/-- What is given takes the place of what is usual. On no level does the order of the members matter;
only the variables keep theirs, as among them the last of several with one name counts. -/
theorem ofText_of_in {given : GivenOptions} {members : List (String × Tree)}
    (h : given.In members) (hdepth : (Tree.object (.ofList members)).depth ≤ 127) :
    (∀ text, Says text (.object (.ofList members)) → ofText text = .ok given.toOptions) ∧
    ∀ others, Rearranged "globals" members others →
      ∀ text, Says text (.object (.ofList others)) → ofText text = .ok given.toOptions := by
  have hread (others : List (String × Tree)) (hr : Rearranged "globals" members others)
      (text : String) (hsaid : Says text (.object (.ofList others))) :
      ofText text = .ok given.toOptions := by
    have hothers : (Tree.object (.ofList others)).depth ≤ 127 := by
      rwa [Tree.depth, hr.depth]
    rw [ofText, decodeText_of_says _ hsaid]
    exact (h.rearranged hr).decode (hsaid.fits hothers)
  exact ⟨hread members (.perm (.refl members)), hread⟩

def scatteredColors : Members :=
  [("content", .object [("bg", .number (.natural 41))]), ("comment", .string "dim"),
    ("tagOpen", .object [])]

def scatteredLimits : Members :=
  [("max_stack_size", .null), ("cpus", .number (.natural 2)),
    ("memory_limit", .number (.natural 18446744073709551615))]

def scatteredGlobals : OrderedMembers where
  members := [("user", .object [("name", .string "Ann")])]
  ordered := by simp [Members.Sorted]

/-- A configuration with some of the options, and among them names that say nothing. -/
def scattered : Members :=
  [("theme", .array [.null, .object [("dark", .bool true)]]), ("sandbox", .object scatteredLimits),
    ("palette", .object scatteredColors), ("globals", .object scatteredGlobals),
    ("inline_styles", .bool false)]

def givenColors : GivenPalette where
  color
    | .content => some { background := some (some 41) }
    | .tagOpen => some {}
    | _ => none

def givenLimits : GivenLimits where
  memoryLimit := some (some 18446744073709551615)
  maxStackSize := some none

def givenScattered : GivenOptions where
  inlineStyles := some false
  palette := some givenColors
  globals := some scatteredGlobals
  sandbox := some givenLimits

theorem givenColors_in : givenColors.In scatteredColors.trees where
  once := Members.once (by simp [scatteredColors]) _
  color kind := by
    cases kind with
    | content =>
      refine Members.gives List.mem_cons_self ⟨_, Value.tree_object _, ?_⟩
      exact ⟨Members.once (by simp) _, by simp [Gives, Members.trees],
        Members.gives List.mem_cons_self rfl⟩
    | tagOpen =>
      have hmem : ("tagOpen", .object []) ∈ scatteredColors := by simp [scatteredColors]
      refine Members.gives hmem ⟨_, Value.tree_object _, ?_⟩
      exact ⟨Members.once (by simp) _, by simp [Gives, Members.trees],
        by simp [Gives, Members.trees]⟩
    | _ => simp [Gives, givenColors, scatteredColors, Members.trees, Kind.label]

theorem givenLimits_in : givenLimits.In scatteredLimits.trees where
  once := Members.once (by simp [scatteredLimits]) _
  timeLimitMs := by simp [Gives, givenLimits, scatteredLimits, Members.trees]
  memoryLimit :=
    Members.gives (List.mem_cons_of_mem _ (List.mem_cons_of_mem _ List.mem_cons_self)) rfl
  maxStackSize := Members.gives List.mem_cons_self rfl

theorem givenScattered_in : givenScattered.In scattered.trees := by
  have hinline : ("inline_styles", .bool false) ∈ scattered := by simp [scattered]
  have hpalette : ("palette", .object scatteredColors) ∈ scattered := by simp [scattered]
  have hglobals : ("globals", .object scatteredGlobals) ∈ scattered := by simp [scattered]
  have hsandbox : ("sandbox", .object scatteredLimits) ∈ scattered := by simp [scattered]
  exact {
    once := Members.once (by simp [scattered]) _
    root := by simp [Gives, givenScattered, scattered, Members.trees]
    inlineStyles := Members.gives hinline rfl
    evaluateExpressions := by simp [Gives, givenScattered, scattered, Members.trees]
    errorStyle := by simp [Gives, givenScattered, scattered, Members.trees]
    palette := Members.gives hpalette ⟨_, Value.tree_object _, givenColors_in⟩
    globals := Members.gives hglobals rfl
    sandbox := Members.gives hsandbox ⟨_, Value.tree_object _, givenLimits_in⟩ }

/-- The options that are read from it, in the order of the members and against it. -/
theorem ofText_of_in_scattered :
    givenScattered.In scattered.trees ∧ (Tree.object (.ofList scattered.trees)).depth ≤ 127 ∧
      ofText (Value.object scattered).pretty = .ok
        { inlineStyles := false
          palette := { tagOpen := {}, content := { background := some 41 } }
          globals := scatteredGlobals
          sandbox := { memoryLimit := some 18446744073709551615 } } ∧
      ofText (Value.object scattered.reverse).compact = ofText (Value.object scattered).pretty := by
  have hfree : (Value.object scattered).FloatFree := by
    simp [scattered, scatteredColors, scatteredLimits, scatteredGlobals]
  have hfree' : (Value.object scattered.reverse).FloatFree := by simpa using hfree
  have hdepth : (Tree.object (.ofList scattered.trees)).depth ≤ 127 := by decide
  have hpretty := (ofText_of_in givenScattered_in hdepth).1 _
    (Value.tree_object scattered ▸ hfree.says_pretty)
  have hreverse := (ofText_of_in givenScattered_in hdepth).2 _ (.perm (List.reverse_perm _)) _
    (Value.tree_object scattered.reverse ▸ hfree'.says_compact)
  exact ⟨givenScattered_in, hdepth, hpretty, hreverse.trans hpretty.symm⟩

/-- Options are read back from their JSON, on one line and on many. -/
theorem ofText_toJson {options : Options} (hfree : (Value.object options.globals).FloatFree)
    (hdepth : options.toJson.tree.depth ≤ 127) :
    ofText options.toJson.compact = .ok options ∧ ofText options.toJson.pretty = .ok options := by
  have hread {text : String} (hsaid : Says text options.toJson.tree) :
      ofText text = .ok options := by
    have hfits := hsaid.fits hdepth
    obtain ⟨members, htree, hin⟩ := isObject_toJson options
    rw [ofText, decodeText_of_says _ hsaid, htree]
    rw [htree] at hfits
    rw [hin.decode hfits, toOptions_whole]
  exact ⟨hread (toJson_floatFree hfree).says_compact, hread (toJson_floatFree hfree).says_pretty⟩

def variegatedUser : OrderedMembers where
  members := [("id", .number (.natural 18446744073709551615)), ("name", .string "Ann")]
  ordered := .object (by unfold Members.Sorted; decide) (by simp)

/-- Every kind of value as a variable. -/
def variegatedGlobals : OrderedMembers where
  members := [("list", .array [.null, .number (.negSucc 4), .bool true]),
    ("user", .object variegatedUser)]
  ordered := .object (by unfold Members.Sorted; decide)
    (List.forall_mem_cons.mpr ⟨by simp, List.forall_mem_singleton.mpr variegatedUser.ordered⟩)

def variegated : Options where
  root := some "templates/é"
  evaluateExpressions := false
  errorStyle := "font: \"a\\b\";\n"
  palette := { content := { foreground := none, background := some 255 } }
  globals := variegatedGlobals
  sandbox := { timeLimitMs := some 18446744073709551615, maxStackSize := some 0 }

theorem ofText_toJson_variegated :
    (Value.object variegated.globals).FloatFree ∧ variegated.toJson.tree.depth ≤ 127 ∧
      ofText variegated.toJson.compact = .ok variegated ∧
      ofText variegated.toJson.pretty = .ok variegated := by
  have hfree : (Value.object variegated.globals).FloatFree := by
    simp [variegated, variegatedGlobals, variegatedUser]
  have hdepth : variegated.toJson.tree.depth ≤ 127 := by decide
  exact ⟨hfree, hdepth, ofText_toJson hfree hdepth⟩

end MailTemplate.Template.Options
