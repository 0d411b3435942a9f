import MailTemplate.Markup.JsonForm
import MailTemplate.Proofs.Json.Records

/-! # Palettes in part

An object may give some of the colors of a palette, and of a color one of its halves. Read as a
palette, it gives these; a kind without a color keeps its usual one (`GivenPalette.In.decode`), but
a half that is missing in a color is none (`GivenColor.In.decode`). -/

namespace MailTemplate.Markup

open Json Tree

/-- What is said about a color: either half may be missing, and one that is there may be none. -/
structure GivenColor where
  foreground : Option (Option UInt8) := none
  background : Option (Option UInt8) := none

/-- What is said about the color of each kind. -/
structure GivenPalette where
  color : Kind → Option GivenColor := fun _ => none

/-- The members say this about a color, and nothing of it twice. -/
structure GivenColor.In (given : GivenColor) (members : List (String × Tree)) : Prop where
  once : Once ["fg", "bg"] members
  foreground : Gives members "fg"
    (fun tree code => tree.value? = some (TokenColor.codeToJson code)) given.foreground
  background : Gives members "bg"
    (fun tree code => tree.value? = some (TokenColor.codeToJson code)) given.background

/-- The members say this about a palette, and nothing of it twice. -/
structure GivenPalette.In (given : GivenPalette) (members : List (String × Tree)) : Prop where
  once : Once ["tagOpen", "tagClose", "content", "tagContinuation", "attributeName",
    "attributeEquals", "attributeValue"] members
  color : ∀ kind, Gives members kind.label (fun tree color => IsObject color.In tree)
    (given.color kind)

def GivenColor.toColor (given : GivenColor) : TokenColor where
  foreground := given.foreground.getD none
  background := given.background.getD none

/-- The usual palette with the given colors. -/
def GivenPalette.toPalette (given : GivenPalette) : Palette where
  tagOpen := color .tagOpen
  tagClose := color .tagClose
  content := color .content
  tagContinuation := color .tagContinuation
  attributeName := color .attributeName
  attributeEquals := color .attributeEquals
  attributeValue := color .attributeValue
where
  color (kind : Kind) : TokenColor :=
    ((given.color kind).map GivenColor.toColor).getD (({} : Palette).get kind)

theorem GivenPalette.get_toPalette (given : GivenPalette) (kind : Kind) :
    given.toPalette.get kind =
      ((given.color kind).map GivenColor.toColor).getD (({} : Palette).get kind) := by
  cases kind <;> rfl

/-! ## Colors -/

theorem TokenColor.codeToJson_simple (code : Option UInt8) : (codeToJson code).Simple := by
  cases code
  · exact .null
  · exact .natural

theorem TokenColor.decodeCode_eq {tree : Tree} {code : Option UInt8}
    (h : tree.value? = some (codeToJson code)) (depth : Nat) :
    decodeCode depth tree = .ok code := by
  cases code with
  | none =>
    rw [decodeCode, decodeOption_null depth _ h]
    rfl
  | some code =>
    have htree := eq_number_of_value? h
    have hcode : code.toUInt64.toNat = code.toNat := UInt8.toNat_toUInt64 code
    have hnat := decodeNat_eq depth h (hcode ▸ code.toNat_lt_size) "u8"
    rw [decodeCode, decodeOption_eq depth (by rw [htree]; simp) hnat]
    simp [Except.map, hcode]

theorem colorParts :
    IsPart TokenColor.fields "fg" TokenColor.decodeCode TokenColor.foreground ∧
    IsPart TokenColor.fields "bg" TokenColor.decodeCode TokenColor.background := by
  refine ⟨?_, ?_⟩
  all_goals
    refine ⟨by simp [TokenColor.fields, RecordField.of], ?_⟩
    simp only [TokenColor.fields, List.forall_mem_cons]
    refine ⟨?_, ?_, List.forall_mem_nil _⟩
  all_goals first | exact .sets fun _ _ => rfl | exact .keeps (by decide) fun _ _ => rfl

theorem GivenColor.In.decode {given : GivenColor} {members : List (String × Tree)}
    (h : given.In members) {depth : Nat} (hfits : Fits depth (.object (.ofList members))) :
    TokenColor.decode depth (.object (.ofList members)) = .ok given.toColor := by
  have hforeground := h.foreground.imp fun tree code _ hcode =>
    TokenColor.decodeCode_eq hcode (depth - 1)
  have hbackground := h.background.imp fun tree code _ hcode =>
    TokenColor.decodeCode_eq hcode (depth - 1)
  have hread : ∀ field ∈ TokenColor.fields, Readable (depth - 1) members field := by
    simp only [TokenColor.fields, List.forall_mem_cons]
    exact ⟨hforeground.readable h.once (by simp) _, hbackground.readable h.once (by simp) _,
      List.forall_mem_nil _⟩
  obtain ⟨⟨foreground, background⟩, hcolor, hgiven⟩ :=
    exists_decodeRecord hfits hread h.once "struct TokenColor" {}
  obtain rfl : foreground = given.foreground.getD none := hgiven colorParts.1 hforeground
  obtain rfl : background = given.background.getD none := hgiven colorParts.2 hbackground
  exact hcolor

/-! ## Palettes -/

theorem Kind.label_injective : Function.Injective Kind.label := fun kind other h =>
  Option.some.inj (by rw [← ofLabel?_label kind, h, ofLabel?_label other])

theorem isPart_color (kind : Kind) :
    IsPart (Kind.all.map Palette.field) kind.label TokenColor.decode fun palette =>
      palette.get kind := by
  refine ⟨?_, List.forall_mem_map.mpr fun other _ => ?_⟩
  · rw [List.map_map]
    exact List.mem_map_of_mem (f := Kind.label) kind.mem_all
  · by_cases heq : other = kind
    · subst heq
      exact .sets fun color palette => by rw [Palette.get_set, if_pos rfl]
    · exact .keeps (fun hlabel => heq (Kind.label_injective hlabel)) fun color palette => by
        rw [Palette.get_set, if_neg (Ne.symm heq)]

theorem GivenPalette.In.decode {given : GivenPalette} {members : List (String × Tree)}
    (h : given.In members) {depth : Nat} (hfits : Fits depth (.object (.ofList members))) :
    Palette.decode depth (.object (.ofList members)) = .ok given.toPalette := by
  have hcolor (kind : Kind) : Gives members kind.label
      (fun tree color => TokenColor.decode (depth - 1) tree = .ok color)
      ((given.color kind).map GivenColor.toColor) := by
    refine (h.color kind).map _ fun tree color hmem => ?_
    rintro ⟨inner, rfl, hin⟩
    exact hin.decode (hfits.inside _ hmem)
  have honce : Once ((Kind.all.map Palette.field).map RecordField.name) members := by
    rw [List.map_map]
    exact h.once
  have hread : ∀ field ∈ Kind.all.map Palette.field, Readable (depth - 1) members field :=
    List.forall_mem_map.mpr fun kind hkind =>
      (hcolor kind).readable h.once (List.mem_map_of_mem hkind) _
  obtain ⟨palette, hpalette, hgiven⟩ := exists_decodeRecord hfits hread honce "struct Palette" {}
  rw [Palette.decode, hpalette]
  refine congrArg Except.ok (Palette.ext_get fun kind => ?_)
  rw [GivenPalette.get_toPalette]
  exact hgiven (isPart_color kind) (hcolor kind)

/-! ## The order of the members -/

theorem GivenColor.In.rearranged {given : GivenColor} {fixed : String}
    {members others : List (String × Tree)} (h : given.In members)
    (hr : Rearranged fixed members others) : given.In others where
  once := h.once.rearranged hr
  foreground := h.foreground.rearranged hr fun _ => unordered_value TokenColor.codeToJson_simple
  background := h.background.rearranged hr fun _ => unordered_value TokenColor.codeToJson_simple

theorem GivenPalette.In.rearranged {given : GivenPalette} {fixed : String}
    {members others : List (String × Tree)} (h : given.In members)
    (hr : Rearranged fixed members others) : given.In others where
  once := h.once.rearranged hr
  color kind := (h.color kind).rearranged hr fun _ =>
    unordered_isObject fun _ _ _ => GivenColor.In.rearranged

/-! ## A palette as a whole -/

namespace TokenColor

def whole (color : TokenColor) : GivenColor where
  foreground := some color.foreground
  background := some color.background

theorem toJson_floatFree (color : TokenColor) : color.toJson.FloatFree :=
  Value.floatFree_object.mpr (by simp [(codeToJson_simple _).floatFree])

theorem isObject_toJson (color : TokenColor) : IsObject color.whole.In color.toJson.tree := by
  have hcode (code : Option UInt8) := (codeToJson_simple code).ordered.value?_tree
  refine ⟨_, Value.tree_object _, {
    once := Members.once (by simp) _
    foreground := Members.gives (by simp) (hcode color.foreground)
    background := Members.gives (by simp) (hcode color.background) }⟩

end TokenColor

namespace Palette

def whole (palette : Palette) : GivenPalette where
  color kind := some (palette.get kind).whole

theorem toJson_floatFree (palette : Palette) : palette.toJson.FloatFree :=
  .object (List.forall_mem_map.mpr fun kind _ => (palette.get kind).toJson_floatFree)

theorem isObject_toJson (palette : Palette) : IsObject palette.whole.In palette.toJson.tree := by
  have hnames : ((Kind.all.map fun kind => (kind.label, (palette.get kind).toJson)).map
      Prod.fst).Nodup := by
    rw [List.map_map]
    exact show (Kind.all.map Kind.label).Nodup by decide
  refine ⟨_, Value.tree_object _, {
    once := Members.once hnames _
    color := fun kind =>
      Members.gives (List.mem_map_of_mem kind.mem_all) (palette.get kind).isObject_toJson }⟩

end Palette

end MailTemplate.Markup
