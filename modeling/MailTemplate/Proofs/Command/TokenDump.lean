import MailTemplate.Command.Run
import MailTemplate.Proofs.Json.Printed
import MailTemplate.Proofs.Json.Records

/-! # The token dump

A list of tokens is read back from the dump that the command prints of it, and a token from its JSON
on one line (`readTokens_document`). A list is read item by item, so it comes back if every one of
its items does (`Tree.decodeList_ofList`). -/

namespace MailTemplate

namespace Json.Tree

def decodeEach {α : Type} (decode : Decoder α) (depth : Nat) : ItemTrees → Decoded (List α)
  | .stop stop => itemStop [] stop
  | .item value rest => do
    let a ← decode depth value
    return a :: (← decodeEach decode depth rest)

/-- A list with each of its items read by the decoder. -/
def decodeList {α : Type} (decode : Decoder α) : Decoder (List α)
  | depth, array items => do decodeEach decode (← descend depth) items
  | _, tree => tree.mismatch "a sequence"

theorem decodeEach_ofList {α : Type} {decode : Decoder α} {depth : Nat} {treeOf : α → Tree}
    {as : List α} (h : ∀ a ∈ as, decode depth (treeOf a) = .ok a) :
    decodeEach decode depth (.ofList (as.map treeOf)) = .ok as := by
  induction as with
  | nil => rfl
  | cons a as ih =>
    obtain ⟨ha, has⟩ := List.forall_mem_cons.mp h
    rw [List.map_cons, ItemTrees.ofList, decodeEach, ha, ih has]
    rfl

theorem decodeList_ofList {α : Type} {decode : Decoder α} {depth : Nat} (hdepth : 1 < depth)
    {treeOf : α → Tree} {as : List α} (h : ∀ a ∈ as, decode (depth - 1) (treeOf a) = .ok a) :
    decodeList decode depth (.array (.ofList (as.map treeOf))) = .ok as := by
  rw [decodeList, (descend_eq hdepth).1]
  exact decodeEach_ofList h

end Json.Tree

namespace Markup

open Json

theorem Kind.lookup_variants (kind : Kind) : Kind.variants.lookup kind.label = some kind := by
  cases kind <;> decide

namespace Token

theorem toJson_floatFree (token : Token) : token.toJson.FloatFree :=
  Value.floatFree_object.mpr (by simp)

theorem decode_tree (token : Token) {depth : Nat} (hdepth : 1 < depth) :
    decode depth token.toJson.tree = .ok token := by
  have hkind : Tree.decodeVariant Kind.variants (depth - 1) (.string ⟨.ok token.kind.label, none⟩) =
      .ok token.kind := by
    simp only [Tree.decodeVariant, Tree.variant, Tree.checked, bind, Except.bind,
      Kind.lookup_variants]
    rfl
  have hrecord : Tree.decodeRecord "struct Token" fields {} depth token.toJson.tree =
      .ok ⟨some token.kind, some token.text⟩ := by
    rw [toJson, Value.tree_object, Tree.decodeRecord, (Tree.descend_eq hdepth).1]
    simp only [bind, Except.bind, Members.trees, List.map_cons, List.map_nil]
    rw [Tree.decodeNamed_known rfl, if_neg (by simp), Value.tree, Tree.RecordField.read_of hkind]
    simp only [bind, Except.bind]
    rw [Tree.decodeNamed_known rfl, if_neg (by decide)]
    rfl
  rw [decode, hrecord]
  rfl

end Token

end Markup

namespace Command

open Json Markup

/-- Nothing is lost in the dump of the tokens, nor in the JSON of one token. -/
theorem readTokens_document :
    (∀ rendered : Template.Rendered,
      Tree.decodeText (Tree.decodeList Token.decode) (document .tokens rendered ++ "\n") =
        .ok rendered.tokens) ∧
    ∀ token : Token, Tree.decodeText Token.decode token.toJson.compact = .ok token := by
  refine ⟨fun rendered => ?_, fun token => ?_⟩
  · have hfree : (Value.array (rendered.tokens.map Token.toJson)).FloatFree :=
      .array (List.forall_mem_map.mpr fun token _ => token.toJson_floatFree)
    have hsaid : Tree.Says (_ ++ "\n") _ :=
      hfree.says_pretty.append (by simp [Tree.AreBlanks, Tree.isBlank])
    rw [document, Tree.decodeText_of_says _ hsaid, Value.tree, Value.itemTrees_eq, List.map_map]
    exact Tree.decodeList_ofList (by decide) fun token _ => token.decode_tree (by decide)
  · rw [Tree.decodeText_of_says _ token.toJson_floatFree.says_compact]
    exact token.decode_tree (by decide)

end Command

end MailTemplate
