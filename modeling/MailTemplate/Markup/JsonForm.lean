import MailTemplate.Json.Decode
import MailTemplate.Json.Writer
import MailTemplate.Markup.Palette

/-! Tokens and palettes as JSON. -/

namespace MailTemplate.Markup

open Json

def Kind.variants : List (String × Kind) :=
  Kind.all.map fun kind => (kind.label, kind)

namespace Token

def toJson (token : Token) : Value :=
  .object [("kind", .string token.kind.label), ("text", .string token.text)]

/-- The fields of a token that have been read. -/
structure Fields where
  kind : Option Kind := none
  text : Option String := none

def fields : List (RecordField Fields) :=
  [.of "kind" (Tree.decodeVariant Kind.variants) fun kind found => { found with kind := some kind },
    .of "text" (Tree.decodeString "a string") fun text found => { found with text := some text }]

/-- The error for a token without one of its fields; `length` are there before it. -/
def missing (name : String) (length : Nat) : Tree → Json.Error
  | .array _ => .wrongLength length "struct Token with 2 elements"
  | _ => .missingField name

/-- A token has both of its fields. -/
def decode : Decoder Token := fun depth tree => do
  let found ← Tree.decodeRecord "struct Token" fields {} depth tree
  match found.kind, found.text with
  | some kind, some text => return ⟨kind, text⟩
  | none, _ => throw (missing "kind" 0 tree)
  | some _, none => throw (missing "text" 1 tree)

end Token

namespace TokenColor

def codeToJson : Option UInt8 → Value
  | none => .null
  | some code => .number (.natural code.toUInt64)

def toJson (color : TokenColor) : Value :=
  .object [("fg", codeToJson color.foreground), ("bg", codeToJson color.background)]

def decodeCode : Decoder (Option UInt8) := fun depth tree =>
  (Tree.decodeOption (Tree.decodeNat "u8" UInt8.size) depth tree).map (·.map UInt8.ofNat)

def fields : List (RecordField TokenColor) :=
  [.of "fg" decodeCode fun code color => { color with foreground := code },
    .of "bg" decodeCode fun code color => { color with background := code }]

/-- A code that is missing is none. -/
def decode : Decoder TokenColor :=
  Tree.decodeRecord "struct TokenColor" fields {}

end TokenColor

namespace Palette

def toJson (palette : Palette) : Value :=
  .object (Kind.all.map fun kind => (kind.label, (palette.get kind).toJson))

def field (kind : Kind) : RecordField Palette :=
  .of kind.label TokenColor.decode fun color palette => palette.set kind color

/-- A kind that is missing has its usual color. -/
def decode : Decoder Palette :=
  Tree.decodeRecord "struct Palette" (Kind.all.map field) {}

end Palette

end MailTemplate.Markup
