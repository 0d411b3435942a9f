import MailTemplate.Text.Blank
import MailTemplate.Text.Case

/-! A document is a flat list of tokens. A tag is a tag token with the attribute tokens that
follow it; nesting is left to the order of the tags, and no tree is built. -/

namespace MailTemplate.Markup

inductive Kind where
  | tagOpen
  | tagClose
  | content
  | tagContinuation
  | attributeName
  | attributeEquals
  | attributeValue
  deriving DecidableEq, Inhabited

namespace Kind

def all : List Kind :=
  [tagOpen, tagClose, content, tagContinuation, attributeName, attributeEquals, attributeValue]

theorem mem_all (kind : Kind) : kind ∈ all := by
  cases kind <;> decide

/-- The name of a kind in JSON. -/
def label : Kind → String
  | tagOpen => "tagOpen"
  | tagClose => "tagClose"
  | content => "content"
  | tagContinuation => "tagContinuation"
  | attributeName => "attributeName"
  | attributeEquals => "attributeEquals"
  | attributeValue => "attributeValue"

def ofLabel? (label : String) : Option Kind :=
  all.find? (·.label == label)

theorem ofLabel?_label (kind : Kind) : ofLabel? kind.label = some kind := by
  cases kind <;> decide

def isTag : Kind → Bool
  | tagOpen | tagClose => true
  | _ => false

/-- The kinds that stand inside a tag, after its name. -/
def isAttribute : Kind → Bool
  | tagOpen | tagClose | content => false
  | tagContinuation | attributeName | attributeEquals | attributeValue => true

theorem isAttribute_of_isTag {kind : Kind} (h : kind.isTag = true) :
    kind.isAttribute = false := by
  cases kind <;> simp_all [isTag, isAttribute]

end Kind

/-- `text` is what the document shows of the token, without the punctuation of tags and values. A
tag name keeps the blank that ended it. -/
structure Token where
  kind : Kind
  text : String
  deriving DecidableEq, Inhabited

namespace Token

def isTag (token : Token) : Bool :=
  token.kind.isTag

def isAttribute (token : Token) : Bool :=
  token.kind.isAttribute

/-- The trimmed text in lower case; only `A` to `Z` have one here. -/
def name (token : Token) : String :=
  Text.lowercaseAscii (Text.trim token.text)

def isNamed (token : Token) (name : String) : Bool :=
  token.name == Text.lowercaseAscii name

/-- White space between the parts of a tag. -/
def isBlank (token : Token) : Bool :=
  token.kind == .tagContinuation && (Text.trim token.text).isEmpty

end Token

end MailTemplate.Markup
