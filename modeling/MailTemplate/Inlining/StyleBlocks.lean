import MailTemplate.Markup.Token

/-! Taking the `<style>` blocks out of a document. A block runs from an opening `style` tag to
the next closing one, the attributes of both included; one that is never closed runs to the end
of the document. -/

namespace MailTemplate.Inlining

open Markup

def opensBlock (token : Token) : Bool :=
  token.kind == .tagOpen && token.isNamed "style"

def closesBlock (token : Token) : Bool :=
  token.kind == .tagClose && token.isNamed "style"

/-- Where a token stands. -/
inductive Position where
  | outside
  | inBlock
  /-- In the tag that closes a block. -/
  | inClosingTag
  deriving DecidableEq, Inhabited

structure Collected where
  /-- The document without the blocks. -/
  tokens : List Token
  /-- The contents of the blocks. -/
  css : String
  /-- Whether the last block is never closed. -/
  unterminated : Bool
  deriving DecidableEq, Inhabited

namespace Collected

def withToken (token : Token) (collected : Collected) : Collected :=
  { collected with tokens := token :: collected.tokens }

/-- Only content counts; the tags and attributes in a block are dropped. -/
def withCss (token : Token) (collected : Collected) : Collected :=
  if token.kind == .content then { collected with css := token.text ++ collected.css }
  else collected

end Collected

def collectFrom (position : Position) : List Token → Collected
  | [] => ⟨[], "", position == .inBlock⟩
  | token :: tokens =>
    if opensBlock token then collectFrom .inBlock tokens
    else match position with
      | .inBlock =>
        if closesBlock token then collectFrom .inClosingTag tokens
        else (collectFrom .inBlock tokens).withCss token
      | .inClosingTag =>
        if token.isAttribute then collectFrom .inClosingTag tokens
        else (collectFrom .outside tokens).withToken token
      | .outside => (collectFrom .outside tokens).withToken token

def collectStyleBlocks (tokens : List Token) : Collected :=
  collectFrom .outside tokens

end MailTemplate.Inlining
