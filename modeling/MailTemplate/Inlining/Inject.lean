import MailTemplate.Css.Cascade
import MailTemplate.Inlining.Attributes
import MailTemplate.Inlining.StyleBlocks
import MailTemplate.Log

/-! Moving the declarations of a stylesheet into the `style` attributes of a document, and
taking its `class` attributes away. The document is changed in place, by position, from its last
tag to its first one, so that the positions of the tags that are still to come stay true. -/

namespace MailTemplate.Inlining

open Markup

def insertAt {α : Type} (position : Nat) (added items : List α) : List α :=
  items.take position ++ added ++ items.drop position

def withDeclarations (declarations : String) (token : Token) : Token :=
  { token with text := declarations ++ token.text }

/-- The tag name with a blank at its end, which keeps it apart from an attribute. -/
def separated (tag : Token) : Token :=
  if tag.text.toList.getLast?.any Text.isBlank then tag else { tag with text := tag.text ++ " " }

def styleGroup (declarations : String) : List Token :=
  [⟨.attributeName, "style"⟩, ⟨.attributeEquals, "="⟩, ⟨.attributeValue, declarations⟩,
    ⟨.tagContinuation, " "⟩]

def completion (hasEquals : Bool) (declarations : String) : List Token :=
  if hasEquals then [⟨.attributeValue, declarations⟩]
  else [⟨.attributeEquals, "="⟩, ⟨.attributeValue, declarations⟩]

/-- The class ranges after `count` tokens have been put behind position `last`. -/
def shiftAfter (last count : Nat) (ranges : List Range) : List Range :=
  ranges.map fun range => if last < range.start then range.shift count else range

/-- The declarations go in front of those that the tag has; a tag without a `style` attribute
gets one as its first attribute. -/
def restyle (tokens : List Token) (tag : Nat) (found : TagAttributes) (declarations : String) :
    List Token :=
  match found.style with
  | some (.withValue position) =>
    Range.removeAll found.classRanges (tokens.modify position (withDeclarations declarations))
  | some (.bare last hasEquals) =>
    if declarations.isEmpty then Range.removeAll found.classRanges tokens
    else
      let added := completion hasEquals declarations
      Range.removeAll (shiftAfter last added.length found.classRanges)
        (insertAt (last + 1) added tokens)
  | none =>
    let tokens := Range.removeAll found.classRanges tokens
    if declarations.isEmpty then tokens
    else insertAt (tag + 1) (styleGroup declarations) (tokens.modify tag separated)

/-- Only an opening tag has declarations. -/
def declarationsOfTag (sheet : Css.Stylesheet) (tag : Token) (classes : List String) : String :=
  if tag.kind == .tagOpen then Css.declarationsFor sheet (Text.trim tag.text) classes else ""

def injectSpan (sheet : Css.Stylesheet) (span : TagSpan) (tokens : List Token) : List Token :=
  let found := scanAttributes tokens span
  let declarations := tokens[span.tag]?.elim "" (declarationsOfTag sheet · found.classes)
  restyle tokens span.tag found declarations

def inject (sheet : Css.Stylesheet) (tokens : List Token) : List Token :=
  (tagSpans tokens).foldr (injectSpan sheet) tokens

def inlineStyles (tokens : List Token) : List Token :=
  let collected := collectStyleBlocks tokens
  inject (.parse collected.css) collected.tokens

def unterminatedRecord : Log.Record where
  level := .warn
  source := .styleBlocks
  message := "unterminated <style> block; dropped the rest of the document"

/-- Leaves a record if the last `<style>` block is never closed. -/
def reportUnterminated {m : Type → Type} [Monad m] [MonadLog m] (tokens : List Token) : m Unit :=
  if (collectStyleBlocks tokens).unterminated then record unterminatedRecord else return ()

end MailTemplate.Inlining
