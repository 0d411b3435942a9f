import MailTemplate.Markup.Span

/-! What the attribute tokens of one tag say about its classes and its style, found before
anything is changed. Positions are those of the whole document. -/

namespace MailTemplate.Inlining

open Markup

/-- The positions from `start` up to, but not including, `stop`. -/
structure Range where
  start : Nat
  stop : Nat
  deriving DecidableEq, Inhabited

namespace Range

def shift (range : Range) (distance : Nat) : Range :=
  ⟨range.start + distance, range.stop + distance⟩

def remove {α : Type} (range : Range) (items : List α) : List α :=
  items.take range.start ++ items.drop range.stop

/-- Removes ranges that are disjoint and in increasing order, the last one first. -/
def removeAll {α : Type} (ranges : List Range) (items : List α) : List α :=
  ranges.foldr remove items

end Range

/-- The tokens of one attribute: its name, and behind it an `=` and a value if there are any. -/
structure Group where
  /-- The position of the value. -/
  value : Option Nat
  /-- The position after the last token. -/
  stop : Nat
  deriving DecidableEq, Inhabited

def hasKindAt (tokens : List Token) (stop position : Nat) (kind : Kind) : Bool :=
  position < stop && tokens[position]?.any (·.kind == kind)

/-- The attribute whose name is at `name`, in a tag that ends at `stop`. -/
def groupAt (tokens : List Token) (stop name : Nat) : Group :=
  if !hasKindAt tokens stop (name + 1) .attributeEquals then ⟨none, name + 1⟩
  else if !hasKindAt tokens stop (name + 2) .attributeValue then ⟨none, name + 2⟩
  else ⟨some (name + 2), name + 3⟩

theorem lt_stop_groupAt (tokens : List Token) (stop name : Nat) :
    name < (groupAt tokens stop name).stop := by
  unfold groupAt
  split
  · simp
  · split <;> simp only <;> omega

/-- The first `style` attribute of a tag. -/
inductive StyleAttribute where
  /-- With a value, at this position. -/
  | withValue (position : Nat)
  /-- Without a value; `last` is the position of its last token. -/
  | bare (last : Nat) (hasEquals : Bool)
  deriving DecidableEq, Inhabited

structure TagAttributes where
  /-- The class names, in their order. -/
  classes : List String := []
  /-- The class attributes, each with the blanks that go with it, the last one first. -/
  classRanges : List Range := []
  style : Option StyleAttribute := none
  deriving DecidableEq, Inhabited

def blankCount (tokens : List Token) : Nat :=
  (tokens.takeWhile Token.isBlank).length

theorem blankCount_le (tokens : List Token) : blankCount tokens ≤ tokens.length :=
  (List.takeWhile_sublist _).length_le

/-- The ranges that end where the range from `start` on begins are joined to it: the ranges left
over, and the new start. -/
def joinAdjacent : List Range → Nat → List Range × Nat
  | [], start => ([], start)
  | range :: ranges, start =>
    if range.stop == start then joinAdjacent ranges range.start else (range :: ranges, start)

/-- A class attribute takes the blanks after it along. The last attribute of a tag takes the
blanks before it instead, together with class attributes that end where it begins. -/
def addClassRange (tokens : List Token) (span : TagSpan) (ranges : List Range)
    (name stop : Nat) : List Range :=
  if stop == span.stop then
    let (ranges, start) := joinAdjacent ranges name
    let floor := ranges.head?.elim (span.tag + 1) Range.stop
    ⟨start - blankCount (tokens.extract floor start).reverse, stop⟩ :: ranges
  else ⟨name, stop⟩ :: ranges

namespace TagAttributes

def withClass (found : TagAttributes) (tokens : List Token) (span : TagSpan) (name stop : Nat)
    (value : Option Nat) : TagAttributes where
  classes := found.classes ++ (value.bind (tokens[·]?)).elim [] (Text.words ·.text)
  classRanges := addClassRange tokens span found.classRanges name stop
  style := found.style

/-- Only the first `style` attribute counts. -/
def withStyle (found : TagAttributes) (name : Nat) (group : Group) : TagAttributes :=
  match found.style with
  | some _ => found
  | none =>
    let style := match group.value with
      | some value => .withValue value
      | none => .bare (group.stop - 1) (name + 1 < group.stop)
    { found with style := some style }

end TagAttributes

/-- The attributes from `position` on, added to what has been found before it. -/
def scanFrom (tokens : List Token) (span : TagSpan) (position : Nat) (found : TagAttributes) :
    TagAttributes :=
  if position < span.stop then
    match tokens[position]? with
    | none => found
    | some token =>
      if token.kind != .attributeName then scanFrom tokens span (position + 1) found
      else
        let group := groupAt tokens span.stop position
        have := lt_stop_groupAt tokens span.stop position
        if token.isNamed "class" then
          let stop := group.stop + blankCount (tokens.extract group.stop span.stop)
          scanFrom tokens span stop (found.withClass tokens span position stop group.value)
        else if token.isNamed "style" then
          scanFrom tokens span group.stop (found.withStyle position group)
        else scanFrom tokens span group.stop found
  else found
termination_by span.stop - position

def scanAttributes (tokens : List Token) (span : TagSpan) : TagAttributes :=
  let found := scanFrom tokens span (span.tag + 1) {}
  { found with classRanges := found.classRanges.reverse }

end MailTemplate.Inlining
