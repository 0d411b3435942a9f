import MailTemplate.Markup.JsonForm
import MailTemplate.Script.Value

/-! How a template is found and rendered. -/

namespace MailTemplate.Template

open Json

structure Options where
  /-- The directory that template paths are resolved in. -/
  root : Option String := none
  inlineStyles : Bool := true
  evaluateExpressions : Bool := true
  /-- The declarations for what takes the place of failed expressions. -/
  errorStyle : String := ""
  palette : Markup.Palette := {}
  /-- The variables of the expressions. -/
  globals : OrderedMembers := []
  sandbox : Script.Limits := {}
  deriving Inhabited

namespace Options

def withRoot (options : Options) (root : String) : Options :=
  { options with root := some root }

def withErrorStyle (options : Options) (style : String) : Options :=
  { options with errorStyle := style }

def withPalette (options : Options) (palette : Markup.Palette) : Options :=
  { options with palette := palette }

def withGlobal (options : Options) (name : String) (value : OrderedValue) :
    Options :=
  { options with globals := options.globals.insert name value }

def withoutInlining (options : Options) : Options :=
  { options with inlineStyles := false }

def withoutExpressions (options : Options) : Options :=
  { options with evaluateExpressions := false }

end Options

/-! ## JSON -/

def limitToJson : Option UInt64 → Value
  | none => .null
  | some n => .number (.natural n)

def limitsToJson (limits : Script.Limits) : Value :=
  .object [("time_limit_ms", limitToJson limits.timeLimitMs),
    ("memory_limit", limitToJson limits.memoryLimit),
    ("max_stack_size", limitToJson limits.maxStackSize)]

def decodeLimit (wanted : String) : Decoder (Option UInt64) := fun depth tree =>
  (Tree.decodeOption (Tree.decodeNat wanted UInt64.size) depth tree).map (·.map UInt64.ofNat)

def limitFields : List (RecordField Script.Limits) :=
  [.of "time_limit_ms" (decodeLimit "u64") fun n limits => { limits with timeLimitMs := n },
    .of "memory_limit" (decodeLimit "usize") fun n limits => { limits with memoryLimit := n },
    .of "max_stack_size" (decodeLimit "usize") fun n limits => { limits with maxStackSize := n }]

/-- A limit that is missing is none. -/
def decodeLimits : Decoder Script.Limits :=
  Tree.decodeRecord "struct SandboxLimits" limitFields {}

namespace Options

def rootToJson : Option String → Value
  | none => .null
  | some root => .string root

def toJson (options : Options) : Value :=
  .object [("root", rootToJson options.root), ("inline_styles", .bool options.inlineStyles),
    ("evaluate_expressions", .bool options.evaluateExpressions),
    ("error_style", .string options.errorStyle), ("palette", options.palette.toJson),
    ("globals", .object options.globals), ("sandbox", limitsToJson options.sandbox)]

def fields : List (RecordField Options) :=
  [.of "root" (Tree.decodeOption (Tree.decodeString "path string")) fun root options =>
      { options with root := root },
    .of "inline_styles" Tree.decodeBool fun b options => { options with inlineStyles := b },
    .of "evaluate_expressions" Tree.decodeBool fun b options =>
      { options with evaluateExpressions := b },
    .of "error_style" (Tree.decodeString "a string") fun style options =>
      { options with errorStyle := style },
    .of "palette" Markup.Palette.decode fun palette options =>
      { options with palette := palette },
    .of "globals" Tree.decodeObject fun globals options => { options with globals := globals },
    .of "sandbox" decodeLimits fun limits options => { options with sandbox := limits }]

/-- What is missing is as it is without a configuration. -/
def decode : Decoder Options :=
  Tree.decodeRecord "struct Options" fields {}

def ofText (text : String) : Except Json.Error Options :=
  Tree.decodeText decode text

end Options

end MailTemplate.Template
