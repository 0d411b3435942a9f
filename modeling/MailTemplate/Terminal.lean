/-! Text for a reader that is no terminal: without the control sequences, which a terminal acts on,
and without other controls. A tab, a line break or a form feed stands for itself also within a
sequence where a terminal would act on it, and the text goes on after it as if the sequence had
ended; only the next control shows that it has not. -/

namespace MailTemplate.Terminal

/-- Where in a control sequence a character stands. The first part of a name is the kind of the
sequence, `csi` for one that ends with its first letter and `dcs`, `osc` and `message` for those
around a string. -/
inductive State where
  | ground
  | escape
  | escapeIntermediate
  | csiEntry
  | csiParameter
  | csiIntermediate
  | csiIgnored
  | dcsEntry
  | dcsParameter
  | dcsIntermediate
  | dcsString
  | dcsIgnored
  | osc
  | message
  deriving DecidableEq, Inhabited

/-- The code of the control that ends a string, as a byte. -/
def stringTerminator : UInt8 := 0x9C

/-- Whether a character ends a string, which is read byte by byte. -/
def endsString (c : Char) : Bool :=
  (String.utf8EncodeChar c).contains stringTerminator

namespace State

def afterEscape (c : Char) : State :=
  match c with
  | '[' => csiEntry
  | ']' => osc
  | 'P' => dcsEntry
  | 'X' | '^' | '_' => message
  | c =>
    if ' ' ≤ c && c ≤ '/' then escapeIntermediate
    else if '0' ≤ c && c ≤ '~' then ground
    else escape

def inParameters (state parameter intermediate ignored final : State) (c : Char) : State :=
  if ' ' ≤ c && c ≤ '/' then intermediate
  else if '0' ≤ c && c ≤ ';' then parameter
  else if '<' ≤ c && c ≤ '?' then ignored
  else if '@' ≤ c && c ≤ '~' then final
  else state

def next (state : State) (c : Char) : State :=
  if c == '\x1b' then escape
  else if c == '\x18' || c == '\x1a' then ground
  else match state with
    | ground => ground
    | escape => afterEscape c
    | escapeIntermediate => if '0' ≤ c && c ≤ '~' then ground else state
    | csiEntry => inParameters state csiParameter csiIntermediate csiParameter ground c
    | csiParameter => inParameters state csiParameter csiIntermediate csiIgnored ground c
    | csiIntermediate => inParameters state csiIgnored csiIntermediate csiIgnored ground c
    | csiIgnored => if '@' ≤ c && c ≤ '~' then ground else state
    | dcsEntry => inParameters state dcsParameter dcsIntermediate dcsParameter dcsString c
    | dcsParameter => inParameters state dcsParameter dcsIntermediate dcsIgnored dcsString c
    | dcsIntermediate => inParameters state dcsIgnored dcsIntermediate dcsIgnored dcsString c
    | dcsString | dcsIgnored | message => if endsString c then ground else state
    | osc => if c == '\x07' then ground else state

def actsOnControls : State → Bool
  | ground | escape | escapeIntermediate => true
  | csiEntry | csiParameter | csiIntermediate | csiIgnored => true
  | _ => false

end State

def isAscii (c : Char) : Bool :=
  c.toNat < 0x80

def isSpacing (c : Char) : Bool :=
  c == '\t' || c == '\n' || c == '\x0c' || c == '\r'

def isGraphic (c : Char) : Bool :=
  (' ' ≤ c && c ≤ '~') || !isAscii c

/-- Whether the text goes on with a character after a sequence or another control. -/
def resumes (state : State) (c : Char) : Bool :=
  (state == .ground && isGraphic c) || (state.actsOnControls && isSpacing c)

/-- The characters that are shown, from a state and either within text or not. -/
def shown (inText : Bool) (state : State) : List Char → List Char
  | [] => []
  | c :: cs =>
    if (inText && (isGraphic c || isSpacing c)) || resumes state c then
      c :: shown true (if isAscii c then state else .ground) cs
    else shown false (state.next c) cs

def plain (text : String) : String :=
  String.ofList (shown false .ground text.toList)

theorem shown_eq_self {cs : List Char} (h : ∀ c ∈ cs, isGraphic c || isSpacing c) (inText : Bool) :
    shown inText .ground cs = cs := by
  induction cs generalizing inText with
  | nil => rfl
  | cons c cs ih =>
    have hc := h c (by simp)
    have hr : resumes .ground c = true := by simpa [resumes, State.actsOnControls] using hc
    simp only [shown, hr, Bool.or_true, if_true, ite_self]
    rw [ih (fun d hd => h d (by simp [hd]))]

/-- Text without controls is shown as it is. -/
theorem plain_eq_self {text : String} (h : ∀ c ∈ text.toList, isGraphic c || isSpacing c) :
    plain text = text := by
  rw [plain, shown_eq_self h, String.ofList_toList]

end MailTemplate.Terminal
