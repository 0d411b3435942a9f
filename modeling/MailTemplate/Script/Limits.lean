/-! What programs may use: time, memory and the stack. Reading a program takes room on the stack
for all that is nested, and running it for all calls that have not come back. Memory and the stack
are counted in bytes. -/

namespace MailTemplate.Script

/-- What programs may use; there is no limit where none is given. -/
structure Limits where
  timeLimitMs : Option UInt64 := none
  memoryLimit : Option UInt64 := none
  maxStackSize : Option UInt64 := none
  deriving DecidableEq, Inhabited

namespace Limits

def usualStack : Nat := 262144

def wholeStack : Nat := 8388608

def addresses : UInt64 := 0x800000000000

/-- The bytes of the stack. A limit of 0 lifts the limit; one that is larger than any address leaves
no stack at all. -/
def stackSize (limits : Limits) : Nat :=
  match limits.maxStackSize with
  | none => usualStack
  | some size =>
    if size == 0 then wholeStack
    else if size < addresses then min size.toNat wholeStack
    else 0

def callSize : Nat := 1400

def maxCalls (limits : Limits) : Nat :=
  limits.stackSize / callSize

/-- The bytes for taking over the value of a variable. -/
def variableSize : Nat := 1900

def sandboxMemory : Nat := 16000

def globalsMemory : Nat := 80000

def isTimeless (limits : Limits) : Bool :=
  limits.timeLimitMs == some 0

end Limits

end MailTemplate.Script
