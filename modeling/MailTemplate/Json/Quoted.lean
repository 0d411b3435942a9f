import MailTemplate.Json.Error

/-! Strings in JSON. A string whose text is not needed is checked less strictly: any four
hexadecimal digits do for it, also those of half a character. -/

namespace MailTemplate.Json

/-- A string as it is read after its opening quote. -/
structure Quoted where
  /-- The text of the string. -/
  text : Except Fault String
  /-- What is wrong with the string even where its text is not needed. -/
  fault : Option Fault

namespace Quoted

def hexDigit? (c : Char) : Option Nat :=
  if c.isDigit then some (c.toNat - '0'.toNat)
  else if 'a' ≤ c && c ≤ 'f' then some (c.toNat - 'a'.toNat + 10)
  else if 'A' ≤ c && c ≤ 'F' then some (c.toNat - 'A'.toNat + 10)
  else none

/-- The code in the next four bytes, all of which have to be there. -/
def hexCode (cs : List Char) : Except Fault Nat :=
  if (String.ofList (cs.take 4)).utf8ByteSize < 4 then .error .endInString
  else match cs with
    | a :: b :: c :: d :: _ =>
      match hexDigit? a, hexDigit? b, hexDigit? c, hexDigit? d with
      | some a, some b, some c, some d => .ok (((a * 16 + b) * 16 + c) * 16 + d)
      | _, _, _, _ => .error .invalidEscape
    | _ => .error .invalidEscape

/-- The character that a letter after a backslash stands for. -/
def escaped? : Char → Option Char
  | '"' => some '"'
  | '\\' => some '\\'
  | '/' => some '/'
  | 'b' => some '\x08'
  | 'f' => some '\x0c'
  | 'n' => some '\n'
  | 'r' => some '\r'
  | 't' => some '\t'
  | _ => none

def isLeading (code : Nat) : Bool := 0xD800 ≤ code && code ≤ 0xDBFF

def isTrailing (code : Nat) : Bool := 0xDC00 ≤ code && code ≤ 0xDFFF

/-- The second half of a character in two codes, the first of which is `leading`. -/
def pairWith (leading : Nat) (cs : List Char) : Except Fault (Char × List Char) :=
  match cs with
  | [] => .error .endInString
  | ['\\'] => .error .endInString
  | '\\' :: 'u' :: cs => do
    let trailing ← hexCode cs
    if isTrailing trailing then
      return (Char.ofNat (0x10000 + (leading - 0xD800) * 0x400 + (trailing - 0xDC00)), cs.drop 4)
    else throw .loneSurrogate
  | _ => .error .unfinishedSurrogates

/-- The character that the codes after `\u` stand for. -/
def codeChar (cs : List Char) : Except Fault (Char × List Char) := do
  let code ← hexCode cs
  if isTrailing code then throw .loneSurrogate
  else if isLeading code then pairWith code (cs.drop 4)
  else return (Char.ofNat code, cs.drop 4)

theorem length_le_of_pairWith {leading : Nat} {cs rest : List Char} {c : Char}
    (h : pairWith leading cs = .ok (c, rest)) : rest.length ≤ cs.length := by
  unfold pairWith at h
  split at h
  · contradiction
  · contradiction
  · next cs =>
    cases hc : hexCode cs with
    | error e => simp [hc, bind, Except.bind] at h
    | ok trailing =>
      simp only [hc, bind, Except.bind] at h
      split at h
      · simp only [pure, Except.pure, Except.ok.injEq, Prod.mk.injEq] at h
        simp only [← h.2, List.length_drop, List.length_cons]
        omega
      · contradiction
  · contradiction

theorem length_le_of_codeChar {cs rest : List Char} {c : Char}
    (h : codeChar cs = .ok (c, rest)) : rest.length ≤ cs.length := by
  unfold codeChar at h
  cases hc : hexCode cs with
  | error e => simp [hc, bind, Except.bind] at h
  | ok code =>
    simp only [hc, bind, Except.bind] at h
    split at h
    · contradiction
    · split at h
      · exact Nat.le_trans (length_le_of_pairWith h) (by simp)
      · simp only [pure, Except.pure, Except.ok.injEq, Prod.mk.injEq] at h
        simp [← h.2]

/-- The text up to the closing quote. -/
def decode : List Char → Except Fault (List Char)
  | [] => .error .endInString
  | '"' :: _ => .ok []
  | ['\\'] => .error .endInString
  | '\\' :: 'u' :: cs =>
    match h : codeChar cs with
    | .error fault => .error fault
    | .ok (c, rest) =>
      have := length_le_of_codeChar h
      (decode rest).map (c :: ·)
  | '\\' :: c :: cs =>
    match escaped? c with
    | some c => (decode cs).map (c :: ·)
    | none => .error .invalidEscape
  | c :: cs => if c < ' ' then .error .controlCharacter else (decode cs).map (c :: ·)
termination_by cs => cs.length

/-- The text after the closing quote. -/
def pass : List Char → Except Fault (List Char)
  | [] => .error .endInString
  | '"' :: cs => .ok cs
  | ['\\'] => .error .endInString
  | '\\' :: 'u' :: cs =>
    match hexCode cs with
    | .error fault => .error fault
    | .ok _ => pass (cs.drop 4)
  | '\\' :: c :: cs => if (escaped? c).isSome then pass cs else .error .invalidEscape
  | c :: cs => if c < ' ' then .error .controlCharacter else pass cs
termination_by cs => cs.length

def take (cs : List Char) : Quoted × List Char :=
  let text := (decode cs).map String.ofList
  match pass cs with
  | .ok rest => (⟨text, none⟩, rest)
  | .error fault => (⟨text, some fault⟩, [])

def encodeChar (c : Char) : List Char :=
  match c with
  | '"' => ['\\', '"']
  | '\\' => ['\\', '\\']
  | '\x08' => ['\\', 'b']
  | '\x0c' => ['\\', 'f']
  | '\n' => ['\\', 'n']
  | '\r' => ['\\', 'r']
  | '\t' => ['\\', 't']
  | c =>
    if c < ' ' then
      ['\\', 'u', '0', '0', Nat.digitChar (c.toNat / 16), Nat.digitChar (c.toNat % 16)]
    else [c]

def encode (text : String) : List Char :=
  '"' :: text.toList.flatMap encodeChar ++ ['"']

end Quoted

end MailTemplate.Json
