import Bindery.Text.Quoted

/- Text as UTF-8 bytes. Reading names the first byte sequence that is no character. -/
namespace Bindery.Text.Utf8

/-- Why bytes are not UTF-8. -/
inductive Cause where
  | invalidStart
  | invalidContinuation
  | unexpectedEnd
  deriving DecidableEq, Repr

/-- The faulty bytes are those from `start` up to `stop`; `lead` is the first of them. -/
structure Fault where
  cause : Cause
  start : Nat
  stop : Nat
  lead : Nat
  deriving DecidableEq, Repr

def Cause.message : Cause → String
  | .invalidStart => "invalid start byte"
  | .invalidContinuation => "invalid continuation byte"
  | .unexpectedEnd => "unexpected end of data"

def Fault.message (f : Fault) : String :=
  let place :=
    if f.stop = f.start + 1 then
      "byte 0x" ++ String.ofList (hexDigits 2 f.lead) ++ " in position " ++ toString f.start
    else "bytes in position " ++ toString f.start ++ "-" ++ toString (f.stop - 1)
  "'utf-8' codec can't decode " ++ place ++ ": " ++ f.cause.message

def encode (cs : List Char) : List UInt8 := cs.flatMap String.utf8EncodeChar

def ofString (s : String) : List UInt8 := encode s.toList

def isContinuation (b : Nat) : Bool := 0x80 ≤ b && b < 0xc0

/-- The bounds of the second byte, which shut out overlong forms, surrogates and code points
    beyond the last one. -/
def secondFits (lead b : Nat) : Bool :=
  isContinuation b &&
    (if lead = 0xe0 then 0xa0 ≤ b
     else if lead = 0xed then b < 0xa0
     else if lead = 0xf0 then 0x90 ≤ b
     else if lead = 0xf4 then b < 0x90
     else true)

/-- What the first bytes are: a character and its width, or a fault and its width. -/
inductive Unit where
  | char (c : Char) (width : Nat)
  | fault (cause : Cause) (width : Nat)
  deriving DecidableEq, Repr

def next (a : Nat) (rest : List Nat) : Unit :=
  if a < 0x80 then .char (Char.ofNat a) 1
  else if a < 0xc2 || 0xf4 < a then .fault .invalidStart 1
  else match rest with
    | [] => .fault .unexpectedEnd 1
    | b :: rest =>
      if !secondFits a b then .fault .invalidContinuation 1
      else if a < 0xe0 then .char (Char.ofNat ((a - 0xc0) * 64 + (b - 0x80))) 2
      else match rest with
        | [] => .fault .unexpectedEnd 2
        | c :: rest =>
          if !isContinuation c then .fault .invalidContinuation 2
          else if a < 0xf0 then
            .char (Char.ofNat ((a - 0xe0) * 4096 + (b - 0x80) * 64 + (c - 0x80))) 3
          else match rest with
            | [] => .fault .unexpectedEnd 3
            | d :: _ =>
              if !isContinuation d then .fault .invalidContinuation 3
              else .char (Char.ofNat
                ((a - 0xf0) * 262144 + (b - 0x80) * 4096 + (c - 0x80) * 64 + (d - 0x80))) 4

/-- Reads from byte number `pos` on; `skip` bytes belong to the character before. -/
def decodeFrom (pos skip : Nat) : List UInt8 → Except Fault (List Char)
  | [] => .ok []
  | a :: rest =>
    match skip with
    | skip + 1 => decodeFrom (pos + 1) skip rest
    | 0 =>
      match next a.toNat ((rest.take 3).map UInt8.toNat) with
      | .fault cause width => .error ⟨cause, pos, pos + width, a.toNat⟩
      | .char c width => do
        let cs ← decodeFrom (pos + 1) (width - 1) rest
        return c :: cs

def decode (bs : List UInt8) : Except Fault (List Char) := decodeFrom 0 0 bs

end Bindery.Text.Utf8
