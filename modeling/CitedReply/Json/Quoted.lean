import CitedReply.Json.Basic
import CitedReply.Text.Hex

/-!
# CitedReply.Json.Quoted

JSON strings: how a text is written between quotes, how it is read back, and how a string is passed
over when nobody asks for what it says. Reading is a machine that takes one character at a time.

* `unquote` is strict: surrogates come in pairs, control characters are escaped.
* `skipQuoted` only looks at the form of the escapes.
-/

namespace CitedReply
namespace Json

/-- The letter that stands for a character after a backslash. -/
def shortEscape? (c : Char) : Option Char :=
  if c = '"' then some '"'
  else if c = '\\' then some '\\'
  else if c = '\x08' then some 'b'
  else if c = '\x0c' then some 'f'
  else if c = '\n' then some 'n'
  else if c = '\r' then some 'r'
  else if c = '\t' then some 't'
  else none

/-- Control characters without a letter of their own are written in hexadecimal. -/
def quoteChar (c : Char) : Text :=
  match shortEscape? c with
  | some e => ['\\', e]
  | none =>
    if c.toNat < 0x20 then
      ['\\', 'u', '0', '0', Text.hexDigit (c.toNat / 16), Text.hexDigit (c.toNat % 16)]
    else [c]

def quote (t : Text) : Text := '"' :: (t.flatMap quoteChar ++ ['"'])

/-- The character that a letter after a backslash stands for. -/
def unescape? (c : Char) : Option Char :=
  if c = '"' then some '"'
  else if c = '\\' then some '\\'
  else if c = '/' then some '/'
  else if c = 'b' then some '\x08'
  else if c = 'f' then some '\x0c'
  else if c = 'n' then some '\n'
  else if c = 'r' then some '\r'
  else if c = 't' then some '\t'
  else none

/-- Where the reader of a string stands. A leading surrogate that waits for its other half is kept
as `lead`. -/
inductive Place where
  | plain
  | escape
  | hex (left value : Nat) (lead : Option Nat)
  | leadRead (lead : Nat)
  | leadEscape (lead : Nat)

/-- Fewer than four bytes are left, too few for the digits of a hexadecimal escape. -/
def lacksHex (t : Text) : Bool := Text.byteSize (t.take 4) < 4

def isLead (n : Nat) : Bool := 0xD800 ≤ n && n ≤ 0xDBFF

def isTrail (n : Nat) : Bool := 0xDC00 ≤ n && n ≤ 0xDFFF

/-- Reads on inside a string up to the closing quote; `read` holds what it says, backwards. -/
def unquoteFrom (read : Text) : Place → Text → Result Text
  | _, [] => .error .truncated
  | .plain, c :: r =>
    if c = '"' then .ok (read.reverse, r)
    else if c = '\\' then unquoteFrom read .escape r
    else if c.toNat < 0x20 then .error .malformed
    else unquoteFrom (c :: read) .plain r
  | .escape, c :: r =>
    if c = 'u' then
      if lacksHex r then .error .truncated else unquoteFrom read (.hex 4 0 none) r
    else
      match unescape? c with
      | some d => unquoteFrom (d :: read) .plain r
      | none => .error .malformed
  | .hex left value lead, c :: r =>
    match Text.hexValue? c with
    | none => .error .malformed
    | some d =>
      let n := 16 * value + d
      if left ≤ 1 then
        match lead with
        | none =>
          if isTrail n then .error .malformed
          else if isLead n then unquoteFrom read (.leadRead n) r
          else unquoteFrom (Char.ofNat n :: read) .plain r
        | some l =>
          if isTrail n then
            unquoteFrom (Char.ofNat (0x10000 + 1024 * (l - 0xD800) + (n - 0xDC00)) :: read) .plain r
          else .error .malformed
      else unquoteFrom read (.hex (left - 1) n lead) r
  | .leadRead l, c :: r =>
    if c = '\\' then unquoteFrom read (.leadEscape l) r else .error .malformed
  | .leadEscape l, c :: r =>
    if c = 'u' then
      if lacksHex r then .error .truncated else unquoteFrom read (.hex 4 0 (some l)) r
    else .error .malformed

def unquote (t : Text) : Result Text := unquoteFrom [] .plain t

inductive SkipPlace where
  | plain
  | escape
  | hex (left : Nat)

def skipQuotedFrom : SkipPlace → Text → Except Fault Text
  | _, [] => .error .truncated
  | .plain, c :: r =>
    if c = '"' then .ok r
    else if c = '\\' then skipQuotedFrom .escape r
    else if c.toNat < 0x20 then .error .malformed
    else skipQuotedFrom .plain r
  | .escape, c :: r =>
    if c = 'u' then
      if lacksHex r then .error .truncated else skipQuotedFrom (.hex 4) r
    else if (unescape? c).isSome then skipQuotedFrom .plain r
    else .error .malformed
  | .hex left, c :: r =>
    if (Text.hexValue? c).isSome then
      skipQuotedFrom (if left ≤ 1 then .plain else .hex (left - 1)) r
    else .error .malformed

def skipQuoted (t : Text) : Except Fault Text := skipQuotedFrom .plain t

end Json
end CitedReply
