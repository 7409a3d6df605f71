import CitedReply.Text.Utf8
import CitedReply.Url.HostName
import CitedReply.Url.Ipv4
import CitedReply.Url.Ipv6

/-!
# CitedReply.Url.Host

The host of a URL, and its text.
-/

namespace CitedReply

/-- A `literal` host belongs to a scheme that gives it no meaning; its text is kept. -/
inductive Host where
  | named (ascii : Text)
  | ipv4 (address : Nat)
  | ipv6 (groups : List Nat)
  | literal (text : Text)

namespace Host

def text : Host → Text
  | .named t => t
  | .ipv4 a => Ipv4.text a
  | .ipv6 gs => '[' :: (Ipv6.text gs ++ [']'])
  | .literal t => t

/-- The bytes of a text in which a percent sign with two hexadecimal digits stands for one byte. -/
def percentDecode : Text → Bytes
  | '%' :: x :: y :: r =>
    match Text.hexValue? x, Text.hexValue? y with
    | some m, some n => UInt8.ofNat (16 * m + n) :: percentDecode r
    | _, _ => String.utf8EncodeChar '%' ++ percentDecode (x :: y :: r)
  | c :: r => String.utf8EncodeChar c ++ percentDecode r
  | [] => []

def percentEncode (b : UInt8) : Text :=
  let upper (n : Nat) := (Text.hexDigit n).toUpper
  ['%', upper (b.toNat / 16), upper (b.toNat % 16)]

def bracketed? (t : Text) : Option Text :=
  match t with
  | '[' :: r => Text.dropSuffix? [']'] r
  | _ => none

/-- The host in a URL whose scheme knows host names. -/
def ofText? (t : Text) : Option Host :=
  if t.head? = some '[' then ((bracketed? t).bind Ipv6.address?).map .ipv6
  else
    match HostName.toAscii? (Utf8.decodeLossy (percentDecode t)) with
    | none => none
    | some [] => none
    | some name =>
      if Ipv4.endsInNumber name then (Ipv4.address? name).map .ipv4 else some (.named name)

/-- Characters that no host may hold, whatever the scheme. -/
def isForbidden (c : Char) : Bool := "\x00\t\n\r #/:<>?@[\\]^|".toList.contains c

/-- Only controls and what is not ASCII are written in percent signs. -/
def literalChar (c : Char) : Text :=
  if c.toNat < 0x20 ∨ 0x7F ≤ c.toNat then (String.utf8EncodeChar c).flatMap percentEncode else [c]

/-- The host in a URL of any other scheme. -/
def ofLiteral? (t : Text) : Option Host :=
  if t.head? = some '[' then ((bracketed? t).bind Ipv6.address?).map .ipv6
  else if t.any isForbidden then none
  else if t = [] then none
  else some (.literal (t.flatMap literalChar))

end Host
end CitedReply
