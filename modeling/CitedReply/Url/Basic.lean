import CitedReply.Url.Host

/-!
# CitedReply.Url.Basic

The host of a URL, by the rules browsers follow. `Url.host?` gives it where there is one;
`Url.domain` is what a reader is shown in its place.
-/

namespace CitedReply
namespace Url

/-- How a scheme has its URLs written. -/
inductive Kind where
  | web
  | file
  | other
  deriving DecidableEq

def webSchemes : List Text := ["http", "https", "ws", "wss", "ftp"].map String.toList

def kindOf (scheme : Text) : Kind :=
  if webSchemes.contains scheme then .web
  else if scheme = "file".toList then .file
  else .other

/-- Without controls and spaces around it, and without tabs and line breaks anywhere. -/
def tidy (t : Text) : Text :=
  let around (c : Char) := c.toNat ≤ 0x20
  let inner := ((t.dropWhile around).reverse.dropWhile around).reverse
  inner.filter fun c => c ≠ '\t' ∧ c ≠ '\n' ∧ c ≠ '\r'

def isSchemeChar (c : Char) : Bool := c.isAlphanum || c = '+' || c = '-' || c = '.'

def scheme? (t : Text) : Option (Text × Text) :=
  match t.takeWhile isSchemeChar, t.dropWhile isSchemeChar with
  | c :: s, ':' :: r => if c.isAlpha then some ((c :: s).map Char.toLower, r) else none
  | _, _ => none

def isSlash (c : Char) : Bool := c = '/' || c = '\\'

/-- The character ends the part of a URL that names the host. -/
def endsAuthority (kind : Kind) (c : Char) : Bool :=
  c = '/' || c = '?' || c = '#' || (kind ≠ .other && c = '\\')

/-- What a colon after the host brings: digits that make at most 65535, and then the path or
nothing. -/
def numberIsSound (t : Text) : Bool :=
  Text.natOfDigits (t.takeWhile Char.isDigit) ≤ 65535 &&
    match t.dropWhile Char.isDigit with
    | [] => true
    | c :: _ => c = '/' || c = '\\' || c = '?' || c = '#'

/-- Where the text of a host ends: at a colon outside brackets, or at the end of the authority. -/
def hostLength (kind : Kind) (inside : Bool) : Text → Nat
  | [] => 0
  | c :: r =>
    if (c = ':' ∧ !inside) ∨ endsAuthority kind c then 0
    else
      let inside := if c = '[' then true else if c = ']' then false else inside
      1 + hostLength kind inside r

/-- What follows the last at sign of the authority, and what stands before that sign. -/
def splitUser (kind : Kind) (t : Text) : Option Text × Text :=
  let authority := t.takeWhile (!endsAuthority kind ·)
  match Text.throughLast? '@' authority with
  | some u => (some u.dropLast, t.drop u.length)
  | none => (none, t)

/-- The host of what follows the slashes. An empty host is no host. -/
def authorityHost? (kind : Kind) (t : Text) : Option Host := do
  let (_, rest) := splitUser kind t
  let n := hostLength kind false rest
  let host ← if kind = .other then Host.ofLiteral? (rest.take n) else Host.ofText? (rest.take n)
  match rest.drop n with
  | ':' :: number => if numberIsSound number then some host else none
  | _ => some host

/-- A letter with a colon or a bar, which stands for a disk. -/
def isDrive : Text → Bool
  | [c, d] => c.isAlpha && (d = ':' || d = '|')
  | _ => false

def segments (t : Text) : List Text :=
  let path := (t.takeWhile fun c => c ≠ '?' ∧ c ≠ '#').drop 1
  Text.fields '/' (path.map fun c => if c = '\\' then '/' else c)

def isDot (t : Text) : Bool := [".".toList, "%2e".toList].contains (t.map Char.toLower)

def isDotDot (t : Text) : Bool :=
  ["..".toList, ".%2e".toList, "%2e.".toList, "%2e%2e".toList].contains (t.map Char.toLower)

/-- A path names a disk if a disk is its first segment, once dots are followed. `kept` counts the
segments before. -/
def namesDrive (kept : Nat) : List Text → Bool
  | [] => false
  | s :: ss =>
    if isDotDot s then namesDrive (kept - 1) ss
    else if isDot s then namesDrive kept ss
    else (kept = 0 && isDrive s) || namesDrive (kept + 1) ss

/-- The host of a file, which is none for this machine and for a path on a disk. -/
def fileHost? (t : Text) : Option Host := do
  match t with
  | a :: b :: r =>
    if isSlash a ∧ isSlash b then
      let name := r.takeWhile fun c => !isSlash c && c ≠ '?' && c ≠ '#'
      if name = [] ∨ isDrive name then none
      let host ← Host.ofText? name
      if host.text = "localhost".toList ∨ namesDrive 0 (segments (r.drop name.length)) then none
      else some host
    else none
  | _ => none

def host? (url : Text) : Option Host := do
  let (scheme, rest) ← scheme? (tidy url)
  match kindOf scheme with
  | .web => authorityHost? .web (rest.dropWhile isSlash)
  | .file => fileHost? rest
  | .other =>
    match rest with
    | '/' :: '/' :: r => authorityHost? .other r
    | _ => none

def www : Text := "www.".toList

/-- The host without `www.`, or the whole text where there is no host. -/
def domain (url : Text) : Text :=
  match host? url with
  | some host => (Text.dropPrefix? www host.text).getD host.text
  | none => url

/-- The text starts like the address of a page on the web. -/
def isExternal (url : Text) : Bool :=
  Text.startsWith "http://".toList url || Text.startsWith "https://".toList url

end Url
end CitedReply
