import PushRegistry.Number.Digits
import PushRegistry.Number.Numeral
import PushRegistry.Service.Host

/-!
# Addresses

An address is written in a normal form: scheme and host in lower case, without the usual socket
number of its scheme, without the steps `.` and `..` in its path, and with escapes for the
characters that may not stand for themselves. A text with control characters, or with a host, a
socket number or a path that is not in order, is no address. Neither is one that is too long, which
it may become when it is written in normal form or joined with another one.

## Main definitions

* `Address`: the parts of an address.
* `Address.ofText?`: an address from a text.
* `Address.target`: what a request is sent to.
* `Address.text`: an address as a text.
* `Address.resolve?`: the address that another one points to.
-/

namespace PushRegistry

/-- The parts of an address, in normal form. -/
structure Address where
  scheme : List Char
  userInfo : List Char
  host : List Char
  socket : Option Int
  path : List Char
  query : Option (List Char)
  fragment : Option (List Char)
  deriving DecidableEq, Repr

namespace Address

/-! ### Parts of a text -/

/-- What is before and behind the first occurrence of a character; without one, all is before. -/
def cutFirst (mark : Char) (cs : List Char) : List Char × Option (List Char) :=
  match cs.dropWhile (· != mark) with
  | [] => (cs, none)
  | _ :: r => (cs.takeWhile (· != mark), some r)

/-- What is before and behind the last occurrence of a character; without one, all is behind. -/
def cutLast (mark : Char) (cs : List Char) : Option (List Char) × List Char :=
  match cutFirst mark cs.reverse with
  | (r, none) => (none, r.reverse)
  | (r, some l) => (some l.reverse, r.reverse)

/-- The scheme, if the text begins with one and a colon, and the rest. -/
def cutScheme (cs : List Char) : List Char × List Char :=
  let word := cs.takeWhile fun c => c.isAlphanum || c = '+' || c = '.' || c = '-'
  match cs.drop word.length with
  | ':' :: r => if word.head?.all Char.isAlpha then (word, r) else ([], cs)
  | _ => ([], cs)

/-- The authority, if the text begins with two slashes, and the rest. -/
def cutAuthority : List Char → List Char × List Char
  | '/' :: '/' :: r =>
    let inside (c : Char) : Bool := c != '/' && c != '?' && c != '#'
    (r.takeWhile inside, r.dropWhile inside)
  | cs => ([], cs)

/-- The host and the socket number of an authority without user. -/
def cutSocket (cs : List Char) : List Char × List Char :=
  let afterColon : List Char → List Char
    | ':' :: r => r
    | r => r
  match cs, cutLast ']' cs with
  | '[' :: _, (some inner, r) => (inner ++ [']'], afterColon r)
  | _, _ =>
    let host := cs.takeWhile (· != ':')
    (host, afterColon (cs.drop host.length))

/-! ### Normal forms -/

/-- The socket numbers that are not written. -/
def usualSockets : List (String × Int) :=
  [("ftp", 21), ("http", 80), ("https", 443), ("ws", 80), ("wss", 443)]

/-- The socket number of an address; none in the outer sense if the text is not in order. -/
def socket? (scheme cs : List Char) : Option (Option Int) :=
  if cs.isEmpty then some none
  else
    (Digits.signed? (Text.trimWith Text.isBlank cs)).map fun n =>
      if usualSockets.lookup (String.ofList scheme) = some n then none else some n

/-- The steps of a path without `.`, and without `..` and what it leads back from. -/
def dropDots (parts : List (List Char)) : List (List Char) :=
  let step (out : List (List Char)) (part : List Char) : List (List Char) :=
    if part == ['.'] then out
    else if part == ['.', '.'] then
      if out.isEmpty || out == [[]] then out else out.drop 1
    else part :: out
  (parts.foldl step []).reverse

/-- Parts with slashes between them. -/
def joinPath : List (List Char) → List Char
  | [] => []
  | [p] => p
  | p :: ps => p ++ '/' :: joinPath ps

/-- A path without the steps `.` and `..`. -/
def plainPath (cs : List Char) : List Char :=
  let parts := Host.splitAt '/' cs
  if parts.contains ['.'] || parts.contains ['.', '.'] then joinPath (dropDots parts) else cs

/-- Whether a character is visible ASCII, or a blank, and not among some. -/
def isVisibleBut (others : String) (c : Char) : Bool :=
  0x20 < c.toNat && c.toNat < 0x7F && !others.toList.contains c

/-- The characters that stand for themselves in each part. -/
def isPathChar : Char → Bool := isVisibleBut "\"#<>?`\x7b\x7d"
def isQueryChar : Char → Bool := isVisibleBut "\"#<>"
def isFragmentChar : Char → Bool := isVisibleBut "\"<>`"
def isUserChar : Char → Bool := isVisibleBut "\"#<>?`\x7b\x7d/;=@[\\]^|"

/-- Whether a character is an ASCII control character. -/
def isControl (c : Char) : Bool := c.toNat < 0x20 || c.toNat = 0x7F

/-- The longest text that may be an address. -/
def maxLength : Nat := 65536

/-- Whether a path is in order: behind a host it begins with a slash; without scheme and host it
begins neither with two slashes nor with a colon. -/
def isValidPath (hasScheme hasAuthority : Bool) (path : List Char) : Bool :=
  if hasAuthority then path.isEmpty || path.head? == some '/'
  else hasScheme || !(path.take 2 == ['/', '/'] || path.head? == some ':')

/-- An address from a text. -/
def ofText? (s : String) : Option Address := do
  let cs := s.toList
  if maxLength < cs.length || cs.any isControl then none
  let (schemeText, r) := cutScheme cs
  let (authority, r) := cutAuthority r
  let (r, fragment) := cutFirst '#' r
  let (path, query) := cutFirst '?' r
  let (user, hostAndSocket) := cutLast '@' authority
  let (hostText, socketText) := cutSocket hostAndSocket
  let scheme := schemeText.map Char.toLower
  let userInfo := Text.percentEncode isUserChar (user.getD [])
  let host ← Host.ofText? hostText
  let socket ← socket? scheme socketText
  let hasScheme := !scheme.isEmpty
  let hasAuthority := !userInfo.isEmpty || !host.isEmpty || socket.isSome
  if !isValidPath hasScheme hasAuthority path then none
  let path := if hasScheme || hasAuthority then plainPath path else path
  return { scheme, userInfo, host, socket
           path := Text.percentEncode isPathChar path
           query := query.map (Text.percentEncode isQueryChar)
           fragment := fragment.map (Text.percentEncode isFragmentChar) }

/-! ### Use -/

/-- Whether an address names a scheme and a host. -/
def isAbsolute (a : Address) : Bool := !a.scheme.isEmpty && !a.host.isEmpty

/-- What a request for an address is sent to: an address without scheme or host is only a path
from the root. -/
def target (a : Address) : Address :=
  if a.isAbsolute then a
  else
    { scheme := [], userInfo := [], host := [], socket := none
      path := '/' :: a.path.dropWhile (· = '/'), query := a.query, fragment := none }

/-- User, host and socket number, as a text. -/
def authority (a : Address) : List Char :=
  (if a.userInfo.isEmpty then [] else a.userInfo ++ ['@']) ++
    (if ':' ∈ a.host then '[' :: a.host ++ [']'] else a.host) ++
    match a.socket with
    | some n => ':' :: ((if n < 0 then ['-'] else []) ++ Numeral.digitsOf n.natAbs)
    | none => []

/-- An address as a text. -/
def text (a : Address) : String :=
  let authority := a.authority
  String.ofList
    ((if a.scheme.isEmpty then [] else a.scheme ++ [':']) ++
      (if authority.isEmpty then [] else '/' :: '/' :: authority) ++ a.path ++
      a.query.elim [] ('?' :: ·) ++ a.fragment.elim [] ('#' :: ·))

/-- The address under another host; none if a part of it is too long there or its path not in
order. -/
def withHost? (a : Address) (host : List Char) : Option Address :=
  let moved := { a with host }
  let parts := [a.scheme, a.authority, a.path, a.query.getD [], a.fragment.getD []]
  if parts.any (maxLength < ·.length) then none
  else if isValidPath (!a.scheme.isEmpty) (!moved.authority.isEmpty) a.path then some moved
  else none

/-- An address without scheme, seen from another address. -/
def join (base a : Address) : Address :=
  if !a.authority.isEmpty then { a with scheme := base.scheme }
  else if a.path.isEmpty then
    { base with query := a.query.filter (!·.isEmpty) <|> base.query, fragment := a.fragment }
  else
    let above := (base.path.reverse.dropWhile (· != '/')).reverse
    let path := if a.path.head? == some '/' then a.path else above ++ a.path
    { base with path := plainPath path, query := a.query, fragment := a.fragment }

/-- The address that another address points to; none if it is not in order. One with a scheme but
without a host is taken to be under the same host, and one that is relative all the same is joined
and read again. -/
def resolve? (base a : Address) : Option Address := do
  let a ← if !a.scheme.isEmpty && a.host.isEmpty then a.withHost? base.host else some a
  if a.isAbsolute then return a
  else ofText? (if a.scheme.isEmpty then base.join a else a).text

/-- The user and the password of an address, if it names a user or a password. -/
def credentials? (a : Address) : Option (String × String) :=
  let decoded (cs : List Char) : String :=
    (Text.utf8? (Text.percentDecode cs)).getD (String.ofList cs)
  let (user, password) := cutFirst ':' a.userInfo
  let password := password.getD []
  if user.isEmpty && password.isEmpty then none else some (decoded user, decoded password)

end Address

end PushRegistry
