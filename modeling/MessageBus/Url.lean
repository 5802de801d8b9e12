/-
**URLs of brokers.** As much of the WHATWG rules as decides whether a text is a URL and which host
it names.

* `UrlFault` — why a text is no URL, with its wording.
* `Url.host` — the host of a URL, if it has one. The text is cleaned (controls and blanks at its
  ends, tabs and line ends anywhere), the scheme is split off, user information is dropped, and the
  host is read by the rules of its scheme. Five schemes of the web and `file` have rules of their
  own; the host of any other scheme keeps its case and is escaped where it holds control or
  non-ASCII characters.
-/

import MessageBus.Text.Percent
import MessageBus.Url.Address
import MessageBus.Url.Domain

namespace MessageBus

/-- Why a text is no URL. -/
inductive UrlFault
  | noBase
  | emptyHost
  | invalidPort
  | invalidIpv4
  | invalidIpv6
  | invalidDomainCharacter
  | invalidDomainName
  deriving DecidableEq, Repr

/-- The wording of a URL fault. -/
def UrlFault.message : UrlFault → String
  | .noBase => "relative URL without a base"
  | .emptyHost => "empty host"
  | .invalidPort => "invalid port number"
  | .invalidIpv4 => "invalid IPv4 address"
  | .invalidIpv6 => "invalid IPv6 address"
  | .invalidDomainCharacter => "invalid domain character"
  | .invalidDomainName => "invalid international domain name"

namespace Url

/-- The kinds of scheme with rules of their own. -/
inductive SchemeKind
  /-- A scheme of the web. -/
  | web
  /-- The scheme of local files. -/
  | file
  /-- Any other scheme. -/
  | other
  deriving DecidableEq

/-- The kind of a scheme in lower case. -/
def schemeKind (scheme : List Char) : SchemeKind :=
  let name := String.ofList scheme
  if name ∈ ["http", "https", "ws", "wss", "ftp"] then .web
  else if name = "file" then .file
  else .other

/-- Drops controls and blanks at the ends, and tabs and line ends anywhere. -/
def clean (cs : List Char) : List Char :=
  let outer := fun (c : Char) => decide (c.toNat ≤ 32)
  let inner := (((cs.dropWhile outer).reverse.dropWhile outer).reverse)
  inner.filter fun c => !(c == '\t' || c == '\n' || c == '\r')

/-- Latin letters. -/
def isLetter (c : Char) : Bool :=
  ('a' ≤ c && c ≤ 'z') || ('A' ≤ c && c ≤ 'Z')

/-- The characters of a scheme after its first letter. -/
def isSchemeChar (c : Char) : Bool :=
  isLetter c || ('0' ≤ c && c ≤ '9') || c == '+' || c == '-' || c == '.'

/-- Lower-cases a Latin letter. -/
def lower (c : Char) : Char :=
  if 'A' ≤ c ∧ c ≤ 'Z' then Char.ofNat (c.toNat + 32) else c

/-- Splits the scheme in lower case from what follows its colon. -/
def splitScheme? (cs : List Char) : Option (List Char × List Char) :=
  match cs with
  | [] => none
  | c :: _ =>
    if isLetter c then
      match cs.dropWhile isSchemeChar with
      | ':' :: rest => some ((cs.takeWhile isSchemeChar).map lower, rest)
      | _ => none
    else none

/-- Whether a character ends the authority of a URL. -/
def endsAuthority (special : Bool) (c : Char) : Bool :=
  c == '/' || c == '?' || c == '#' || (special && c == '\\')

/-- Splits user information from the rest of an authority: everything before the last `@`. -/
def splitUser (authority : List Char) : Option (List Char × List Char) :=
  if '@' ∈ authority then
    let host := (authority.reverse.takeWhile (· != '@')).reverse
    some (authority.take (authority.length - host.length - 1), host)
  else none

/-- Splits the host from what follows: the first colon outside brackets ends it. -/
def splitHost (inBrackets : Bool) : List Char → List Char × List Char
  | [] => ([], [])
  | c :: rest =>
    if c = ':' ∧ ¬ inBrackets then ([], c :: rest)
    else
      let inBrackets := if c = '[' then true else if c = ']' then false else inBrackets
      let (host, after) := splitHost inBrackets rest
      (c :: host, after)

/-- Checks the digits of a port, whose value so far is `port`; a backslash ends them. -/
def checkPort (port : Nat) : List Char → Except UrlFault Unit
  | [] => .ok ()
  | c :: rest =>
    if c = '\\' then .ok ()
    else match decimal? c with
      | some d =>
        if port * 10 + d ≤ 65535 then checkPort (port * 10 + d) rest else .error .invalidPort
      | none => .error .invalidPort

/-- The address between brackets, if the text is one. -/
def bracketed (host : List Char) : Except UrlFault String :=
  if host.getLast? = some ']' then
    match Ipv6.parse? ((host.drop 1).dropLast) with
    | some groups => .ok (Ipv6.render groups)
    | none => .error .invalidIpv6
  else .error .invalidIpv6

/-- The host of a scheme without rules of its own. -/
def opaqueHost (host : List Char) : Except UrlFault String :=
  if host.head? = some '[' then bracketed host
  else if host.any isForbidden then .error .invalidDomainCharacter
  else
    let keep := fun (b : UInt8) => 32 ≤ b && b ≤ 126
    .ok (String.ofList (Text.Percent.escapeBytes keep (Text.Utf8.encode host)))

/-- The host of a scheme of the web. -/
def domainHost (host : List Char) : Except UrlFault String :=
  if host.head? = some '[' then bracketed host
  else match Text.Utf8.decode? (Text.Percent.unescape (Text.Utf8.encode host)) with
    | none => .error .invalidDomainName
    | some name => match domain? name with
      | none => .error .invalidDomainName
      | some name =>
        if name.isEmpty then .error .emptyHost
        else if Ipv4.endsInNumber name ∧ ¬ Ipv4.isAddress name then .error .invalidIpv4
        else .ok (String.ofList name)

/-- The host of an authority without its user information; the port is checked. -/
def hostAndPort (kind : SchemeKind) (authority : List Char) :
    Except UrlFault (Option String) := do
  let (host, after) := splitHost false authority
  if host.isEmpty ∧ (kind = .web ∨ ¬ after.isEmpty) then .error .emptyHost
  else
    let name ← if kind = .web then domainHost host else opaqueHost host
    checkPort 0 (after.drop 1)
    return if host.isEmpty then none else some name

/-- The host of the text after the two slashes. -/
def authorityHost (kind : SchemeKind) (rest : List Char) : Except UrlFault (Option String) := do
  let authority := rest.takeWhile fun c => !endsAuthority (kind == .web) c
  match splitUser authority with
  | none => hostAndPort kind authority
  | some (user, afterUser) =>
    if user.isEmpty ∧ afterUser.isEmpty ∧ authority.length < rest.length then .error .emptyHost
    else
      let host ← hostAndPort kind afterUser
      if host.isNone ∧ user ≠ [] ∧ user ≠ [':'] then .error .emptyHost
      else return host

/-- A drive: a letter and a colon or bar. -/
def isDrive : List Char → Bool
  | [letter, mark] => isLetter letter && (mark == ':' || mark == '|')
  | _ => false

/-- The host of a file URL: up to the next slash, and without a port. -/
def fileHost (rest : List Char) : Except UrlFault (Option String) :=
  let isSlash := fun c => c == '/' || c == '\\'
  match rest with
  | a :: b :: rest =>
    if isSlash a ∧ isSlash b then
      let host := rest.takeWhile fun c => !endsAuthority true c
      if host.isEmpty || isDrive host then .ok none
      else do
        let name ← domainHost host
        return if name = "localhost" then none else some name
    else .ok none
  | _ => .ok none

/-- The host of a URL, if it has one. -/
def host (text : String) : Except UrlFault (Option String) :=
  match splitScheme? (clean text.toList) with
  | none => .error .noBase
  | some (scheme, rest) => match schemeKind scheme with
    | .web => authorityHost .web (rest.dropWhile fun c => c == '/' || c == '\\')
    | .file => fileHost rest
    | .other => match rest with
      | '/' :: '/' :: rest => authorityHost .other rest
      | _ => .ok none

end Url

end MessageBus
