import Subscriber.Address.Host
import Subscriber.Error

/-! Server addresses such as `redis://host:6379/0`. They are read by the general rules for web
addresses, of which the host and the port remain. -/

namespace Subscriber

structure Address where
  host : String
  port : Nat
deriving DecidableEq

namespace Address

def defaultPort : Nat := 6379

def text (address : Address) : String := address.host ++ ":" ++ toString address.port

/-- Why a text is not a server's address. -/
inductive Problem where
  | malformed
  | scheme
  | host
deriving DecidableEq

def Problem.message : Problem → String
  | .malformed => "invalid address format"
  | .scheme => "invalid scheme, expected redis://"
  | .host => "missing host in address"

/-- Schemes differ in how their hosts are read and in whether a backslash ends a part. -/
inductive Scheme where
  | redis
  | web
  | file
  | other
deriving DecidableEq

def Scheme.ofName (name : String) : Scheme :=
  if name = "redis" then .redis
  else if ["http", "https", "ws", "wss", "ftp"].contains name then .web
  else if name = "file" then .file
  else .other

/-- Blanks and control characters at the ends are dropped, tabs and line ends everywhere. -/
def clean (text : List Char) : List Char :=
  let isMargin (c : Char) : Bool := c.toNat ≤ 0x20
  let trimmed := ((text.dropWhile isMargin).reverse.dropWhile isMargin).reverse
  trimmed.filter fun c => c != '\t' && c != '\n' && c != '\r'

def isSchemeChar (c : Char) : Bool := c.isAlphanum || c == '+' || c == '-' || c == '.'

/-- A letter, then letters, digits and the marks `+`, `-`, `.`, up to a colon. -/
def splitScheme? (text : List Char) : Option (String × List Char) :=
  match text.dropWhile isSchemeChar with
  | ':' :: rest =>
    if (text.head?.map Char.isAlpha).getD false then
      some (String.ofList ((text.takeWhile isSchemeChar).map Char.toLower), rest)
    else none
  | _ => none

/-- Where the authority ends. -/
def endsAuthority (backslash : Bool) (c : Char) : Bool :=
  c == '/' || c == '?' || c == '#' || (backslash && c == '\\')

/-- What stands in front of the last `@` and what stands behind it. -/
def splitUser (authority : List Char) : Option (List Char) × List Char :=
  if authority.contains '@' then
    let behind := (authority.reverse.takeWhile (· != '@')).reverse
    (some (authority.take (authority.length - behind.length - 1)), behind)
  else (none, authority)

/-- The host ends at the first colon outside of brackets. -/
def splitPort (inBrackets : Bool) : List Char → List Char × Option (List Char)
  | [] => ([], none)
  | c :: rest =>
    if c = ':' ∧ inBrackets = false then ([], some rest)
    else
      let (host, port) := splitPort (if c = '[' then true else if c = ']' then false else inBrackets) rest
      (c :: host, port)

/-- Digits up to the end or to a backslash. No digits at all leave the port open. -/
def port? (text : List Char) : Option (Option Nat) :=
  let digits := text.takeWhile Char.isDigit
  match text.drop digits.length with
  | [] | '\\' :: _ =>
    if digits.isEmpty then some none
    else if baseValue 10 digits ≤ 65535 then some (some (baseValue 10 digits)) else none
  | _ => none

/-- The part between the two slashes and the path. An empty host is none, which is allowed only
under an opaque scheme and without a user or a port. -/
def authority (scheme : Scheme) (text : List Char) : Except Problem (Option (List Char) × Option Nat) :=
  let backslash := scheme == .web
  let whole := text.takeWhile fun c => !endsAuthority backslash c
  let (user, rest) := splitUser whole
  if user = some [] ∧ rest = [] ∧ whole.length < text.length then .error .malformed
  else
    let (hostText, portText) := splitPort false rest
    if hostText.isEmpty then
      if backslash || portText.isSome then .error .malformed
      else if user.isSome && user != some [] && user != some [':'] then .error .malformed
      else .ok (none, none)
    else
      let host := if backslash then (if isWebHost hostText then some hostText else none)
        else opaqueHost? hostText
      match host, portText.elim (some none) port? with
      | some host, some port => .ok (some host, port)
      | _, _ => .error .malformed

/-- A drive letter in the place of a host, which belongs to the path. -/
def isDrive : List Char → Bool
  | [letter, mark] => letter.isAlpha && (mark == ':' || mark == '|')
  | _ => false

def fileHost (text : List Char) : Except Problem Unit :=
  let isSlash (c : Char) : Bool := c == '/' || c == '\\'
  match text with
  | first :: second :: rest =>
    let host := rest.takeWhile fun c => !endsAuthority true c
    if isSlash first && isSlash second && !host.isEmpty && !isDrive host && !isWebHost host then
      .error .malformed
    else .ok ()
  | _ => .ok ()

/-- Host and port behind a scheme. -/
def locate (scheme : Scheme) (text : List Char) : Except Problem (Option (List Char) × Option Nat) :=
  match scheme with
  | .file => (fileHost text).map fun _ => (none, none)
  | .web => authority .web (text.dropWhile fun c => c == '/' || c == '\\')
  | scheme =>
    match text with
    | '/' :: '/' :: rest => authority scheme rest
    | _ => .ok (none, none)

/-- An address is malformed before it is of the wrong scheme, and of the wrong scheme before it
lacks a host. -/
def parse (text : String) : Except Problem Address := do
  let some (name, rest) := splitScheme? (clean text.toList) | .error .malformed
  let scheme := Scheme.ofName name
  let (host, port) ← locate scheme rest
  if scheme ≠ .redis then .error .scheme
  match host with
  | some host => .ok { host := String.ofList host, port := port.getD defaultPort }
  | none => .error .host

end Address

end Subscriber
