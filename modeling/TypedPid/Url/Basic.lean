import TypedPid.Address.Ip
import TypedPid.Text.Percent

/-!
Locators: their parts, their text, and what can be wrong with one. The parts are kept as they are
written, that is with percent signs where these are needed.
-/
namespace TypedPid

inductive Host where
  | domain (name : String)
  | v4 (address : Ipv4)
  | v6 (address : Ipv6)
deriving DecidableEq

/-- A path is a row of segments, each behind a slash; or, in a locator that nothing can be relative
to, any text. -/
inductive UrlPath where
  | segments (parts : List String)
  | rootless (text : String)
deriving DecidableEq

structure Url where
  scheme : String
  username : String := ""
  password : String := ""
  host : Option Host
  port : Option Nat := none
  path : UrlPath
  query : Option String := none
  fragment : Option String := none
deriving DecidableEq

inductive UrlError where
  | relativeWithoutBase
  | emptyHost
  | invalidPort
  | invalidIpv4
  | invalidIpv6
  | invalidDomainName
  | invalidDomainCharacter
deriving DecidableEq

namespace UrlError

def message : UrlError → String
  | relativeWithoutBase => "relative URL without a base"
  | emptyHost => "empty host"
  | invalidPort => "invalid port number"
  | invalidIpv4 => "invalid IPv4 address"
  | invalidIpv6 => "invalid IPv6 address"
  | invalidDomainName => "invalid international domain name"
  | invalidDomainCharacter => "invalid domain character"

end UrlError

namespace Host

def text : Host → String
  | domain name => name
  | v4 address => address.text
  | v6 address => "[" ++ address.text ++ "]"

end Host

namespace UrlPath

def text : UrlPath → String
  | segments parts => String.join (parts.map ("/" ++ ·))
  | rootless text => text

end UrlPath

namespace Url

def userInfo (u : Url) : String :=
  if u.username = "" ∧ u.password = "" then ""
  else u.username ++ (if u.password = "" then "" else ":" ++ u.password) ++ "@"

/-- Host, port and user. Without a host, a path that begins with two slashes is kept from being
taken for one. -/
def authority (u : Url) : String :=
  match u.host, u.path with
  | some host, _ =>
    "//" ++ u.userInfo ++ host.text ++ (u.port.map fun port => ":" ++ toString port).getD ""
  | none, .segments ("" :: _ :: _) => "/."
  | none, _ => ""

def text (u : Url) : String :=
  u.scheme ++ ":" ++ u.authority ++ u.path.text ++ (u.query.map ("?" ++ ·)).getD "" ++
    (u.fragment.map ("#" ++ ·)).getD ""

/-- The port that is meant when none is given, for the schemes whose locators always have a host. -/
def defaultPort (scheme : String) : Option Nat :=
  if scheme = "http" ∨ scheme = "ws" then some 80
  else if scheme = "https" ∨ scheme = "wss" then some 443
  else if scheme = "ftp" then some 21
  else none

def isSpecial (scheme : String) : Bool := (defaultPort scheme).isSome || scheme = "file"

/-- Control characters are always written by percent signs. -/
def isControl (c : Char) : Bool := c.toNat < 0x20 || c.toNat = 0x7F

def inFragment (c : Char) : Bool := isControl c || [' ', '"', '<', '>', '`'].contains c

def inPath (c : Char) : Bool := inFragment c || ['#', '?', '\x7b', '\x7d'].contains c

def inSegment (special : Bool) (c : Char) : Bool :=
  inPath c || c = '/' || c = '%' || (special && c = '\\')

def inUserInfo (c : Char) : Bool :=
  inPath c || ['/', ':', ';', '=', '@', '[', '\\', ']', '^', '|'].contains c

def inQuery (special : Bool) (c : Char) : Bool :=
  isControl c || [' ', '"', '#', '<', '>'].contains c || (special && c = '\'')

def encoded (set : Char → Bool) (cs : List Char) : String := String.ofList (Percent.encode set cs)

end Url
end TypedPid
