import FragmentImports.Endpoint.DomainName
import FragmentImports.Endpoint.NumericHost
import FragmentImports.Text.Lowercase
import FragmentImports.Text.Quoted
import FragmentImports.Text.Utf8
import FragmentImports.Text.WholeNumber

/-!
Addresses of endpoints in the form in which they are sent: schemes and hosts in lower case, no port
that the scheme implies, no steps through the path, and characters escaped where they have no place.
-/

namespace FragmentImports.Endpoint

inductive AddressFault where
  | tooLong
  | unprintable (character : Char) (position : Nat)
  | numericHost (host : String)
  | groupHost (host : String)
  | domainName (host : String)
  | port (text : String)
  | joinedPath
  | doubleSlash
  | colon
  deriving DecidableEq, Repr

def AddressFault.message : AddressFault → String
  | tooLong => "URL too long"
  | unprintable character position =>
      "Invalid non-printable ASCII character in URL, " ++ quoted character.toString
        ++ " at position " ++ toString position ++ "."
  | numericHost host => "Invalid IPv4 address: " ++ quoted host
  | groupHost host => "Invalid IPv6 address: " ++ quoted host
  | domainName host => "Invalid IDNA hostname: " ++ quoted host
  | port text => "Invalid port: " ++ quoted text
  | joinedPath => "For absolute URLs, path must be empty or begin with '/'"
  | doubleSlash => "Relative URLs cannot have a path starting with '//'"
  | colon => "Relative URLs cannot have a path starting with ':'"

structure Address where
  scheme : List Char
  user : List Char
  host : List Char
  port? : Option Int
  path : List Char
  query? : Option (List Char)
  fragment? : Option (List Char)
  deriving DecidableEq, Repr

namespace Address

def escapeChar (c : Char) : List Char :=
  c.toString.toUTF8.toList.flatMap fun byte => '%' :: (Digits.hex 2 byte.toNat).map Char.toUpper

def escape (special text : List Char) : List Char :=
  text.flatMap fun c =>
    if 0x20 ≤ c.toNat ∧ c.toNat < 0x7F ∧ !special.contains c then [c] else escapeChar c

def unescape : List Char → List UInt8
  | [] => []
  | '%' :: high :: low :: rest =>
      match Digits.hexadecimal? [high, low] with
      | some byte => byte.toUInt8 :: unescape rest
      | none => '%'.toNat.toUInt8 :: unescape (high :: low :: rest)
  | c :: rest => c.toString.toUTF8.toList ++ unescape rest

def querySpecial : List Char := [' ', '"', '#', '<', '>']

def pathSpecial : List Char := querySpecial ++ ['?', '\x60', '\x7b', '\x7d']

def userSpecial : List Char := pathSpecial ++ ['/', ';', '=', '@', '[', '\\', ']', '^', '|']

def fragmentSpecial : List Char := [' ', '"', '<', '>', '\x60']

def hostSpecial : List Char := [' ', '#', '/', ':', '<', '>', '?', '@', '[', ']', '^']

def isSchemeChar (c : Char) : Bool := c.isAlphanum || c = '+' || c = '.' || c = '-'

def splitScheme (text : List Char) : List Char × List Char :=
  let name := text.takeWhile isSchemeChar
  match name, text.drop name.length with
  | [], ':' :: rest => ([], rest)
  | first :: _, ':' :: rest => if first.isAlpha then (name, rest) else ([], text)
  | _, _ => ([], text)

def splitAuthority : List Char → List Char × List Char
  | '/' :: '/' :: rest =>
      let isInside (c : Char) : Bool := c ≠ '/' && c ≠ '?' && c ≠ '#'
      (rest.takeWhile isInside, rest.dropWhile isInside)
  | text => ([], text)

/-- What stands in front of the last `at` sign, and what stands behind it. -/
def splitUser (authority : List Char) : List Char × List Char :=
  if authority.contains '@' then
    let back := authority.reverse
    (((back.dropWhile (· ≠ '@')).drop 1).reverse, (back.takeWhile (· ≠ '@')).reverse)
  else ([], authority)

def splitHost (text : List Char) : List Char × List Char :=
  let bracketed := (text.reverse.dropWhile (· ≠ ']')).reverse
  if text.head? = some '[' ∧ bracketed ≠ [] then (bracketed, text.drop bracketed.length)
  else (text.takeWhile (· ≠ ':'), text.dropWhile (· ≠ ':'))

def impliedPorts : List (List Char × Int) :=
  [("ftp", 21), ("http", 80), ("https", 443), ("ws", 80), ("wss", 443)].map fun entry =>
    (entry.1.toList, entry.2)

/-- A port behind its colon; one that the scheme implies, in the spelling given, is left out. -/
def readPort (scheme text : List Char) : Except AddressFault (Option Int) :=
  let digits := if text.head? = some ':' then text.drop 1 else text
  if digits = [] then .ok none
  else match WholeNumber.read? digits with
    | some port => .ok (if impliedPorts.contains (scheme, port) then none else some port)
    | none => .error (.port (String.ofList digits))

def readHost (host : List Char) : Except AddressFault (List Char) :=
  let given := String.ofList host
  if host = [] then .ok []
  else if NumericHost.looksNumeric host then
    if NumericHost.isFourOctets host then .ok host else .error (.numericHost given)
  else if host.head? = some '[' ∧ host.getLast? = some ']' then
    if NumericHost.isZonedHost (host.drop 1).dropLast then .ok host else .error (.groupHost given)
  else if DomainName.isAscii host then .ok (escape hostSpecial (host.map Char.toLower))
  else match DomainName.encode (lowerText host) with
    | .ok name => .ok name
    | .error _ => .error (.domainName given)

/-- One component more of a path without steps, the latest first. -/
def walk (behind : List (List Char)) (part : List Char) : List (List Char) :=
  if part = ['.'] then behind
  else if part = ['.', '.'] then if behind = [[]] then behind else behind.drop 1
  else part :: behind

def walked (path : List Char) : List Char :=
  ['/'].intercalate (((path.splitOn '/').foldl walk []).reverse)

def isUnprintable (c : Char) : Bool := c.toNat < 0x20 || c.toNat = 0x7F

def maximalLength : Nat := 65536

def checkText (text : List Char) : Except AddressFault Unit := do
  if maximalLength < text.length then throw .tooLong
  match text.findIdx? isUnprintable with
  | some position => throw (.unprintable (text.getD position ' ') position)
  | none => return ()

def hasAuthority (address : Address) : Bool :=
  address.user ≠ [] || address.host ≠ [] || address.port?.isSome

def checkPath (address : Address) : Except AddressFault Unit := do
  let path := address.path
  if address.hasAuthority then
    if path ≠ [] ∧ path.head? ≠ some '/' then throw .joinedPath
  else if address.scheme = [] then
    if ['/', '/'].isPrefixOf path then throw .doubleSlash
    if path.head? = some ':' then throw .colon

/-- Reads an address, in its normal form. Only a path behind a scheme or a host is walked. -/
def read (text : List Char) : Except AddressFault Address := do
  checkText text
  let (scheme, rest) := splitScheme text
  let (authority, rest) := splitAuthority rest
  let (user, hostAndPort) := splitUser authority
  let (host, portText) := splitHost hostAndPort
  let path := rest.takeWhile fun c => c ≠ '?' && c ≠ '#'
  let rest := rest.drop path.length
  let query? := if rest.head? = some '?' then some ((rest.drop 1).takeWhile (· ≠ '#')) else none
  let fragment? := if rest.contains '#' then some ((rest.dropWhile (· ≠ '#')).drop 1) else none
  let address : Address := {
    scheme := scheme.map Char.toLower
    user := escape userSpecial user
    host := ← readHost host
    port? := ← readPort scheme portText
    path := path
    query? := query?.map (escape querySpecial)
    fragment? := fragment?.map (escape fragmentSpecial) }
  address.checkPath
  let isWalked := address.scheme ≠ [] || address.hasAuthority
  return { address with path := escape pathSpecial (if isWalked then walked path else path) }

def isAbsolute (address : Address) : Bool := address.scheme ≠ [] && address.host ≠ []

def render (address : Address) : List Char :=
  let before (mark : Char) : Option (List Char) → List Char
    | some text => mark :: text
    | none => []
  let scheme := if address.scheme = [] then [] else address.scheme ++ [':']
  let user := if address.user = [] then [] else address.user ++ ['@']
  let port := address.port?.elim [] fun port => ':' :: (toString port).toList
  let authority := user ++ address.host ++ port
  scheme ++ (if authority = [] then [] else '/' :: '/' :: authority) ++ address.path
    ++ before '?' address.query? ++ before '#' address.fragment?

def relative (address : Address) : Except AddressFault Address := do
  let path := if address.path = [] then ['/'] else address.path
  let query := address.query?.elim [] fun query => '?' :: query
  let rest := (path ++ query).dropWhile (· = '/')
  let path := '/' :: rest.takeWhile (· ≠ '?')
  let query? := if rest.contains '?' then some ((rest.dropWhile (· ≠ '?')).drop 1) else none
  if maximalLength < path.length ∨ maximalLength < (query?.getD []).length then throw .tooLong
  return ⟨[], [], [], none, path, query?, none⟩

def credentials? (address : Address) : Option (List UInt8) :=
  let name := address.user.takeWhile (· ≠ ':')
  let password := (address.user.drop name.length).drop 1
  let bytes (text : List Char) : List UInt8 :=
    (String.ofList (Utf8.decodeLeniently (unescape text))).toUTF8.toList
  if name = [] ∧ password = [] then none
  else some (bytes name ++ ':'.toNat.toUInt8 :: bytes password)

def checkName (address : Address) : Except DomainName.Fault Unit :=
  if DomainName.asciiMarker.isPrefixOf address.host then DomainName.check address.host else .ok ()

end Address

end FragmentImports.Endpoint
