import HybridSearch.Number.Integer
import HybridSearch.Text.Quoted
import HybridSearch.Text.Split
import HybridSearch.Url.Escape
import HybridSearch.Url.Host

/-! Addresses of services and of what they offer, in one form: with the scheme and the host in lower
case, without the number of the usual channel, without pieces of dots in the path, and with escapes
where a character may not stand for itself. -/

namespace HybridSearch

open HybridSearch.Text

/-- An address. The parts that may be absent are empty without it or have a mark of their own. -/
structure Url where
  scheme : List Char
  userinfo : List Char
  host : List Char
  /-- The number of the channel of the host, where it is not the usual one. -/
  channel? : Option Int
  path : List Char
  query? : Option (List Char)
  fragment? : Option (List Char)
deriving Repr, DecidableEq

namespace Url

inductive Fault where
  | tooLong
  | controlCharacter (character : Char) (position : Nat)
  | host (fault : HostFault) (text : List Char)
  /-- The number of a channel cannot be read. -/
  | channel (text : List Char)
  /-- A path behind a host does not begin with a slash. -/
  | unrootedPath
  /-- A path alone begins with two slashes. -/
  | doubledSlash
  /-- A path alone begins with a colon. -/
  | leadingColon
deriving Repr, DecidableEq

def Fault.message : Fault → String
  | tooLong => "URL too long"
  | controlCharacter character position =>
      "Invalid non-printable ASCII character in URL, " ++ String.ofList (quoted [character]) ++
        " at position " ++ toString position ++ "."
  | host .dotted text => "Invalid IPv4 address: " ++ String.ofList (quoted text)
  | host .coloned text => "Invalid IPv6 address: " ++ String.ofList (quoted text)
  | host .name text => "Invalid IDNA hostname: " ++ String.ofList (quoted text)
  | channel text => "Invalid port: " ++ String.ofList (quoted text)
  | unrootedPath => "For absolute URLs, path must be empty or begin with '/'"
  | doubledSlash => "Relative URLs cannot have a path starting with '//'"
  | leadingColon => "Relative URLs cannot have a path starting with ':'"

/-! ## The parts of a text -/

/-- Whether a character may stand in a scheme. -/
def isSchemeCharacter (character : Char) : Bool :=
  character.isAlphanum || character = '+' || character = '.' || character = '-'

/-- The scheme at the start of a text, which a colon ends, and what follows. -/
def splitScheme (characters : List Char) : List Char × List Char :=
  let scheme := characters.takeWhile isSchemeCharacter
  match characters.drop scheme.length with
  | ':' :: rest => if scheme.head?.all Char.isAlpha then (scheme, rest) else ([], characters)
  | _ => ([], characters)

/-- What names the host at the start of a text, behind two slashes, and what follows. -/
def splitAuthority : List Char → List Char × List Char
  | '/' :: '/' :: rest =>
      let authority := before ['/', '?', '#'] rest
      (authority, rest.drop authority.length)
  | rest => ([], rest)

/-- What stands before the last at sign, and what stands behind it. -/
def splitUserinfo (authority : List Char) : List Char × List Char :=
  let host := (authority.reverse.takeWhile (· ≠ '@')).reverse
  (authority.take (authority.length - host.length - 1), host)

/-- A host, which may stand in brackets, and the number of its channel. -/
def splitChannel (characters : List Char) : List Char × List Char :=
  let bracketed := (characters.reverse.dropWhile (· ≠ ']')).reverse
  let host :=
    if characters.head? = some '[' ∧ bracketed ≠ [] then bracketed else before [':'] characters
  match characters.drop host.length with
  | ':' :: number => (host, number)
  | number => (host, number)

def usualChannels : List (List Char × Int) :=
  [("ftp".toList, 21), ("http".toList, 80), ("https".toList, 443), ("ws".toList, 80),
   ("wss".toList, 443)]

/-- The channel of an address whose scheme is written so. -/
def readChannel (scheme digits : List Char) : Except Fault (Option Int) :=
  if digits = [] then .ok none
  else
    match Number.readWhole? digits with
    | some number => .ok (if usualChannels.lookup scheme = some number then none else some number)
    | none => .error (.channel digits)

/-! ## The characters that stand for themselves -/

def isKeptBut (others : List Char) (character : Char) : Bool :=
  ' ' < character && character ≤ '~' && character ∉ others

def keptInFragment : Char → Bool :=
  isKeptBut ['"', '<', '>', '\x60']

def keptInQuery : Char → Bool :=
  isKeptBut ['"', '#', '<', '>']

def keptInPath : Char → Bool :=
  isKeptBut ['"', '#', '<', '>', '?', '\x60', '\x7b', '\x7d']

/-- Whether a character of a user's name or password stands for itself. -/
def keptInUserinfo (character : Char) : Bool :=
  keptInPath character && character ∉ ['/', ';', '=', '@', '[', '\\', ']', '^', '|']

/-! ## Paths -/

/-- Takes one piece of a path behind the pieces before it, the latest first. A single dot stands for
no piece, and two dots take back the piece before them. -/
def addPiece (done : List (List Char)) (piece : List Char) : List (List Char) :=
  if piece = ['.'] then done
  else if piece = ['.', '.'] then
    match done with
    | [] | [[]] => done
    | _ :: rest => rest
  else piece :: done

def withoutDots (path : List Char) : List Char :=
  ['/'].intercalate ((splitWhere (· = '/') path).foldl addPiece []).reverse

/-! ## Reading -/

/-- The length of the longest text that is read. -/
def lengthLimit : Nat := 65536

def isControl (character : Char) : Bool :=
  character.toNat < 0x20 || character.toNat = 0x7F

def hasAuthority (url : Url) : Bool :=
  url.userinfo ≠ [] || url.host ≠ [] || url.channel?.isSome

/-- A path in its form behind the other parts of an address, if it can stand there. -/
def fitPath (url : Url) (path : List Char) : Except Fault (List Char) :=
  if url.hasAuthority then
    if path = [] ∨ path.head? = some '/' then .ok (withoutDots path) else .error .unrootedPath
  else if url.scheme ≠ [] then .ok (withoutDots path)
  else if ['/', '/'].isPrefixOf path then .error .doubledSlash
  else if [':'].isPrefixOf path then .error .leadingColon
  else .ok path

/-- Reads an address whose text has no control characters. -/
def readParts (characters : List Char) : Except Fault Url := do
  let (scheme, rest) := splitScheme characters
  let (authority, rest) := splitAuthority rest
  let (userinfo, location) := splitUserinfo authority
  let (hostText, channelText) := splitChannel location
  let beforeFragment := before ['#'] rest
  let host ← (Host.read hostText).mapError (Fault.host · hostText)
  let channel? ← readChannel scheme channelText
  let url : Url :=
    { scheme := scheme.map lowerAscii
      userinfo := escape keptInUserinfo userinfo
      host
      channel?
      path := []
      query? := (behind? '?' beforeFragment).map (escape keptInQuery)
      fragment? := (behind? '#' rest).map (escape keptInFragment) }
  let path ← url.fitPath (before ['?'] beforeFragment)
  return { url with path := escape keptInPath path }

def read (text : String) : Except Fault Url :=
  let characters := text.toList
  if lengthLimit < characters.length then .error .tooLong
  else
    match characters.find? isControl with
    | some control => .error (.controlCharacter control (characters.idxOf control))
    | none => readParts characters

/-! ## Writing -/

/-- The text of a host, in brackets where it has colons. -/
def hostText (url : Url) : List Char :=
  if ':' ∈ url.host then '[' :: url.host ++ [']'] else url.host

def authorityText (url : Url) : List Char :=
  (if url.userinfo = [] then [] else url.userinfo ++ ['@']) ++ url.hostText ++
    match url.channel? with
    | some number => ':' :: (toString number).toList
    | none => []

/-- The text of a part that may be absent, behind its mark. -/
def partText (mark : Char) : Option (List Char) → List Char
  | some part => mark :: part
  | none => []

def text (url : Url) : List Char :=
  (if url.scheme = [] then [] else url.scheme ++ [':']) ++
    (if url.authorityText = [] then [] else '/' :: '/' :: url.authorityText) ++
    url.path ++ partText '?' url.query? ++ partText '#' url.fragment?

/-! ## Places -/

/-- Whether an address says where the host is and how it is spoken to. -/
def isAbsolute (url : Url) : Bool :=
  url.scheme ≠ [] && url.host ≠ []

def place (url : Url) : List Char :=
  if url.path = [] then ['/'] else url.path

/-- An address behind the place of another one, unless it says itself where it is. -/
def onto (base reference : Url) : Url :=
  if reference.isAbsolute then reference
  else
    let path := base.place ++ reference.place.dropWhile (· = '/')
    { base with
      path := if base.isAbsolute then withoutDots path else path
      query? := reference.query?
      fragment? := none }

def nowhere : Url :=
  ⟨[], [], [], none, [], none, none⟩

def credentials (url : Url) : List Char × List Char :=
  (unescaped (before [':'] url.userinfo), unescaped (behind ':' url.userinfo))

end Url

end HybridSearch
