import DocStore.Fault
import DocStore.Schema.Host
import DocStore.Text.Encoding

/-!
# Addresses of schemas

An address has a scheme, an authority, a path with parameters, a query and a
fragment, all of which may be empty.  A relative address is joined to a base: what
it leaves out in front is taken from the base, and its path is walked from the
directory of the base.
-/

namespace DocStore

structure Address where
  scheme : String
  authority : List Char
  path : List Char
  /-- What follows a semicolon in the last segment of the path. -/
  parameters : List Char := []
  query : List Char
  fragment : List Char
deriving DecidableEq, Repr

namespace Address

/-- Schemes whose addresses are joined to a base; none is the scheme of a relative
address. -/
def relativeSchemes : List String :=
  [ "", "ftp", "http", "gopher", "nntp", "imap", "wais", "file", "https", "shttp", "mms",
    "prospero", "rtsp", "rtsps", "rtspu", "sftp", "svn", "svn+ssh", "ws", "wss" ]

def authoritySchemes : List String :=
  [ "", "ftp", "http", "gopher", "nntp", "telnet", "imap", "wais", "file", "mms", "https",
    "shttp", "snews", "prospero", "rtsp", "rtsps", "rtspu", "rsync", "svn", "svn+ssh", "sftp",
    "nfs", "git", "git+ssh", "ws", "wss" ]

def parameterSchemes : List String :=
  [ "", "ftp", "hdl", "prospero", "http", "imap", "https", "shttp", "rtsp", "rtsps", "rtspu",
    "sip", "sips", "mms", "sftp", "tel" ]

/-- Whether a character may stand in the name of a scheme. -/
def isSchemeCharacter (character : Char) : Bool :=
  character.isAlphanum || character = '+' || character = '-' || character = '.'

/-- A text without the control characters and spaces in front, and without any tabs
and line breaks. -/
def withoutControls (text : List Char) : List Char :=
  (text.dropWhile fun character => character.toNat ≤ 0x20).filter fun character =>
    character ≠ '\t' ∧ character ≠ '\r' ∧ character ≠ '\n'

/-- Takes the scheme from the front of an address, if it has one. -/
def takeScheme (implied : String) (text : List Char) : String × List Char :=
  let name := text.takeWhile (· != ':')
  match text.dropWhile (· != ':') with
  | ':' :: rest =>
      match name with
      | [] => (implied, text)
      | first :: _ =>
          if first.isAlpha && name.all isSchemeCharacter then
            (String.ofList (name.map Char.toLower), rest)
          else (implied, text)
  | _ => (implied, text)

/-- Takes the authority from the front of an address without its scheme. -/
def takeAuthority : List Char → Except Fault (List Char × List Char)
  | '/' :: '/' :: rest =>
      let ends := fun character : Char => character = '/' || character = '?' || character = '#'
      let authority := rest.takeWhile fun character => !ends character
      if Host.isAuthority authority then
        .ok (authority, rest.dropWhile fun character => !ends character)
      else .error .malformedValue
  | rest => .ok ([], rest)

/-- Reads an address, without setting the parameters of its path apart. -/
def split (implied : String) (text : String) : Except Fault Address := do
  let (scheme, rest) := takeScheme implied (withoutControls text.toList)
  let (authority, rest) ← takeAuthority rest
  let (rest, fragment) := cutFirst '#' rest
  let (path, query) := cutFirst '?' rest
  pure { scheme, authority, path, query, fragment }

/-- The path without its parameters, and the parameters: what follows the first
semicolon of the last segment. -/
def splitParameters (path : List Char) : List Char × List Char :=
  let last := (path.reverse.takeWhile (· != '/')).reverse
  let directory := path.take (path.length - last.length)
  let (name, parameters) := cutFirst ';' last
  (directory ++ name, parameters)

def read (implied : String) (text : String) : Except Fault Address := do
  let address ← split implied text
  if parameterSchemes.contains address.scheme then
    let (path, parameters) := splitParameters address.path
    pure { address with path, parameters }
  else pure address

/-- A part with its mark in front, or nothing for an empty part. -/
def marked (mark : Char) (part : List Char) : List Char :=
  if part.isEmpty then [] else mark :: part

/-- The text of an address; empty parts leave their marks out. -/
def text (address : Address) : String :=
  let path := address.path ++ marked ';' address.parameters
  let hasAuthority := !address.authority.isEmpty
    || (!address.scheme.isEmpty && authoritySchemes.contains address.scheme)
    || path.take 2 == ['/', '/']
  let path :=
    if hasAuthority then
      let rooted := if path.isEmpty || path.head? == some '/' then path else '/' :: path
      '/' :: '/' :: (address.authority ++ rooted)
    else path
  let scheme := if address.scheme.isEmpty then [] else address.scheme.toList ++ [':']
  String.ofList (scheme ++ path ++ marked '?' address.query ++ marked '#' address.fragment)

/-- Takes one segment into a path, which is kept from its end: a dot stands for the
directory itself, and two dots for the directory above. -/
def walkSegment (path : List (List Char)) (segment : List Char) : List (List Char) :=
  if segment = ['.', '.'] then path.drop 1
  else if segment = ['.'] then path
  else segment :: path

/-- The segments of a path that is walked from the directory of a base.  Empty segments
inside of the joined path are left out. -/
def joinedSegments (base path : List Char) : List (List Char) :=
  let segments := cutAt '/' path
  if path.head? == some '/' then segments
  else
    let directory := cutAt '/' base
    let directory :=
      if directory.getLast? == some [] then directory else directory.dropLast
    match directory ++ segments with
    | first :: rest@(_ :: _) =>
        first :: (rest.dropLast.filter (!·.isEmpty) ++ rest.getLast?.toList)
    | joined => joined

def joinPath (base path : List Char) : List Char :=
  let segments := joinedSegments base path
  let walked := segments.foldl walkSegment []
  let walked :=
    if segments.getLast? == some ['.'] || segments.getLast? == some ['.', '.'] then
      [] :: walked
    else walked
  match List.intercalate ['/'] walked.reverse with
  | [] => ['/']
  | joined => joined

/-- An address seen from a base, both as texts. -/
def join (base reference : String) : Except Fault String :=
  if base.isEmpty then .ok reference
  else if reference.isEmpty then .ok base
  else do
    let home ← read "" base
    let address ← read home.scheme reference
    if address.scheme ≠ home.scheme || !relativeSchemes.contains address.scheme then
      pure reference
    else if authoritySchemes.contains address.scheme && !address.authority.isEmpty then
      pure address.text
    else
      let address :=
        if authoritySchemes.contains address.scheme then
          { address with authority := home.authority }
        else address
      if address.path.isEmpty && address.parameters.isEmpty then
        let query := if address.query.isEmpty then home.query else address.query
        pure { address with path := home.path, parameters := home.parameters, query }.text
      else pure { address with path := joinPath home.path address.path }.text

def cutFragment (address : String) : Except Fault (String × String) :=
  if address.toList.contains '#' then do
    let parts ← read "" address
    pure ({ parts with fragment := [] }.text, String.ofList parts.fragment)
  else .ok (address, "")

/-- The form in which addresses are compared: the scheme in lower case, and no marks of
empty parts. -/
def normal (address : String) : Except Fault String := (split "" address).map text

/-- A text without the number signs at its end. -/
def withoutTrailingSigns (address : String) : String :=
  String.ofList (address.toList.reverse.dropWhile (· == '#')).reverse

/-! ## Percent escapes -/

/-- The bytes of an ASCII text with its percent escapes decoded. -/
def unescape : List Char → List UInt8
  | '%' :: high :: low :: rest =>
      match hexValue? high, hexValue? low with
      | some high, some low => UInt8.ofNat (high * 16 + low) :: unescape rest
      | _, _ => 37 :: unescape (high :: low :: rest)
  | character :: rest => UInt8.ofNat character.toNat :: unescape rest
  | [] => []

/-- Decodes the percent escapes in the ASCII runs of a text.  `run` is the run that is
being read, from its end. -/
def decodeRuns (run : List Char) : List Char → List Char
  | [] => Utf8.decodeLossily (unescape run.reverse)
  | character :: rest =>
      if character.toNat < 0x80 then decodeRuns (character :: run) rest
      else Utf8.decodeLossily (unescape run.reverse) ++ character :: decodeRuns [] rest

/-- A text with its percent escapes decoded as UTF-8; malformed bytes are replaced. -/
def decodeEscapes (text : List Char) : List Char :=
  if text.contains '%' then decodeRuns [] text else text

end Address

end DocStore
