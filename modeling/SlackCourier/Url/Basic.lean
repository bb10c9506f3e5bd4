import SlackCourier.Url.Authority
import SlackCourier.Url.Path

/-!
# URLs

A text is read as a URL the way browsers read it: white space and controls
around it do not count, dots in the path are followed, and what may not stand in
a part is written by its code. So a URL has one form in which it is shown
(`Url.text`).

Three kinds of schemes differ in what follows their colon. On the web, and for
files, backslashes are slashes and there is always a path from the root; on the
web there is a host as well, however many slashes lead to it. Other schemes have
an authority behind two slashes, a path behind one, and otherwise a text that
only they understand.

Only URLs of two schemes of the web are called.
-/

namespace SlackCourier

/-- A URL, its parts in the form in which they are shown. -/
structure Url where
  scheme : List Char
  authority : Option Url.Authority := none
  path : List Char := []
  query : Option (List Char) := none
  fragment : Option (List Char) := none
deriving DecidableEq, Repr

namespace Url

/-- The schemes of the web, with their usual ports. -/
def usualPort? (scheme : List Char) : Option Nat :=
  if scheme = ['h', 't', 't', 'p'] || scheme = ['w', 's'] then some 80
  else if scheme = ['h', 't', 't', 'p', 's'] || scheme = ['w', 's', 's'] then some 443
  else if scheme = ['f', 't', 'p'] then some 21
  else none

/-- The scheme of files. -/
def fileScheme : List Char := ['f', 'i', 'l', 'e']

/-- The text without what does not count in it. -/
def cleaned (text : String) : List Char :=
  let isOutside (c : Char) : Bool := c.toNat ≤ 0x20
  let trimmed := ((text.toList.dropWhile isOutside).reverse.dropWhile isOutside).reverse
  trimmed.filter fun c => c ≠ '\t' && c ≠ '\n' && c ≠ '\r'

/-- The scheme in front of the first colon, and what follows the colon. -/
def scheme? (text : List Char) : Option (List Char × List Char) :=
  let scheme := text.takeWhile (· ≠ ':')
  match scheme, text.dropWhile (· ≠ ':') with
  | first :: others, _ :: rest =>
    if first.isAlpha && others.all fun c => c.isAlphanum || ['+', '-', '.'].contains c then
      some (scheme.map Char.toLower, rest)
    else none
  | _, _ => none

/-- What stands in front of the first character of a kind, and what follows it. -/
def cut? (separator : Char) (text : List Char) : List Char × Option (List Char) :=
  match text.dropWhile (· ≠ separator) with
  | [] => (text, none)
  | _ :: rest => (text.takeWhile (· ≠ separator), some rest)

/-! ## The part in front of query and fragment -/

/-- Reads an authority and the path behind it. The part is the last one of a URL
    that has neither query nor fragment. -/
def parseHosted (usual : Option Nat) (part : List Char) (isLast : Bool) :
    Except UrlFault (Authority × List Char) := do
  let text := part.takeWhile (· ≠ '/')
  let behind := part.dropWhile (· ≠ '/')
  let (authority, rest) ← Authority.parse usual text (isLast && behind.isEmpty)
  let path := rest ++ behind
  pure (authority, if usual.isNone && path.isEmpty then [] else normalPath path)

/-- The path of a file, of the segments that it has as it is shown. -/
def filePath (segments : List (List Char)) : List Char :=
  '/' :: (pathOf segments).dropWhile (· = '/')

/-- Reads the host of a file and its path. The host is this one if it has no name
    or is called `localhost`, and also if the path begins with a drive. -/
def parseFile (part : List Char) : Except UrlFault (List Char × List Char) := do
  match part with
  | '/' :: '/' :: text =>
    let name := text.takeWhile (· ≠ '/')
    if isDrive name then pure ([], filePath (followed true [] (Text.split '/' text)))
    else
      let rest := text.dropWhile (· ≠ '/')
      let host ← if name.isEmpty then pure [] else parseHost name
      if host.isEmpty || host = ['l', 'o', 'c', 'a', 'l', 'h', 'o', 's', 't'] then
        pure ([], filePath (followed true [] (Text.split '/' rest)))
      else
        let path := followed true [] (segments rest)
        pure (if path.head?.any isDrive then [] else host, filePath path)
  | text => pure ([], filePath (followed true [] (segments text)))

/-- Reads what follows the colon of a scheme, without query and fragment: the
    authority, where there is one, and the path. -/
def parsePart (scheme part : List Char) (isLast : Bool) :
    Except UrlFault (Option Authority × List Char) := do
  let slashed := part.map fun c => if c = '\\' then '/' else c
  if scheme = fileScheme then
    let (host, path) ← parseFile slashed
    pure (some { host }, path)
  else
    match usualPort? scheme, part with
    | some usual, _ =>
      let (authority, path) ← parseHosted (some usual) (slashed.dropWhile (· = '/')) isLast
      pure (some authority, path)
    | none, '/' :: '/' :: text =>
      let (authority, path) ← parseHosted none text isLast
      pure (some authority, path)
    | none, '/' :: text => pure (none, normalPath ('/' :: text))
    | none, text => pure (none, percentEncode isReservedAnywhere text)

/-! ## Reading and showing -/

/-- Whether a scheme is one of the web or that of files. -/
def isCommon (scheme : List Char) : Bool :=
  (usualPort? scheme).isSome || scheme = fileScheme

/-- Reads a text as a URL. -/
def parse (text : String) : Except UrlFault Url :=
  match scheme? (cleaned text) with
  | none => .error .relativeWithoutBase
  | some (scheme, rest) => do
    let (rest, fragment) := cut? '#' rest
    let (part, query) := cut? '?' rest
    let (authority, path) ← parsePart scheme part (query.isNone && fragment.isNone)
    let isReserved := if isCommon scheme then isReservedInWebQuery else isReservedInQuery
    .ok {
      scheme, authority, path
      query := query.map (percentEncode isReserved)
      fragment := fragment.map (percentEncode isReservedInFragment) }

/-- The path as it is shown. Without an authority it may not look like one. -/
def shownPath (url : Url) : List Char :=
  if url.authority.isNone && ['/', '/'].isPrefixOf url.path then ['/', '.'] ++ url.path
  else url.path

/-- The URL as it is shown. -/
def text (url : Url) : String :=
  String.ofList <|
    url.scheme ++ ':' :: url.authority.elim [] (['/', '/'] ++ ·.text) ++ url.shownPath
      ++ url.query.elim [] ('?' :: ·) ++ url.fragment.elim [] ('#' :: ·)

/-! ## Calling -/

/-- Whether the program calls URLs of this scheme. -/
def isCallable (url : Url) : Bool :=
  url.scheme = ['h', 't', 't', 'p'] || url.scheme = ['h', 't', 't', 'p', 's']

/-- Whether there is a host in the URL. -/
def hasHost (url : Url) : Bool :=
  url.authority.any (!·.host.isEmpty)

/-- The value of the header that tells the login in the URL to the host. -/
def basic? (url : Url) : Option String :=
  url.authority.bind fun authority => authority.login.basic?

/-- The URL without a login that is told to the host in a header. -/
def withoutLogin (url : Url) : Url :=
  { url with
    authority := url.authority.map fun authority =>
      if authority.login.told?.isSome then { authority with login := {} } else authority }

/-- The port at which the host is called. -/
def port? (url : Url) : Option Nat :=
  (url.authority.bind (·.port)).or (usualPort? url.scheme)

/-- Whether two URLs are of the same host, called at the same port. -/
def sharesHost (url other : Url) : Bool :=
  url.authority.map (·.host) = other.authority.map (·.host) && url.port? = other.port?

/-- The octets that a URL in a request may have. -/
def requestLimit : Nat := 65534

/-- Whether a character may stand in a host but not in a request. -/
def isUnsendable (c : Char) : Bool :=
  ['"', '\x7b', '\x7d', Char.ofNat 0x60].contains c

/-- Whether the URL can stand in a request. -/
def isSendable (url : Url) : Bool :=
  !url.authority.any (·.host.any isUnsendable) && url.text.length ≤ requestLimit

end Url

end SlackCourier
