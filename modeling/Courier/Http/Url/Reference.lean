import Courier.Http.Url

/-!
# Resolving a reference

A reference is an address that may leave out its first parts; these are taken
from the address where it was found. A path that does not start with a slash
continues the path there after its last slash, and `.` and `..` are resolved.

Key definitions: `Url.resolve`, `Url.join`.
-/

namespace Courier.Url

/-- The schemes in which references are resolved. -/
def relativeSchemes : List String :=
  ["", "ftp", "http", "gopher", "nntp", "imap", "wais", "file", "https", "shttp", "mms",
    "prospero", "rtsp", "rtspu", "sftp", "svn", "svn+ssh", "ws", "wss"]

/-- The schemes in which a last path segment may carry parameters after a semicolon. -/
def parameterSchemes : List String :=
  ["", "ftp", "hdl", "prospero", "http", "imap", "https", "shttp", "rtsp", "rtspu", "sip", "sips",
    "mms", "sftp", "tel"]

/-- Is the scheme in the list? -/
def among (schemes : List String) (scheme : Text) : Bool := schemes.any (·.toList == scheme)

/-- A path cut before the first semicolon of its last segment. -/
def splitParameters (scheme path : Text) : Text × Text :=
  let last := (Text.splitOn '/' path).getLast?.getD []
  match Text.cut ';' last with
  | some (_, parameters) =>
    if among parameterSchemes scheme then
      (path.take (path.length - parameters.length - 1), parameters)
    else (path, [])
  | none => (path, [])

/-- One segment more of a path that is being resolved. -/
def mergeStep (segments : List Text) (segment : Text) : List Text :=
  if segment = ['.', '.'] then segments.dropLast
  else if segment = ['.'] then segments
  else segments ++ [segment]

/-- The segments of a path taken from the folder of a base path. Empty segments
inside it are left out. -/
def segmentsFrom (basePath path : Text) : List Text :=
  let parts := Text.splitOn '/' path
  if path.head? = some '/' then parts
  else
    let all := (Text.splitOn '/' basePath).dropLast ++
      (if basePath.getLast? = some '/' || basePath = [] then [[]] else []) ++ parts
    all.take 1 ++ ((all.drop 1).dropLast.filter (· != [])) ++ (all.drop 1).getLast?.toList

/-- A reference's path resolved at a base path. -/
def mergePaths (basePath path : Text) : Text :=
  let segments := segmentsFrom basePath path
  let last := segments.getLast?.getD []
  let resolved := segments.foldl mergeStep [] ++
    (if last = ['.'] || last = ['.', '.'] then [[]] else [])
  match ['/'].intercalate resolved with
  | [] => ['/']
  | t => t

/-- The text of an address from its parts; empty parts are left out. -/
def spell (scheme authority path parameters query fragment : Text) : Text :=
  let path := if parameters = [] then path else path ++ [';'] ++ parameters
  let path :=
    if authority != [] || (scheme != [] && among relativeSchemes scheme &&
        !path.startsWith ['/', '/']) then
      ['/', '/'] ++ authority ++
        (if path != [] && path.head? != some '/' then '/' :: path else path)
    else path
  (if scheme = [] then [] else scheme ++ [':']) ++ path ++
    (if query = [] then [] else '?' :: query) ++ (if fragment = [] then [] else '#' :: fragment)

/-- The text of the address that a reference means at a base address. -/
def resolve (base reference : Url) : Text :=
  let scheme := if reference.scheme = [] then base.scheme else reference.scheme
  if base.text = [] then reference.text
  else if reference.text = [] then base.text
  else if scheme != base.scheme || !among relativeSchemes scheme then reference.text
  else
    let query := reference.query.getD []
    let fragment := reference.fragment.getD []
    let (path, parameters) := splitParameters scheme reference.path
    if reference.authority != [] then
      spell scheme reference.authority path parameters query fragment
    else
      let (basePath, baseParameters) := splitParameters base.scheme base.path
      if path = [] && parameters = [] then
        spell scheme base.authority basePath baseParameters
          (if query = [] then base.query.getD [] else query) fragment
      else spell scheme base.authority (mergePaths basePath path) parameters query fragment

/-- The address that a reference means at a base address. -/
def join (base reference : Url) : Except Fault Url := parse (resolve base reference)

end Courier.Url
