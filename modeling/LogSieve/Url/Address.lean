import LogSieve.Url.Host

/-!
# Addresses

Reading an address of the web, and its normal form: the scheme in lower case, the port only where
it is not the usual one, steps back in the path followed. Login data is taken out of an address
unless its bytes are no text.
-/

namespace LogSieve.Url

open LogSieve.Text

/-- An address. -/
structure Address where
  scheme : String
  /-- The login data left in the address, with its at sign. -/
  login : List Char := []
  /-- The host; empty where the address has a place for one and leaves it open. -/
  host : Option (List Char)
  port : Option Nat := none
  path : List Char := []
  query : Option (List Char) := none
  fragment : Option (List Char) := none
deriving Inhabited

/-- The schemes of the web. -/
def isSpecial (scheme : String) : Bool :=
  ["http", "https", "ws", "wss", "ftp", "file"].contains scheme

/-- The usual port of a scheme. -/
def usualPort? (scheme : String) : Option Nat :=
  match scheme with
  | "http" | "ws" => some 80
  | "https" | "wss" => some 443
  | "ftp" => some 21
  | _ => none

/-- Divides a list at the first character that satisfies a test, which begins the second part. -/
def divide (test : Char → Bool) (chars : List Char) : List Char × List Char :=
  (chars.takeWhile (!test ·), chars.dropWhile (!test ·))

/-- The scheme of an address and what follows its colon. -/
def readScheme? (chars : List Char) : Option (String × List Char) :=
  let (scheme, rest) := divide (· == ':') chars
  match scheme, rest with
  | first :: others, _ :: rest =>
      if first.isAlpha && others.all (fun char => char.isAlphanum || ['+', '-', '.'].contains char)
      then some (String.ofList (scheme.map Char.toLower), rest)
      else none
  | _, _ => none

/-- Divides login data from what follows the last at sign. -/
def divideLogin (authority : List Char) : Option (List Char) × List Char :=
  let place := (authority.reverse.takeWhile (· != '@')).reverse
  if place.length = authority.length then (none, place)
  else (some (authority.take (authority.length - place.length - 1)), place)

/-- Divides a host from its port at the first colon outside of brackets. -/
def dividePort (inBrackets : Bool) : List Char → List Char × Option (List Char)
  | [] => ([], none)
  | ':' :: rest =>
      if inBrackets then
        let (host, port) := dividePort inBrackets rest
        (':' :: host, port)
      else ([], some rest)
  | char :: rest =>
      let (host, port) :=
        dividePort (if char = '[' then true else if char = ']' then false else inBrackets) rest
      (char :: host, port)

/-- Reads a port, a number of sixteen bits or nothing; the usual one is left out. A backslash after
it begins the path, which is given second. -/
def readPort? (scheme : String) : Option (List Char) → Option (Option Nat × List Char)
  | none => some (none, [])
  | some chars =>
      let digits := chars.takeWhile Char.isDigit
      let rest := chars.dropWhile Char.isDigit
      let port := valueOfDigits digits
      if 65535 < port || rest.head?.any (· != '\\') then none
      else if digits.isEmpty || usualPort? scheme = some port then some (none, rest)
      else some (some port, rest)

/-- Whether login data asks for a host: there is any, or nothing at all stands before its sign. -/
def needsHost : Option (List Char) → Bool
  | none => false
  | some login => login != [':']

/-- The login data that cannot be taken out: a name that is no text, or a password alone that is
none. -/
def remainingLogin (login : List Char) : List Char :=
  let (name, password) := divide (· == ':') login
  let name := escape inLogin name
  let password := escape inLogin password.tail
  let isTaken := (unescapedText? name).isSome &&
    (!name.isEmpty || (unescapedText? password).isSome)
  if isTaken then [] else name ++ (if password.isEmpty then [] else ':' :: password) ++ ['@']

/-- Reads login data, host and port of an address, and what of its path stands with them. -/
def readAuthority? (scheme : String) (authority : List Char) :
    Option (Address × List Char) := do
  let (login, place) := divideLogin authority
  let (host, port) := dividePort false place
  if host.isEmpty && (isSpecial scheme || needsHost login || port.isSome) then none
  else
    let host ← if isSpecial scheme then specialHost? host else otherHost? host
    let (port, rest) ← readPort? scheme port
    some ({ scheme, login := (login.map remainingLogin).getD [], host := some host, port }, rest)

/-- Whether a segment of a path stands for its place. -/
def isHere (segment : List Char) : Bool :=
  [".", "%2e"].contains (String.ofList (segment.map Char.toLower))

/-- Whether a segment of a path is a step back. -/
def isBack (segment : List Char) : Bool :=
  ["..", ".%2e", "%2e.", "%2e%2e"].contains (String.ofList (segment.map Char.toLower))

/-- Whether some text begins with the letter of a drive: a letter and a colon or a bar, alone or
before the end of a segment. -/
def startsWithDrive : List Char → Bool
  | letter :: mark :: rest =>
      letter.isAlpha && (mark == ':' || mark == '|') &&
        rest.head?.all fun char => ['/', '\\', '?', '#'].contains char
  | _ => false

/-- Whether a segment is the letter of a drive. -/
def isDrive (segment : List Char) : Bool := segment.length == 2 && startsWithDrive segment

/-- A path on the way: its segments, the last one first, and whether it has led to a drive. -/
structure Trail where
  segments : List (List Char) := []
  isOnDrive : Bool := false

/-- Goes a step back, but not out of a drive. -/
def Trail.back (trail : Trail) : Trail :=
  match trail.segments with
  | segment :: before =>
      if startsWithDrive segment then trail else { trail with segments := before }
  | [] => trail

/-- Goes into a segment. At the beginning of the path to a file it may be a drive, whose letter
always has a colon. -/
def Trail.enter (isFile : Bool) (trail : Trail) (segment : List Char) : Trail :=
  if isFile && trail.segments.isEmpty && isDrive segment then
    ⟨[segment.take 1 ++ [':']], true⟩
  else { trail with segments := segment :: trail.segments }

/-- Follows the segments of a path. A step at its end leads into a segment without a name. -/
def Trail.follow (isFile : Bool) (trail : Trail) : List (List Char) → Trail
  | [] => trail
  | [segment] =>
      if isHere segment then trail.enter isFile []
      else if isBack segment then trail.back.enter isFile []
      else trail.enter isFile segment
  | segment :: rest =>
      if isHere segment then trail.follow isFile rest
      else if isBack segment then trail.back.follow isFile rest
      else (trail.enter isFile segment).follow isFile rest

/-- The path of a trail. The path to a file does not begin with segments without a name. -/
def Trail.path (isFile : Bool) (trail : Trail) : List Char :=
  let segments := trail.segments.reverse
  let named := if isFile then segments.dropWhile List.isEmpty else segments
  if named.isEmpty then ['/'] else named.flatMap ('/' :: ·)

/-- Follows a path, given with or without the slash before it. -/
def followPath (scheme : String) (chars : List Char) : Trail :=
  let chars := if isSpecial scheme then
      chars.map fun char => if char = '\\' then '/' else char
    else chars
  let rest := match chars with
    | '/' :: rest => rest
    | _ => chars
  Trail.follow (scheme == "file") {} ((splitAt '/' rest).map (escape inPath))

/-- The normal form of a path. Only addresses outside of the web can have none. -/
def normalPath (scheme : String) (chars : List Char) : List Char :=
  if chars.isEmpty && !isSpecial scheme then []
  else (followPath scheme chars).path (scheme == "file")

/-- Host and path of a file. What looks like a host may be a drive, and a drive has no host. -/
def readFile? (chars : List Char) : Option (List Char × List Char) :=
  let isSlash (char : Char) := char == '/' || char == '\\'
  match chars with
  | first :: second :: rest =>
      if isSlash first && isSlash second then do
        let (name, path) := divide isSlash rest
        let (name, path) := if isDrive name then ([], rest) else (name, path)
        let host ← if name.isEmpty then some [] else specialHost? name
        let isOpen := host = "localhost".toList || (followPath "file" path).isOnDrive
        some (if isOpen then [] else host, normalPath "file" path)
      else some ([], normalPath "file" chars)
  | _ => some ([], normalPath "file" chars)

/-- Reads an address up to its path; the scheme is given. -/
def readBody? (scheme : String) (chars : List Char) : Option Address :=
  let isSlash (char : Char) := char == '/' || (isSpecial scheme && char == '\\')
  let hosted := fun (chars : List Char) => do
    let (authority, path) := divide isSlash chars
    let (address, rest) ← readAuthority? scheme authority
    some { address with path := normalPath scheme (rest ++ path) }
  if scheme = "file" then do
    let (host, path) ← readFile? chars
    some { scheme, host := some host, path }
  else if isSpecial scheme then hosted (chars.dropWhile isSlash)
  else
    match chars with
    | '/' :: '/' :: rest => hosted rest
    | '/' :: _ => some { scheme, host := none, path := normalPath scheme chars }
    | _ => some { scheme, host := none, path := escape isControl chars }

/-- Characters at the ends of an address that do not count. -/
def isMargin (char : Char) : Bool := char.toNat ≤ 0x20

/-- Characters that do not count anywhere in an address. -/
def isIgnored (char : Char) : Bool := char == '\t' || char == '\n' || char == '\r'

/-- What follows the first character of a part, where there is one. -/
def afterMark : List Char → Option (List Char)
  | [] => none
  | _ :: rest => some rest

/-- Reads an address that does not lean on another one. -/
def Address.parse? (text : String) : Option Address := do
  let chars := (dropEnd isMargin (text.toList.dropWhile isMargin)).filter (!isIgnored ·)
  let (scheme, rest) ← readScheme? chars
  let (rest, fragment) := divide (· == '#') rest
  let (body, query) := divide (· == '?') rest
  let address ← readBody? scheme body
  some { address with
    query := (afterMark query).map (escape (inQuery (isSpecial scheme)))
    fragment := (afterMark fragment).map (escape inFragment) }

namespace Address

/-- Whether an address names a host. -/
def hasHost (address : Address) : Bool := (address.host.getD []) != []

/-- The address with parameters added to its query. -/
def withParameters (address : Address) (parameters : List (String × String)) : Address :=
  let added := form parameters
  { address with
    query := match address.query with
      | none | some [] => some added
      | some query => some (query ++ '&' :: added) }

/-- The address as text. -/
def toText (address : Address) : String :=
  let authority := match address.host with
    | some host =>
        "//".toList ++ address.login ++ host ++
          (address.port.map fun port => ':' :: digitsOf port).getD []
    | none => if "//".toList.isPrefixOf address.path then "/.".toList else []
  String.ofList (address.scheme.toList ++ ':' :: authority ++ address.path ++
    (address.query.map ('?' :: ·)).getD [] ++ (address.fragment.map ('#' :: ·)).getD [])

end Address

end LogSieve.Url
