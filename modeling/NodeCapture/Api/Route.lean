/-!
# Targets and routes

    From the target of a request to what it is about: bytes are read as characters, a
    target is taken apart, and its path and method lead to a route.
-/

namespace NodeCapture

/-! ## Reading UTF-8

    Bytes are read as characters. A sequence that breaks off, and a byte that starts
    none, becomes one replacement character. -/

/-- The character that stands for bytes that cannot be read. -/
def replacementChar : Char := Char.ofNat 0xFFFD

/-- How many bytes follow a leading byte, and the range of the first of them; nothing
    where no sequence starts. -/
def trailOf (lead : Nat) : Option (Nat × Nat × Nat) :=
  if 0xC2 ≤ lead && lead ≤ 0xDF then some (1, 0x80, 0xBF)
  else if lead == 0xE0 then some (2, 0xA0, 0xBF)
  else if lead == 0xED then some (2, 0x80, 0x9F)
  else if 0xE1 ≤ lead && lead ≤ 0xEF then some (2, 0x80, 0xBF)
  else if lead == 0xF0 then some (3, 0x90, 0xBF)
  else if 0xF1 ≤ lead && lead ≤ 0xF3 then some (3, 0x80, 0xBF)
  else if lead == 0xF4 then some (3, 0x80, 0x8F)
  else none

/-- Takes up to `count` bytes, of which the first lies in a range and the others are
    trailing bytes. -/
def takeTrail : Nat → Nat → Nat → List Nat → List Nat × List Nat
  | count + 1, low, high, b :: rest =>
    if low ≤ b && b ≤ high then
      let (trail, rest) := takeTrail count 0x80 0xBF rest
      (b :: trail, rest)
    else ([], b :: rest)
  | _, _, _, bytes => ([], bytes)

/-- What a leading byte contributes to a code point. -/
def leadBits (count lead : Nat) : Nat := lead % Nat.pow 2 (6 - count)

/-- The characters of at most `fuel` sequences. -/
def decodeUtf8Up : Nat → List Nat → List Char
  | 0, _ => []
  | _, [] => []
  | fuel + 1, lead :: rest =>
    if lead < 0x80 then Char.ofNat lead :: decodeUtf8Up fuel rest
    else match trailOf lead with
      | none => replacementChar :: decodeUtf8Up fuel rest
      | some (count, low, high) =>
        let (trail, rest) := takeTrail count low high rest
        if trail.length == count then
          Char.ofNat (trail.foldl (fun n b => 64 * n + b % 64) (leadBits count lead)) ::
            decodeUtf8Up fuel rest
        else replacementChar :: decodeUtf8Up fuel rest

/-- The characters of some bytes. -/
def decodeUtf8 (bytes : List Nat) : List Char := decodeUtf8Up bytes.length bytes

/-! ## The target of a request

    A target is a path, and behind a question mark a query. In both, percent signs stand
    in front of the hexadecimal digits of bytes; in a query a plus sign stands for a
    space. Segments of one or two dots are followed as in a file path before a path is
    decoded, so encoded dots stay; a path is decoded before it is cut at its slashes, so
    that an encoded slash separates like any other.

    The address of a request is the host that it names and its decoded path, one behind
    the other. Where the host ends is found again in the whole, so that a host which
    brings a path with it changes the path of the address. -/

/-- The value of a hexadecimal digit. -/
def hexValue? (c : Char) : Option Nat :=
  let n := c.toNat
  if 48 ≤ n && n ≤ 57 then some (n - 48)
  else if 97 ≤ n && n ≤ 102 then some (n - 87)
  else if 65 ≤ n && n ≤ 70 then some (n - 55)
  else none

/-- The bytes of a text, where a percent sign with two digits behind it stands for one
    byte. -/
def percentBytes : List Char → List Nat
  | '%' :: a :: b :: rest =>
    match hexValue? a, hexValue? b with
    | some x, some y => (16 * x + y) :: percentBytes rest
    | _, _ => 37 :: percentBytes (a :: b :: rest)
  | c :: rest => (String.utf8EncodeChar c).map UInt8.toNat ++ percentBytes rest
  | [] => []

/-- A text without its percent signs. -/
def percentDecode (text : List Char) : List Char := decodeUtf8 (percentBytes text)

/-- The characters of a target that are its path. -/
def pathOf (target : List Char) : List Char := target.takeWhile (fun c => c != '?' && c != '#')

/-- A path without the authority that two slashes announce, starting with one slash. -/
def withoutAuthority : List Char → List Char
  | '/' :: '/' :: rest => '/' :: (rest.dropWhile (· != '/')).dropWhile (· == '/')
  | path => '/' :: path.dropWhile (· == '/')

/-- The segments of a path behind those in `kept`, last one first. One dot stays where it
    is, two dots take back the segment before them, and the empty segment in front of the
    first slash is never taken back. -/
def followDots (kept : List (List Char)) : List (List Char) → List (List Char)
  | [] => kept.reverse
  | ['.'] :: rest => followDots kept rest
  | ['.', '.'] :: rest => followDots (if kept == [[]] then kept else kept.drop 1) rest
  | segment :: rest => followDots (segment :: kept) rest

/-- A path without segments of one or two dots. The empty path is the path of one
    slash. -/
def withoutDots (path : List Char) : List Char :=
  match ['/'].intercalate (followDots [] (path.splitOn '/')) with
  | [] => ['/']
  | followed => followed

/-- The path of a target, decoded. -/
def decodedPath (target : String) : List Char :=
  percentDecode (withoutDots (withoutAuthority (pathOf target.toList)))

/-- One part of a query, decoded. -/
def queryPart (text : List Char) : String :=
  String.ofList (percentDecode (text.map (fun c => if c == '+' then ' ' else c)))

/-- The query of a target: names with values. -/
def queryOf (target : String) : List (String × String) :=
  match target.toList.dropWhile (fun c => c != '?' && c != '#') with
  | '?' :: query =>
    (((query.takeWhile (· != '#')).splitOn '&').filter (fun entry => !entry.isEmpty)).map
      (fun entry =>
        (queryPart (entry.takeWhile (· != '=')), queryPart ((entry.dropWhile (· != '=')).drop 1)))
  | _ => []

/-- The parts of a decoded path between its slashes; one line break at the end does not
    count. -/
def pathSegments (path : List Char) : Option (List String) :=
  let path := if path.getLast? == some '\n' then path.dropLast else path
  match path with
  | '/' :: rest => some ((rest.splitOn '/').map String.ofList)
  | _ => none

/-- A decoded path without the slashes at its end. -/
def withoutEndSlashes (path : List Char) : List Char := (path.reverse.dropWhile (· == '/')).reverse

/-- A text without tabulators and line breaks, which do not count in an address. -/
def withoutBreaks (text : List Char) : List Char :=
  text.filter (fun c => c != '\t' && c != '\n' && c != '\r')

/-- A character that the host of an address may have. A path, a query or a fragment ends
    it. -/
def isHostChar (c : Char) : Bool := c != '/' && c != '?' && c != '#'

/-- The host of an address. -/
def hostOfAddress (address : List Char) : List Char := address.takeWhile isHostChar

/-- The path of an address. -/
def pathOfAddress (address : List Char) : List Char := pathOf (address.dropWhile isHostChar)

/-! ## Routes

    Which paths the server knows, and by which methods. A name in a path is any part
    that is not empty. -/

/-- What a request can be about. -/
inductive Route where
  | state
  | loadNodes
  | select (node : String)
  | check (node : String)
  | createPod (node : String)
  | deletePod (node : String)
  | loadPods (node : String)
  | loadInterfaces (node : String)
  | filters (node : String)
  | scenario (node : String)
  | startCapture (node : String)
  | stopCapture (node : String)
  | download (node capture : String)
  deriving DecidableEq

namespace Route

/-- The routes of a node, by the rest of the path. -/
def ofNode (node : String) : List String → List (String × Route)
  | ["select"] => [("POST", select node)]
  | ["check"] => [("POST", check node)]
  | ["debug-pod"] => [("POST", createPod node), ("DELETE", deletePod node)]
  | ["filter-pods", "load"] => [("POST", loadPods node)]
  | ["interfaces", "load"] => [("POST", loadInterfaces node)]
  | ["filters"] => [("PUT", filters node)]
  | ["scenario"] => [("PUT", scenario node)]
  | ["capture", "start"] => [("POST", startCapture node)]
  | ["capture", "stop"] => [("POST", stopCapture node)]
  | ["captures", capture, "download"] =>
    if capture.isEmpty then [] else [("POST", download node capture)]
  | _ => []

/-- The methods and routes of a path. -/
def ofSegments : List String → List (String × Route)
  | ["state"] => [("GET", state)]
  | ["nodes", "load"] => [("POST", loadNodes)]
  | "nodes" :: node :: rest => if node.isEmpty then [] else ofNode node rest
  | _ => []

/-- The methods and routes of a decoded path. -/
def ofPath (path : List Char) : List (String × Route) :=
  match pathSegments path with
  | some segments => ofSegments segments
  | none => []

end Route

/-- The paths of the documentation. -/
def isDocumentation (path : List Char) : Bool :=
  match pathSegments path with
  | some ["docs"] | some ["docs", "oauth2-redirect"] | some ["redoc"] | some ["openapi.json"] =>
    true
  | _ => false

/-- What the path and method of a request lead to. -/
inductive Routing where
  | found (route : Route)
  | documentation
  | otherMethod
  | moved
  | notFound

/-- Whether a decoded path leads anywhere. -/
def leadsSomewhere (path : List Char) : Bool := isDocumentation path || !(Route.ofPath path).isEmpty

/-- Finds the route of a method and a decoded path. A path with slashes at its end is sent
    to the one without. -/
def routing (method : String) (path : List Char) : Routing :=
  if isDocumentation path then
    (if method == "GET" || method == "HEAD" then .documentation else .otherMethod)
  else match Route.ofPath path with
    | [] =>
      if path.getLast? == some '/' && leadsSomewhere (withoutEndSlashes path) then .moved
      else .notFound
    | routes =>
      match routes.find? (fun r => r.1 == method) with
      | some r => .found r.2
      | none => .otherMethod

end NodeCapture
