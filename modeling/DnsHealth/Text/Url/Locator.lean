import DnsHealth.Text.Url.Host
import DnsHealth.Text.Url.Path

/-!
# Locators

Uniform resource locators in their normal form: scheme and host in small letters, default ports and
dot segments left out, an empty path of a well-known scheme written as a slash, and characters
escaped where a part does not admit them.
-/

namespace DnsHealth.Text.Url

/-- The well-known schemes whose locators name a host, with their default ports. -/
def hostedSchemes : List (String × Nat) :=
  [("http", 80), ("https", 443), ("ws", 80), ("wss", 443), ("ftp", 21)]

/-- The kind of a scheme. -/
def Kind.ofScheme (scheme : String) : Kind :=
  if (hostedSchemes.lookup scheme).isSome then .hosted
  else if scheme = "file" then .file
  else .opaqueHost

/-- Splits a text before the first character that passes a test. -/
def cut (stop : Char → Bool) (cs : List Char) : List Char × List Char :=
  (cs.takeWhile (!stop ·), cs.dropWhile (!stop ·))

/-- Takes the scheme and the colon off the front of a text. -/
def scheme? (cs : List Char) : Option (List Char × List Char) :=
  match cut (· = ':') cs with
  | (c :: name, ':' :: rest) =>
    if c.isAlpha && name.all (fun c => c.isAlphanum || ['+', '-', '.'].contains c) then
      some ((c :: name).map Char.toLower, rest)
    else none
  | _ => none

/-- Tells whether a character ends the path of a locator. -/
def endsPath (c : Char) : Bool := c = '?' || c = '#'

/-- Tells whether a character ends the part of a locator that names its host. -/
def Kind.endsHost (kind : Kind) (c : Char) : Bool := kind.isSlash c || endsPath c

/-- The normal form of what stands before the last at sign. -/
def credentials (cs : List Char) : List Char :=
  let (user, rest) := cut (· = ':') cs
  let word := escape userSet (rest.drop 1)
  let name := escape userSet user
  if name = [] ∧ word = [] then []
  else name ++ (if word = [] then [] else ':' :: word) ++ ['@']

/-- Takes the users of a host off the front of a text, in their normal form. Without a host behind
it there may be an at sign only at the end of the text. -/
def users? (kind : Kind) (cs : List Char) : Option (List Char × List Char) :=
  let (area, rest) := cut kind.endsHost cs
  match cut (· = '@') area.reverse with
  | (place, '@' :: users) =>
    if users = [] ∧ place = [] ∧ rest ≠ [] then none
    else some (credentials users.reverse, place.reverse ++ rest)
  | _ => some ([], cs)

/-- Splits a text behind the host, which a colon outside brackets ends, too. -/
def cutHost (kind : Kind) (inBrackets : Bool) : List Char → List Char × List Char
  | [] => ([], [])
  | c :: cs =>
    if kind.endsHost c || (c = ':' && !inBrackets) then ([], c :: cs)
    else
      let (host, rest) := cutHost kind (c = '[' || (inBrackets && c ≠ ']')) cs
      (c :: host, rest)

/-- The normal form of a port, which is empty for the default one. -/
def port? (standard : Option Nat) (cs : List Char) : Option (List Char) := do
  let n ← digits? Decimal.digit? 10 cs
  if 65535 < n then none
  else if cs = [] ∨ standard = some n then some []
  else some (':' :: (Decimal.ofNat n).toList)

/-- Takes a port with its colon off the front of a text, in its normal form. -/
def portBehind? (standard : Option Nat) : List Char → Option (List Char × List Char)
  | ':' :: cs =>
    let (port, rest) := cut (fun c => c = '/' || c = '\\' || endsPath c) cs
    (port? standard port).map (·, rest)
  | cs => some ([], cs)

/-- Takes users, host and port off the front of a text, in their normal form. -/
def authority? (kind : Kind) (standard : Option Nat) (cs : List Char) :
    Option (List Char × List Char) := do
  let (users, rest) ← users? kind cs
  let (place, rest) := cutHost kind false rest
  let host ← if kind.known then knownHost? place else opaqueHost? place
  if host = [] ∧ (users ≠ [] ∨ rest.head? = some ':') then none
  else
    let (port, rest) ← portBehind? standard rest
    return (users ++ host ++ port, rest)

/-- Takes the host of a file off the front of a text, in its normal form. A drive is no host, and
the host that everything runs on is left out. -/
def fileHost? (cs : List Char) : Option (List Char × List Char) :=
  let (written, rest) := cut Kind.file.endsHost cs
  let place := written.filter (!isBreak ·)
  if isDrive place then some ([], cs)
  else if place = [] then some ([], rest)
  else (knownHost? place).map fun host =>
    (if host = "localhost".toList then [] else host, rest)

/-- A text without the slash that it may begin with. -/
def dropSlash (kind : Kind) (cs : List Char) : List Char :=
  if cs.head?.any kind.isSlash then cs.drop 1 else cs

/-- The normal form of host and path of a file. -/
def filePlace? (cs : List Char) : Option (List Char) :=
  match cs with
  | c :: d :: rest =>
    if Kind.file.isSlash c && Kind.file.isSlash d then
      (fileHost? rest).map fun (host, rest) =>
        let (text, drive) := path .file (if host = [] then rest else dropSlash .file rest)
        ['/', '/'] ++ (if drive then [] else host) ++ text
    else some (['/', '/'] ++ (path .file (dropSlash .file cs)).1)
  | _ => some (['/', '/'] ++ (path .file (dropSlash .file cs)).1)

/-- The normal form of a path without a host. It does not begin like a host. -/
def lonePath (cs : List Char) : List Char :=
  let (text, _) := path .opaqueHost cs
  if ['/', '/'].isPrefixOf text then ['/', '.'] ++ text else text

/-- The normal form of what stands between the scheme and the query. The query and the fragment are
given only to tell where the host ends. -/
def place? (scheme : String) (place tail : List Char) : Option (List Char) := do
  match Kind.ofScheme scheme with
  | .file => filePlace? place
  | .hosted =>
    let (host, rest) ← authority? .hosted (hostedSchemes.lookup scheme)
      (place.dropWhile Kind.hosted.isSlash ++ tail)
    return ['/', '/'] ++ host ++ (path .hosted (dropSlash .hosted (cut endsPath rest).1)).1
  | .opaqueHost =>
    match place with
    | '/' :: '/' :: place =>
      let (host, rest) ← authority? .opaqueHost none (place ++ tail)
      let rest := (cut endsPath rest).1
      return ['/', '/'] ++ host ++
        if rest = [] then [] else (path .opaqueHost (dropSlash .opaqueHost rest)).1
    | '/' :: rest => return lonePath rest
    | _ => return escape [] place

/-- A text without its breaks, but for those that come first behind a colon if a flag says so. -/
def dropBreaks (keep afterColon : Bool) : List Char → List Char
  | [] => []
  | c :: cs =>
    if isBreak c && !(keep && afterColon) then dropBreaks keep afterColon cs
    else c :: dropBreaks keep (c = ':') cs

/-- The normal form of a locator. -/
def normalized? (cs : List Char) : Option (List Char) := do
  let outer (c : Char) : Bool := decide (c.toNat ≤ 0x20)
  let trimmed := ((cs.dropWhile outer).reverse.dropWhile outer).reverse
  let (scheme, _) ← scheme? (dropBreaks false false trimmed)
  let kind := Kind.ofScheme (String.ofList scheme)
  let (written, rest) := cut endsPath ((trimmed.dropWhile (· ≠ ':')).drop 1)
  let place := dropBreaks (kind = .file) false written
  let tail := dropBreaks false false rest
  let (query, fragment) := cut (· = '#') tail
  let place ← place? (String.ofList scheme) place tail
  let part (mark : Char) (set : List Char) (cs : List Char) : List Char :=
    if cs = [] then [] else mark :: escape set (cs.drop 1)
  return scheme ++ [':'] ++ place ++ part '?' (querySet kind.known) query ++
    part '#' fragmentSet fragment

end DnsHealth.Text.Url
