import DnsHealth.Text.Url.Escape

/-!
# Paths in locators

A path is a list of segments with slashes in front of them. A segment of one dot, which may be
escaped, stands for its own place and is left out, and one of two dots takes back the segment before
it. A segment that begins with a drive, a letter and a colon or a bar, is never taken back. A drive
at the front of the path of a file is written with a colon, and then the file has no host; if a
break in the text parts it from what follows, that is a segment of its own.
-/

namespace DnsHealth.Text.Url

/-- The kinds of schemes. -/
inductive Kind where
  /-- A well-known scheme whose locators name a host. -/
  | hosted
  /-- The scheme of files. -/
  | file
  /-- Any other scheme. -/
  | opaqueHost
  deriving DecidableEq, Repr

/-- Tells whether a kind of schemes is well known. -/
def Kind.known : Kind → Bool
  | hosted | file => true
  | opaqueHost => false

/-- Tells whether a character separates the segments of a path. -/
def Kind.isSlash (kind : Kind) (c : Char) : Bool := c = '/' || (kind.known && c = '\\')

/-- Tells whether a character is a break, which is left out wherever it stands. -/
def isBreak (c : Char) : Bool := c = '\t' || c = '\n' || c = '\r'

/-- A segment in its normal form. -/
def cleaned (cs : List Char) : List Char := escape pathSet (cs.filter (!isBreak ·))

/-- Tells whether a segment stands for its own place. -/
def isDot (cs : List Char) : Bool :=
  [".", "%2e"].contains (String.ofList (cs.map Char.toLower))

/-- Tells whether a segment stands for the place above. -/
def isDotDot (cs : List Char) : Bool :=
  ["..", ".%2e", "%2e.", "%2e%2e"].contains (String.ofList (cs.map Char.toLower))

/-- Tells whether a segment names a drive. -/
def isDrive : List Char → Bool
  | [c, mark] => c.isAlpha && (mark = ':' || mark = '|')
  | _ => false

/-- Tells whether a segment begins with a drive that nothing or a backslash follows. -/
def beginsWithDrive (cs : List Char) : Bool :=
  isDrive (cs.take 2) && (cs.drop 2).head?.all (· = '\\')

/-- A drive with a colon, and what a break parts from it. -/
def parted? : List Char → Option (List Char × List Char)
  | c :: ':' :: gap :: rest =>
    if c.isAlpha && isBreak gap && !rest.isEmpty then some ([c, ':'], rest) else none
  | _ => none

/-- The segments that have been read, the last one first, and whether one of them names the drive at
the front of the path of a file. -/
structure Trail where
  /-- The segments. -/
  segments : List (List Char)
  /-- There is a drive at the front. -/
  drive : Bool
  deriving DecidableEq, Repr

/-- Takes back the last segment, unless it begins with a drive. -/
def Trail.back (trail : Trail) : Trail :=
  if trail.segments.head?.any beginsWithDrive then trail
  else { trail with segments := trail.segments.drop 1 }

/-- Adds a segment without dots. -/
def Trail.add (kind : Kind) (trail : Trail) (segment : List Char) : Trail :=
  if kind = .file && trail.segments.isEmpty && isDrive segment then
    ⟨[segment.take 1 ++ [':']], true⟩
  else { trail with segments := segment :: trail.segments }

/-- Follows a segment as it is written. Dots at the end of a path leave an empty segment. -/
def Trail.step (kind : Kind) (atEnd : Bool) (trail : Trail) (written : List Char) : Trail :=
  match if kind = .file && trail.segments.isEmpty then parted? written else none with
  | some (drive, rest) => { trail with segments := [cleaned rest, drive] }
  | none =>
    let segment := cleaned written
    if isDotDot segment then if atEnd then trail.back.add kind [] else trail.back
    else if isDot segment then if atEnd then trail.add kind [] else trail
    else trail.add kind segment

/-- Follows the segments of a path. -/
def Trail.follow (kind : Kind) (trail : Trail) : List (List Char) → Trail
  | [] => trail
  | segment :: rest => Trail.follow kind (trail.step kind rest.isEmpty segment) rest

/-- The text of the segments, each behind a slash. The path of a file does not begin with an empty
segment that others follow. -/
def Trail.text (kind : Kind) (trail : Trail) : List Char :=
  let text := trail.segments.reverse.flatMap ('/' :: ·)
  if kind = .file then '/' :: text.dropWhile (· = '/') else text

/-- The parts of a text between slashes. -/
def slashed (kind : Kind) : List Char → List (List Char)
  | [] => [[]]
  | c :: cs =>
    if kind.isSlash c then [] :: slashed kind cs
    else match slashed kind cs with
      | [] => [[c]]
      | part :: parts => (c :: part) :: parts

/-- The normal form of a path, given without the slash that it begins with, and whether it names a
drive. -/
def path (kind : Kind) (cs : List Char) : List Char × Bool :=
  let trail := Trail.follow kind ⟨[], false⟩ (slashed kind cs)
  (trail.text kind, trail.drive)

end DnsHealth.Text.Url
