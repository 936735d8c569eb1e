import TransformPreset.Number.Leading
import TransformPreset.Text.LowerCase
import TransformPreset.Text.Word
import TransformPreset.Trace

/-!
# Browser releases

A release is the name of a browser, one space and a version. A release resolver answers browser
queries with releases; `literalReleases` is the resolver that needs no database, because its queries
name releases already. `lowestVersions` keeps the least version of each known browser, as the
integer at the start of the version.
-/

namespace TransformPreset

/-- A resolver of browser queries to releases. -/
abbrev ReleaseResolver := List String → Except Failure (List String)

/-- The browsers that capabilities are recorded for, and the environments they stand for. -/
def browserEnvironments : Entries String :=
  [("chrome", "chrome"), ("edge", "edge"), ("firefox", "firefox"), ("ie", "ie"),
    ("ios_saf", "ios"), ("safari", "safari")]

/-! ## Literal releases -/

/-- The characters of a browser name. -/
def isNameChar (c : Char) : Bool :=
  (0x61 ≤ c.toNat && c.toNat ≤ 0x7A) || c == '_'

/-- The characters of a version after its first digit. -/
def isVersionChar (c : Char) : Bool :=
  isWord c || c == '.' || c == '-'

/-- Whether a text is a release: a name, one space, and a version that starts with a digit. -/
def isRelease (text : List Char) : Bool :=
  match text.dropWhile isNameChar with
  | ' ' :: first :: rest =>
    !(text.takeWhile isNameChar).isEmpty && isDigit first && rest.all isVersionChar
  | _ => false

/-- A fragment of a query with one space between its words, in lower case. -/
def releaseText (fragment : List Char) : List Char :=
  lowerCase ([' '].intercalate (words fragment))

/-- The fragments of queries, which commas separate. -/
def fragments (queries : List String) : List (List Char) :=
  queries.flatMap fun query => pieces ',' query.toList

/-- The release that a fragment names, or none if it is blank. -/
def readRelease (fragment : List Char) : Except Failure (Option String) :=
  let release := releaseText fragment
  -- A blank fragment asks for nothing.
  if release.isEmpty then .ok none
  else if isRelease release then .ok (some (String.ofList release))
  else .error (.releaseNotLiteral (String.ofList (trim fragment)))

/-- The releases that fragments name, in order. -/
def readReleases : List (List Char) → Except Failure (List String)
  | [] => .ok []
  | fragment :: rest => do
    let release? ← readRelease fragment
    let releases ← readReleases rest
    return release?.toList ++ releases

/-- The releases that queries name. -/
def literalReleases : ReleaseResolver := fun queries =>
  readReleases (fragments queries)

/-! ## Lowest versions -/

/-- The name of a release, and what follows its first space. -/
def splitRelease (release : String) : String × List Char :=
  let (name, version?) := partitionAt ' ' release.toList
  (String.ofList name, version?.getD [])

/-- The integer at the start of a version, if there is one. -/
def leadingInt (version : List Char) : Except Failure (Option Int) :=
  match leadingInt? version with
  | none => .ok none
  | some text =>
    match readInt text with
    | .ok n => .ok (some n)
    | .error digits => .error (.tooManyDigits digits)

/-- The lesser of a version and the one that a map has for an environment. -/
def lesserVersion (lowest : Entries Int) (environment : String) (version : Int) : Int :=
  match lowest.get? environment with
  | some old => if version < old then version else old
  | none => version

/-- Takes the releases one by one into a map of least versions. A release of another browser or
without an integer is dropped. -/
def lowestFrom (lowest : Entries Int) : List String → Traced (Entries Int)
  | [] => return lowest
  | release :: rest => do
    let (name, version) := splitRelease release
    match browserEnvironments.get? name, ← Traced.of (leadingInt version) with
    | some environment, some n =>
      lowestFrom (lowest.insert environment (lesserVersion lowest environment n)) rest
    | _, _ =>
      Traced.log .debug .releases ("Dropping browser release " ++ quoted release)
      lowestFrom lowest rest

/-- The least version of each known browser among the releases. -/
def lowestVersions (releases : List String) : Traced (Entries Int) :=
  lowestFrom [] releases

end TransformPreset
