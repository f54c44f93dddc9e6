import SealedBuild.Collection.VarMap
import SealedBuild.Text.Blank
import SealedBuild.Text.Utf8

/-!
# Commits

What is known about the commit being built. The variables of continuous-integration
services are asked first; a checkout answers what they leave open.
-/

namespace SealedBuild

/-- What is known about a commit. -/
structure Commit where
  sha : Option String := none
  branch : Option String := none
  /-- A tag that points exactly at the commit. -/
  tag : Option String := none
  deriving DecidableEq, Inhabited

namespace Commit

/-- A text without surrounding white space, unless nothing is left of it. -/
def nonBlank (text : String) : Option String :=
  let inner := Text.trimmed text
  if inner.isEmpty then none else some inner

/-- The first of some variables that is set to more than white space. -/
def firstSet (env : VarMap) (names : List String) : Option String :=
  names.findSome? fun name => (env.get? name).bind nonBlank

/-- What the environment of a continuous-integration job says. -/
def ofEnvironment (env : VarMap) : Commit where
  sha := firstSet env ["ISOBUILD_COMMIT_SHA", "GITHUB_SHA", "CI_COMMIT_SHA", "GIT_COMMIT"]
  branch := firstSet env ["ISOBUILD_BRANCH", "GITHUB_REF_NAME", "CI_COMMIT_BRANCH"]
  tag := firstSet env ["ISOBUILD_TAG", "CI_COMMIT_TAG"]

/-- What a checkout says. `ask` gives what git writes for its arguments, if it succeeds; a
detached checkout has no branch. -/
def ofCheckout (ask : List String → Option (List UInt8)) : Commit :=
  let answer := fun arguments => (ask arguments).bind fun out => nonBlank (Utf8.decodeLossy out)
  { sha := answer ["rev-parse", "HEAD"]
    branch := answer ["symbolic-ref", "--quiet", "--short", "HEAD"]
    tag := answer ["describe", "--tags", "--exact-match", "HEAD"] }

/-- The commit with the fields it lacks taken from another. -/
def orElse (commit fallback : Commit) : Commit where
  sha := commit.sha.or fallback.sha
  branch := commit.branch.or fallback.branch
  tag := commit.tag.or fallback.tag

/-- The first seven characters of the hash. -/
def shortSha (commit : Commit) : Option String :=
  commit.sha.map fun sha => String.ofList (sha.toList.take 7)

/-- The tag if there is one, and else the branch. -/
def refName (commit : Commit) : Option String :=
  commit.tag.or commit.branch

end Commit

end SealedBuild
