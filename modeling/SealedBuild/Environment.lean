import SealedBuild.Collection.NameSet
import SealedBuild.Collection.VarMap
import SealedBuild.Failure
import SealedBuild.Sha256
import SealedBuild.Text.Blank
import SealedBuild.Text.Utf8

/-!
# Build environments

Everything that the compiler and the linker see in the builder container: the toolchain
image, the native packages, how the cryptography library is linked, and the variables that
follow from these. Two environments that are equal give the same build, and the canonical
text of an environment and its commands is what a build's fingerprint hashes.
-/

namespace SealedBuild

/-- A toolchain image and the release it is pinned to. -/
structure Toolchain where
  image : String
  version : String
  deriving DecidableEq, Inhabited

namespace Toolchain

/-- Image tags that move over time and so pin nothing. -/
def floatingTags : List String :=
  ["latest", "stable", "beta", "nightly"]

/-- The full image reference. -/
def imageRef (t : Toolchain) : String :=
  t.image ++ ":" ++ t.version

/-- Whether the version names a fixed release. -/
def isPinned (t : Toolchain) : Bool :=
  let version := Text.trimmed t.version
  version != "" && !floatingTags.contains version

end Toolchain

/-- The package manager of the toolchain image. -/
inductive PackageManager where
  | apt
  | apk
  deriving DecidableEq, Inhabited

namespace PackageManager

/-- The name of the package manager. -/
def name : PackageManager → String
  | apt => "apt"
  | apk => "apk"

/-- The package manager of a name, which for the first may also be that of its tool. -/
def ofName? (name : String) : Option PackageManager :=
  if name = "apt" ∨ name = "apt-get" then some apt
  else if name = "apk" then some apk
  else none

/-- What is said of a name that is no package manager's. -/
def unknownText (name : String) : String :=
  "unknown package manager: " ++ name

/-- The package manager of a name, as an input of a run. -/
def ofName (name : String) : Except Failure PackageManager :=
  match ofName? name with
  | some manager => .ok manager
  | none => .error (.invalidInput (unknownText name))

/-- One shell step that installs packages and purges the package cache; nothing for no
packages. -/
def installScript (manager : PackageManager) (packages : NameSet) : Option String :=
  if packages.isEmpty then none
  else
    let list := String.intercalate " " packages.names
    some <|
      match manager with
      | apt =>
        "apt-get update && DEBIAN_FRONTEND=noninteractive apt-get install -y " ++
          "--no-install-recommends " ++ list ++ " && rm -rf /var/lib/apt/lists/*"
      | apk => "apk add --no-cache " ++ list ++ " && rm -rf /var/cache/apk/*"

end PackageManager

/-- How the artifact links against the cryptography library. -/
structure CryptoLinkage where
  /-- The name that the library's build variables are derived from. -/
  library : String
  libDir : Option String
  includeDir : Option String
  /-- The stems of the shared objects that betray a dynamic dependency. -/
  sharedObjects : List String
  deriving DecidableEq, Inhabited

namespace CryptoLinkage

/-- The stems that a library is known to ship its shared objects as. -/
def defaultSharedObjects (library : String) : List String :=
  if library = "openssl" then ["libssl", "libcrypto"]
  else if library.startsWith "lib" then [library]
  else ["lib" ++ library]

/-- The linkage of a library without directories, with its default shared objects. -/
def ofLibrary (library : String) : CryptoLinkage :=
  ⟨library, none, none, defaultSharedObjects library⟩

/-- What the names of the library's build variables start with: its name in capitals, with
low lines for hyphens. -/
def variableStem (crypto : CryptoLinkage) : String :=
  String.ofList (crypto.library.toList.map fun c => if c = '-' then '_' else c.toUpper)

/-- Whether a requested shared object belongs to the library. -/
def ownsSharedObject (crypto : CryptoLinkage) (needed : String) : Bool :=
  crypto.sharedObjects.any fun stem => needed.startsWith (stem ++ ".so")

end CryptoLinkage

/-- The properties that the compiled artifact is to have. -/
structure BuildFlags where
  /-- Symbols and debug information are stripped at link time. -/
  strip : Bool := true
  /-- The cryptography library is linked statically. -/
  staticCrypto : Bool := true
  deriving DecidableEq, Inhabited

/-- The complete environment of the builder stage. -/
structure BuildEnvironment where
  toolchain : Toolchain
  packageManager : PackageManager
  packages : NameSet
  crypto : CryptoLinkage
  flags : BuildFlags
  /-- Further variables, which may not bear the name of a derived one. -/
  extraEnv : VarMap
  deriving DecidableEq, Inhabited

/-- Why an environment cannot give a reproducible build. -/
inductive EnvironmentFault where
  | unpinnedToolchain (reference : String)
  | unnamedCryptoLibrary
  | derivedVariable (name : String)
  deriving DecidableEq, Inhabited

/-- The wording of an environment fault. -/
def EnvironmentFault.message : EnvironmentFault → String
  | unpinnedToolchain reference => "toolchain '" ++ reference ++ "' is not pinned to a release"
  | unnamedCryptoLibrary => "crypto library name is empty"
  | derivedVariable name =>
    "environment variable '" ++ name ++
      "' is derived from the build flags and cannot be overridden"

namespace BuildEnvironment

/-- The directory that build output goes to. -/
def targetDir : String := "/build/target"

/-- The compiler flag that drops the symbol table and the debug sections. -/
def stripFlag : String := "-C link-arg=-s"

/-- The environment of a toolchain and a linkage without packages or further variables. -/
def ofToolchain (toolchain : Toolchain) (crypto : CryptoLinkage) : BuildEnvironment :=
  ⟨toolchain, .apt, .empty, crypto, {}, .empty⟩

def withPackageManager (e : BuildEnvironment) (manager : PackageManager) : BuildEnvironment :=
  { e with packageManager := manager }

/-- The environment with further packages. -/
def withPackages (e : BuildEnvironment) (packages : List String) : BuildEnvironment :=
  { e with packages := e.packages.insertAll packages }

def withFlags (e : BuildEnvironment) (flags : BuildFlags) : BuildEnvironment :=
  { e with flags := flags }

/-- The environment with one more variable, in place of an older one of that name. -/
def withEnv (e : BuildEnvironment) (name value : String) : BuildEnvironment :=
  { e with extraEnv := e.extraEnv.insert name value }

/-- The variables that follow from the linkage and the flags. -/
def derivedEnv (e : BuildEnvironment) : VarMap :=
  let stem := e.crypto.variableStem
  VarMap.ofList <|
    [(stem ++ (if e.flags.staticCrypto then "_STATIC" else "_DYNAMIC"), "1")] ++
    e.crypto.libDir.toList.map (fun dir => (stem ++ "_LIB_DIR", dir)) ++
    e.crypto.includeDir.toList.map (fun dir => (stem ++ "_INCLUDE_DIR", dir)) ++
    (if e.flags.strip then [("RUSTFLAGS", stripFlag)] else []) ++
    [("CARGO_TARGET_DIR", targetDir)]

/-- The variables that the compiler and the linker run with: the derived ones, and the
further ones of other names. -/
def compilerEnv (e : BuildEnvironment) : VarMap :=
  e.derivedEnv.withDefaults e.extraEnv

/-- The step that installs the declared packages. -/
def installScript (e : BuildEnvironment) : Option String :=
  e.packageManager.installScript e.packages

/-- Refuses environments that cannot give a reproducible build. -/
def check (e : BuildEnvironment) : Except EnvironmentFault Unit :=
  if !e.toolchain.isPinned then .error (.unpinnedToolchain e.toolchain.imageRef)
  else if Text.allBlank e.crypto.library then .error .unnamedCryptoLibrary
  else
    match e.extraEnv.names.find? e.derivedEnv.contains with
    | some name => .error (.derivedVariable name)
    | none => .ok ()

/-- Refuses environments that cannot give a reproducible build, as an input of a run. -/
def validate (e : BuildEnvironment) : Except Failure Unit :=
  e.check.mapError fun fault => .invalidInput fault.message

/-- One line of the canonical text. -/
def canonicalLine (field value : String) : String :=
  field ++ "=" ++ value ++ "\n"

/-- The canonical text of all that decides what the artifact is: one line each for the
toolchain, the package manager, every package, every variable and every command. -/
def canonicalText (e : BuildEnvironment) (commands : List String) : String :=
  String.join <|
    [canonicalLine "toolchain" e.toolchain.imageRef,
      canonicalLine "package-manager" e.packageManager.name] ++
    e.packages.names.map (canonicalLine "package") ++
    e.compilerEnv.assignments.map (canonicalLine "env") ++
    commands.map (canonicalLine "run")

/-- The hash of the canonical text. -/
def fingerprint (e : BuildEnvironment) (commands : List String) : String :=
  Sha256.hex (Utf8.encode (e.canonicalText commands))

end BuildEnvironment

end SealedBuild
