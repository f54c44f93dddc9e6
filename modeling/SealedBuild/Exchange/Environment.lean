import SealedBuild.Environment
import SealedBuild.Json.Decoder

/-!
# Environments in JSON

The JSON form of build environments and their parts. Sets and maps are written in ascending
order, so that equal environments have equal texts.
-/

namespace SealedBuild

open Json (Decoder)
open Json.Decoder (parts? required optional)

def Toolchain.toJson (t : Toolchain) : Json :=
  .object [("image", .text t.image), ("version", .text t.version)]

def Toolchain.ofJson? (json : Json) : Option Toolchain :=
  match parts? ["image", "version"] json with
  | some [image, version] => do
    pure ⟨← required Decoder.text image, ← required Decoder.text version⟩
  | _ => none

def PackageManager.toJson (manager : PackageManager) : Json :=
  .text manager.name

/-- Reads the package manager of a name; the name of its tool is none. -/
def PackageManager.ofJson? (json : Json) : Option PackageManager :=
  match Decoder.case? json with
  | some ("apt", payload) => if Decoder.isNothing payload then some .apt else none
  | some ("apk", payload) => if Decoder.isNothing payload then some .apk else none
  | _ => none

def CryptoLinkage.toJson (crypto : CryptoLinkage) : Json :=
  .object [
    ("library", .text crypto.library),
    ("lib_dir", Json.textOrNull crypto.libDir),
    ("include_dir", Json.textOrNull crypto.includeDir),
    ("shared_objects", Json.texts crypto.sharedObjects)]

def CryptoLinkage.ofJson? (json : Json) : Option CryptoLinkage :=
  match parts? ["library", "lib_dir", "include_dir", "shared_objects"] json with
  | some [library, libDir, includeDir, sharedObjects] => do
    pure {
      library := ← required Decoder.text library
      libDir := ← optional Decoder.text libDir
      includeDir := ← optional Decoder.text includeDir
      sharedObjects := ← required (Decoder.listOf Decoder.text) sharedObjects }
  | _ => none

def BuildFlags.toJson (flags : BuildFlags) : Json :=
  .object [("strip", .bool flags.strip), ("static_crypto", .bool flags.staticCrypto)]

def BuildFlags.ofJson? (json : Json) : Option BuildFlags :=
  match parts? ["strip", "static_crypto"] json with
  | some [strip, staticCrypto] => do
    pure ⟨← required Decoder.truth strip, ← required Decoder.truth staticCrypto⟩
  | _ => none

def BuildEnvironment.toJson (e : BuildEnvironment) : Json :=
  .object [
    ("toolchain", e.toolchain.toJson),
    ("package_manager", e.packageManager.toJson),
    ("packages", Json.texts e.packages.names),
    ("crypto", e.crypto.toJson),
    ("flags", e.flags.toJson),
    ("extra_env", Json.ofVarMap e.extraEnv)]

def BuildEnvironment.ofJson? (json : Json) : Option BuildEnvironment :=
  match parts? ["toolchain", "package_manager", "packages", "crypto", "flags", "extra_env"]
      json with
  | some [toolchain, packageManager, packages, crypto, flags, extraEnv] => do
    pure {
      toolchain := ← required Toolchain.ofJson? toolchain
      packageManager := ← required PackageManager.ofJson? packageManager
      packages := ← required Decoder.nameSet packages
      crypto := ← required CryptoLinkage.ofJson? crypto
      flags := ← required BuildFlags.ofJson? flags
      extraEnv := ← required Decoder.varMap extraEnv }
  | _ => none

end SealedBuild
