import SealedBuild.Environment
import SealedBuild.Failure

/-!
# Inspections

What the headers of an executable say, and what that means for the pipeline: whether it
depends on shared objects of the cryptography library, and whether symbols or debug
sections survived linking.
-/

namespace SealedBuild

/-- The machine that an executable was built for. -/
inductive Architecture where
  | x86_64
  | aarch64
  | other (name : String)
  deriving DecidableEq, Inhabited

/-- The name of an architecture. -/
def Architecture.name : Architecture → String
  | x86_64 => "x86_64"
  | aarch64 => "aarch64"
  | other name => name

/-- How an executable is linked against the cryptography library. -/
inductive Linkage where
  /-- It requests no shared object of the library. -/
  | static
  /-- It requests these shared objects. -/
  | dynamic (libraries : List String)
  deriving DecidableEq, Inhabited

def Linkage.isStatic : Linkage → Bool
  | static => true
  | dynamic _ => false

/-- What an inspector found in an executable. -/
structure Inspection where
  architecture : Architecture
  /-- The shared objects that are requested at load time, in file order. -/
  needed : List String
  /-- The requested program interpreter; fully static executables have none. -/
  interpreter : Option String
  hasSymtab : Bool
  /-- The names of the debug sections. -/
  debugSections : List String
  deriving DecidableEq, Inhabited

/-- Why an executable breaks what was declared of it. -/
inductive InspectionFault where
  | linkedDynamically (library : String) (needed : List String)
  | notStripped (sections : List String)
  deriving DecidableEq, Inhabited

/-- The wording of an inspection fault. -/
def InspectionFault.message : InspectionFault → String
  | linkedDynamically library needed =>
    library ++ " must be linked statically but the artifact needs " ++
      String.intercalate ", " needed
  | notStripped sections =>
    "artifact must be stripped but still carries " ++ String.intercalate ", " sections

namespace Inspection

/-- Whether neither a symbol table nor a debug section is left. -/
def isStripped (i : Inspection) : Bool :=
  !i.hasSymtab && i.debugSections.isEmpty

/-- The requested shared objects that belong to the cryptography library, in file order. -/
def cryptoDependencies (i : Inspection) (crypto : CryptoLinkage) : List String :=
  i.needed.filter crypto.ownsSharedObject

def linkage (i : Inspection) (crypto : CryptoLinkage) : Linkage :=
  match i.cryptoDependencies crypto with
  | [] => .static
  | libraries => .dynamic libraries

/-- The sections that stripping would have removed. -/
def leftoverSections (i : Inspection) : List String :=
  (if i.hasSymtab then [".symtab"] else []) ++ i.debugSections

/-- Checks what the flags declare: static linkage first, then stripping. -/
def check (i : Inspection) (flags : BuildFlags) (crypto : CryptoLinkage) :
    Except InspectionFault Unit :=
  match flags.staticCrypto, i.linkage crypto with
  | true, .dynamic libraries => .error (.linkedDynamically crypto.library libraries)
  | _, _ =>
    if flags.strip && !i.isStripped then .error (.notStripped i.leftoverSections)
    else .ok ()

/-- Checks what the flags declare, as a step of a run. -/
def verify (i : Inspection) (flags : BuildFlags) (crypto : CryptoLinkage) :
    Except Failure Unit :=
  (i.check flags crypto).mapError fun fault => .invariantViolation fault.message

end Inspection

end SealedBuild
