import Skeletal.FileTree.Path
import Skeletal.Synthesis.ClassText
import Skeletal.Load.Realized

/-!
# Places of generated classes

Where the source, the compiled class and the archive entry of a generated class are found. The
segments of the package are directories. An archive has names and dates of its own for its members.
-/

set_option autoImplicit false

namespace Skeletal

/-- Ending of compiled classes. -/
def classExtension : String := ".class"

/-- Segments of a package; none for the unnamed one. -/
def packageSegments (package : String) : List String :=
  if package = "" then [] else Load.splitDots package

/-- Directory of a package below a root. -/
def packageDirectory (root : FilePath) (package : String) : FilePath :=
  root.belowAll (packageSegments package)

/-- Path of a file of the generated class below a root. -/
def Settings.outputPath (s : Settings) (root : FilePath) (d : Descriptor) (extension : String) :
    FilePath :=
  (packageDirectory root d.package).below (s.className d ++ extension)

/-- Archive entry of the compiled class. -/
def Settings.classEntry (s : Settings) (d : Descriptor) : String :=
  "/".intercalate (packageSegments d.package ++ [s.className d ++ classExtension])

/-- Path of the compiled class below the directory that it is compiled into. -/
def Settings.compiledPath (s : Settings) (root : FilePath) (d : Descriptor) : FilePath :=
  root.belowAll (splitSlashes (s.classEntry d))

/-- Entry of an archive that describes it. -/
def manifestEntry : String := "META-INF/MANIFEST.MF"

/-- Description of an archive. -/
def manifestText : String := "Manifest-Version: 1.0\r\n\r\n"

/-- Name of the member of an archive that is put in under an entry. -/
def memberName (entry : String) : String :=
  "/".intercalate (FilePath.contract (FilePath.segmentsOf entry))

/-- First year that an archive can date a member in. -/
def firstArchiveYear : Nat := 1980

/-- Last year that an archive can date a member in. -/
def lastArchiveYear : Nat := 2107

/-- Reasons why an archive cannot hold the date of a file. -/
inductive DateFault where
  | early
  | late
  deriving DecidableEq, Repr

/-- Failure in words. -/
def DateFault.message : DateFault → String
  | .early => "ZIP does not support timestamps before 1980"
  | .late => "ushort format requires 0 <= number <= 65535"

/-- Name of the kind of a failure. -/
def DateFault.label : DateFault → String
  | .early => "ValueError"
  | .late => "error"

/-- Why an archive cannot hold a file that is dated in a year, if it cannot. -/
def dateFault? (year : Nat) : Option DateFault :=
  if year < firstArchiveYear then some .early
  else if lastArchiveYear < year then some .late
  else none

end Skeletal
