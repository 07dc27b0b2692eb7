import SiteAudit.Disk.Basic
import SiteAudit.Text.Blank
import SiteAudit.Text.Quoted
import SiteAudit.Text.Utf8
/-!
# Reading text files

A text file holds UTF-8; line ends come out as line feeds.
-/
namespace SiteAudit

inductive ReadFault where
  | path (fault : PathFault) (name : String)
  | encoding (fault : Text.Utf8.Fault)

def ReadFault.message : ReadFault → String
  | path fault name => fault.message ++ ": " ++ Text.Quoted.quoteString name
  | encoding fault => fault.message

def textOfBytes (bytes : List UInt8) : Except ReadFault (List Char) :=
  match Text.Utf8.decode bytes with
  | .ok chars => .ok (Text.unifyNewlines chars)
  | .error fault => .error (.encoding fault)

def Disk.readText (disk : Disk) (p : Path) : Except ReadFault (List Char) :=
  match disk.readBytes p with
  | .ok bytes => textOfBytes bytes
  | .error fault => .error (.path fault (disk.shown p))

end SiteAudit
