import TruenasCsi.Support.Label
import TruenasCsi.Volume.Id

/-! The names the driver derives. -/

namespace TruenasCsi.Backend

open Volume

namespace Iscsi

def maxExtentName : Nat := 64

def extentChar (c : Char) : Bool := c.isAlphanum || c == '-' || c == '.' || c == '_' || c == ':'

def sanitizeExtent (s : String) : String := Label.sanitize extentChar s

def extentName (sha256 : String → String) (id : ID) : String :=
  Label.bounded sha256 maxExtentName (sanitizeExtent id.name) id.name

def iqnChar (c : Char) : Bool := c.isLower || c.isDigit || c == '-' || c == '.'

def sanitizeIQN (s : String) : String :=
  Label.trim '-' (Label.sanitize iqnChar (String.ofList (s.toList.map Label.lowerChar)))

def targetName (pool parent : String) : String := "csi-" ++ sanitizeIQN (pool ++ "-" ++ parent)

end Iscsi

namespace Nvme

def maxSubsysName : Nat := 96

def nqnChar (c : Char) : Bool := c.isLower || c.isDigit || c == '-' || c == '.'

def sanitizeNQN (s : String) : String :=
  Label.trim '-' (Label.sanitize nqnChar (String.ofList (s.toList.map Label.lowerChar)))

def subsystemName (sha256 : String → String) (id : ID) : String :=
  Label.bounded sha256 maxSubsysName (sanitizeNQN ("csi-" ++ id.name)) id.name

def devicePath (id : ID) : String := "zvol/" ++ id.datasetPath

end Nvme

namespace Smb

def maxShareName : Nat := 80

def shareChar (c : Char) : Bool := c.isAlphanum || c == '-' || c == '_' || c == '.'

def sanitizeShare (s : String) : String := Label.sanitize shareChar s

def fullName (id : ID) (sharePrefix : String) : String :=
  if sharePrefix = "" then id.name else sharePrefix ++ "-" ++ id.name

def shareName (sha256 : String → String) (id : ID) (sharePrefix : String) : String :=
  let full := fullName id sharePrefix
  let safe := sanitizeShare full
  if safe.length ≤ maxShareName ∧ safe ≠ "" then safe
  else Label.cut sha256 maxShareName safe full

end Smb

end TruenasCsi.Backend
