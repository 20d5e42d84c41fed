import TransitStore.Files.Fault

/-!
# Paths

A path is a text of names between slashes.  It leads from a directory to a
place, which is given by the names on the way: one dot stays where it is, and
two dots lead back.  Places outside the directory start with two dots.
-/

namespace TransitStore.Path

/-- The most bytes of a name. -/
def maxNameSize : Nat := 255

/-- The size a path must stay below. -/
def sizeLimit : Nat := 4096

/-- The names of a path. -/
def names (path : String) : List String := (path.splitOn "/").filter (· ≠ "")

/-- Whether a path ends in a slash.  Such a path can only name a directory. -/
def endsInSlash (path : String) : Bool := path.toList.getLast? == some '/'

/-- The path of a name in a directory. -/
def join (directory name : String) : String :=
  if directory = "" ∨ endsInSlash directory then directory ++ name
  else directory ++ "/" ++ name

/-- What keeps a path from being followed at all. -/
def fault? (path : String) : Option FileFault :=
  if path.toList.contains '\x00' then some .zeroByte
  else if path = "" then some .missing
  else if sizeLimit ≤ path.utf8ByteSize then some .nameTooLong
  else none

/-- Whether a place is the directory itself or one around it. -/
def isAround (place : List String) : Bool := place.all (· == "..")

/-- The place that contains a place. -/
def above (place : List String) : List String :=
  if isAround place then place ++ [".."] else place.dropLast

/-- The place a name leads to. -/
def step (place : List String) (name : String) : List String :=
  if name = "." then place
  else if name = ".." then above place
  else place ++ [name]

/-- Whether a place has a last name with too many bytes. -/
def isTooLong (place : List String) : Bool :=
  place.getLast?.any fun name => maxNameSize < name.utf8ByteSize

/-- The fault of a place where nothing stands. -/
def absence (place : List String) : FileFault :=
  if isTooLong place then .nameTooLong else .missing

example : ["a", "..", ".", "b"].foldl step [] = ["b"] := by decide +kernel
example : ["..", "..", "a", ".."].foldl step [] = ["..", ".."] := by decide +kernel
example : join "a/" "b" = join "a" "b" := by decide +kernel
example : fault? "a\x00b" = some .zeroByte := by decide +kernel

end TransitStore.Path
